import RuleCheck.Proofs.Token.Tiling

/-!
# Tokens written back

Whatever a token was read from, its spelling is read as the same token wherever it stands apart.
So the tokens of an expression that are written back, with single spaces between them, are read
again as they were.
-/

set_option autoImplicit false

namespace RuleCheck

open Text

namespace Lexeme

variable {c : Char} {cs text span rest : List Char} {l : Lexeme}

theorem legible_number (hstart : startsNumber text = true) (htext : numeral text = (span, rest)) :
    Legible (number (String.ofList span)) := by
  have hself : numeral span = (span, []) := by
    have := numeral_self text
    rwa [htext] at this
  have hstarts : startsNumber span = true := by
    have := startsNumber_numeral hstart
    rwa [htext] at this
  have hin : ∀ d ∈ span, inNumeral d = true := by
    have hall : ∀ d ∈ (numeral text).1, inNumeral d = true := inNumeral_of_mem_numeral
    rwa [htext] at hall
  cases span with
  | nil => cases hstarts
  | cons c cs =>
    have hspace : isSpace c = false := by
      rw [Bool.eq_false_iff]
      intro hspace
      have := hin c List.mem_cons_self
      rw [(apart_of_isSpace hspace).2.1] at this
      cases this
    refine ⟨c, cs, by simp [spelling, content], hspace, fun rest hrest => ?_⟩
    have hsteady := steady_append (hrest.any_head? (p := inNumeral) (by decide))
    have hnumeral : numeral (c :: (cs ++ rest)) = (c :: cs, rest) := by
      rw [← List.cons_append, hsteady.numeral, hself]
      rfl
    have hagain : startsNumber (c :: (cs ++ rest)) = true :=
      (hsteady.startsNumber (c :: cs)).trans hstarts
    rw [read_number hagain, hnumeral]

theorem writable_word (hc : BeginsWord c) (hcs : ∀ d ∈ cs, isWordPart d = true) :
    ']' ∉ c :: cs ∧ isBlank (c :: cs) = false := by
  constructor
  · rw [List.mem_cons, not_or]
    refine ⟨?_, fun hmem => absurd (hcs _ hmem) (by decide)⟩
    rintro rfl
    exact absurd hc.2.2.1 (by decide)
  · rw [isBlank, List.all_cons, hc.1, Bool.false_and]

theorem legible_ofWord (hc : BeginsWord c) (hcs : ∀ d ∈ cs, isWordPart d = true) :
    Legible (ofWord (String.ofList (c :: cs))) := by
  obtain ⟨hbracket, hblank⟩ := writable_word hc hcs
  unfold ofWord
  split
  · exact legible_keyword _
  · exact legible_name (by rwa [String.toList_ofList]) (by rwa [String.toList_ofList])

theorem legible_of_symbol? (h : symbol? text = some (l, rest)) : Legible l := by
  unfold symbol? at h
  split at h <;> cases h
  all_goals
    first
    | exact legible_comparison _
    | exact legible_arithmetic _
    | exact legible_opening
    | exact legible_closing

theorem Taken.legible (h : Taken l span rest) : Legible l := by
  cases h with
  | number hstart hspan => exact legible_number hstart hspan
  | text content _ => exact legible_text _
  | name _ hbracket hblank =>
    exact legible_name (by rwa [String.toList_ofList]) (by rwa [String.toList_ofList])
  | word hc hcs _ => exact legible_ofWord hc hcs
  | symbol hsymbol => exact legible_of_symbol? hsymbol

end Lexeme

theorem Tile.Cover.legible {position : Nat} {cs : List Char} {tiles : List Tile}
    (h : Cover position cs tiles) : ∀ t ∈ tiles, t.token.lexeme.Legible := by
  induction h with
  | nil => exact List.forall_mem_nil _
  | space _ _ ih => exact ih
  | tile _ htaken _ ih => exact List.forall_mem_cons.2 ⟨htaken.legible, ih⟩

theorem Token.scan_append_blank {gap : List Char} (hgap : isBlank gap = true) (position : Nat)
    (cs : List Char) : scan position (cs ++ gap) = scan position cs := by
  fun_induction scan position cs with
  | case1 position =>
    induction gap generalizing position with
    | nil => rw [List.append_nil, scan]
    | cons c gap ih =>
      rw [isBlank, List.all_cons, Bool.and_eq_true] at hgap
      rw [List.nil_append, scan, if_pos hgap.1]
      exact ih hgap.2 (position + 1)
  | case2 position c cs hc ih => rw [List.cons_append, scan, if_pos hc, ih]
  | case3 position c cs hc mistake hread =>
    rw [List.cons_append, scan, if_neg hc, Lexeme.read_append_blank hgap, hread]
    rfl
  | case4 position c cs hc l rest hread ih =>
    have hlength : (c :: (cs ++ gap)).length - (rest ++ gap).length =
        (c :: cs).length - rest.length := by
      simp only [List.length_cons, List.length_append]
      omega
    rw [List.cons_append, scan, if_neg hc, Lexeme.read_append_blank hgap, hread, ← ih, ← hlength]
    rfl

def rendered (ts : List Token) : String := String.ofList (Lexeme.spaced (ts.map Token.lexeme))

/-- The tokens of an expression that are written back are read as the same lexemes, also with a
space behind the last, as it parts that from the empty text of the end. -/
theorem exists_tokens_rendered {source : String} {ts : List Token} (h : tokens source = .ok ts) :
    ∃ again, tokens (rendered ts) = .ok again ∧
      again.map Token.lexeme = ts.map Token.lexeme ∧ tokens (rendered ts ++ " ") = .ok again := by
  obtain ⟨tiles, rfl, hcover⟩ := Tile.exists_cover (scan_of_tokens h)
  have hlegible : ∀ l ∈ (tiles.map Tile.token).map Token.lexeme, l.Legible := by
    rw [List.map_map]
    intro l hl
    obtain ⟨t, ht, rfl⟩ := List.mem_map.1 hl
    exact hcover.legible t ht
  have htokens : tokens (rendered (tiles.map Tile.token)) = .ok (Token.placed 0 _) :=
    tokens_of_spaced String.toList_ofList hlegible
  refine ⟨_, htokens, Token.map_lexeme_placed 0 _, ?_⟩
  rw [tokens, String.toList_append, Token.scan_append_blank (by decide), scan_of_tokens htokens]

theorem exists_tokens_rendered_adjacentRule :
    tokens adjacentRule = .ok adjacentTokens ∧
      rendered adjacentTokens = "[a b] <= 'it''s' AND .5 [ex]" ∧
      ∃ again, tokens (rendered adjacentTokens) = .ok again ∧
        again.map Token.lexeme = adjacentTokens.map Token.lexeme ∧
        tokens (rendered adjacentTokens ++ " ") = .ok again :=
  have htokens : tokens adjacentRule = .ok adjacentTokens := by decide +kernel
  ⟨htokens, by decide, exists_tokens_rendered htokens⟩

end RuleCheck
