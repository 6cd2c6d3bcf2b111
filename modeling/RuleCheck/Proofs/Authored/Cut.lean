import RuleCheck.Proofs.Authored.Lexed

/-!
# Cutting tokens off an authored rule

The tokens of an authored rule are those of the grammar and the operators of programming
languages, and each takes as many characters as it can. What a token becomes is read off the
token itself, whatever stands behind it.
-/

set_option autoImplicit false

namespace RuleCheck.Authored

open Text Lexeme

def cut : List Char → Option (List Char × List Char)
  | '=' :: '=' :: cs => some (['=', '='], cs)
  | '!' :: '=' :: cs => some (['!', '='], cs)
  | '!' :: cs => some (['!'], cs)
  | '&' :: '&' :: cs => some (['&', '&'], cs)
  | '|' :: '|' :: cs => some (['|', '|'], cs)
  | c :: cs =>
    match Lexeme.read c cs with
    | .ok (_, rest) => some ((c :: cs).take ((c :: cs).length - rest.length), rest)
    | .error _ => none
  | [] => none

inductive Kind : List Char → List Char → Prop
  | number {raw rest : List Char} (hstart : startsNumber (raw ++ rest) = true)
      (hraw : numeral (raw ++ rest) = (raw, rest)) : Kind raw rest
  | text (content : List Char) {rest : List Char} (h : rest.head? ≠ some '\'') :
      Kind ('\'' :: doubled content ++ ['\'']) rest
  | name {content : List Char} (rest : List Char) (hbracket : ']' ∉ content)
      (hblank : isBlank content = false) : Kind ('[' :: content ++ [']']) rest
  | word {c : Char} {cs rest : List Char} (hc : BeginsWord c)
      (hcs : ∀ d ∈ cs, isWordPart d = true) (h : rest.head?.any isWordPart = false) :
      Kind (c :: cs) rest
  | sign {c : Char} (rest : List Char) (hc : c ∈ ['+', '-', '*', '/', '%', '(', ')']) :
      Kind [c] rest
  | less {rest : List Char} (hgreater : rest.head? ≠ some '>') (hequal : rest.head? ≠ some '=') :
      Kind ['<'] rest
  | greater {rest : List Char} (h : rest.head? ≠ some '=') : Kind ['>'] rest
  | equality {op : List Char} (rest : List Char) (hop : (equality? op).isSome = true) :
      Kind op rest
  | negation {rest : List Char} (h : rest.head? ≠ some '=') : Kind ['!'] rest
  | and (rest : List Char) : Kind ['&', '&'] rest
  | or (rest : List Char) : Kind ['|', '|'] rest

theorem head?_ne_of_forall {text : List Char} {c : Char} (h : ∀ cs, text = c :: cs → False) :
    text.head? ≠ some c := by
  intro hhead
  obtain ⟨cs, hcs⟩ := List.head?_eq_some_iff.1 hhead
  exact h cs hcs

section

variable {c : Char} {cs text rest : List Char} {l : Lexeme}

theorem kind_of_symbol? (h : symbol? text = some (l, rest)) : Kind l.content.toList rest := by
  unfold symbol? at h
  split at h <;> cases h
  · exact (.equality rest rfl : Kind ['<', '>'] rest)
  · exact (.equality rest rfl : Kind ['<', '='] rest)
  · exact (.equality rest rfl : Kind ['>', '='] rest)
  · exact (.equality rest rfl : Kind ['='] rest)
  · rename_i hgreater hequal
    exact .less (head?_ne_of_forall hgreater) (head?_ne_of_forall hequal)
  · rename_i hequal
    exact .greater (head?_ne_of_forall hequal)
  · exact (.sign rest (by decide) : Kind ['+'] rest)
  · exact (.sign rest (by decide) : Kind ['-'] rest)
  · exact (.sign rest (by decide) : Kind ['*'] rest)
  · exact (.sign rest (by decide) : Kind ['/'] rest)
  · exact (.sign rest (by decide) : Kind ['%'] rest)
  · exact (.sign rest (by decide) : Kind ['('] rest)
  · exact (.sign rest (by decide) : Kind [')'] rest)

theorem kind_of_read (h : Lexeme.read c cs = .ok (l, rest)) :
    ∃ token, c :: cs = token ++ rest ∧ Kind token rest := by
  obtain ⟨span, hsplit, htaken⟩ := taken_of_read h
  refine ⟨span, hsplit, ?_⟩
  cases htaken with
  | number hstart hspan => exact .number hstart hspan
  | text content hquote => exact .text content hquote
  | name _ hbracket hblank => exact .name rest hbracket hblank
  | word hc hcs hword => exact .word hc hcs hword
  | symbol hsymbol => exact kind_of_symbol? hsymbol

end

/-- The characters of a cut token and the rest make up the text. -/
theorem kind_of_cut {text token rest : List Char} (h : cut text = some (token, rest)) :
    text = token ++ rest ∧ Kind token rest := by
  unfold cut at h
  split at h
  · cases h
    exact ⟨rfl, .equality _ rfl⟩
  · cases h
    exact ⟨rfl, .equality _ rfl⟩
  · rename_i cs hne
    cases h
    exact ⟨rfl, .negation (head?_ne_of_forall hne)⟩
  · cases h
    exact ⟨rfl, .and _⟩
  · cases h
    exact ⟨rfl, .or _⟩
  · rename_i c cs _ _ _ _ _
    split at h
    · rename_i l rest' hread
      obtain ⟨token', happ, hkind⟩ := kind_of_read hread
      obtain ⟨htake, rfl⟩ := Prod.mk.inj (Option.some.inj h)
      have htoken : token = token' := by
        rw [← htake, happ, List.length_append, Nat.add_sub_cancel, List.take_left']
        rfl
      exact ⟨htoken ▸ happ, htoken ▸ hkind⟩
    · cases h
  · cases h

section

variable {token rest : List Char}

def Whole (token rest : List Char) : Prop :=
  (∀ d ∈ token, isWordPart d = true) ∧ rest.head?.any isWordPart = false

/-- A token begins with no space, and with the word for nothing only if it is a word. -/
theorem Kind.front (h : Kind token rest) :
    ∃ c cs, token = c :: cs ∧ isSpace c = false ∧ (sameLetter 'n' c = true → Whole token rest) := by
  have plain {c : Char} {cs : List Char} (hspace : isSpace c = false) (hc : c ≠ 'n' ∧ c ≠ 'N') :
      ∃ d ds, c :: cs = d :: ds ∧ isSpace d = false ∧
        (sameLetter 'n' d = true → Whole (c :: cs) rest) := by
    refine ⟨c, cs, rfl, hspace, fun hn => ?_⟩
    rw [sameLetter_eq_false (by decide) hc] at hn
    cases hn
  cases h with
  | number hstart hraw =>
    have hlength := length_numeral_lt hstart
    cases token with
    | nil =>
      rw [hraw] at hlength
      exact absurd hlength (Nat.lt_irrefl _)
    | cons c cs =>
      have hc : inNumeral c = true := inNumeral_of_startsNumber hstart
      refine plain (solid_of_inNumeral hc) ⟨?_, ?_⟩
      all_goals
        rintro rfl
        exact absurd hc (by decide)
  | text => exact plain (by decide) (by decide)
  | name => exact plain (by decide) (by decide)
  | word hc hcs h =>
    exact ⟨_, _, rfl, hc.1, fun _ =>
      ⟨List.forall_mem_cons.2 ⟨isWordPart_of_isWordStart hc.2.2.1, hcs⟩, h⟩⟩
  | @sign c _ hc =>
    have htable : ∀ c ∈ ['+', '-', '*', '/', '%', '(', ')'],
        isSpace c = false ∧ c ≠ 'n' ∧ c ≠ 'N' := by decide
    exact plain (htable c hc).1 (htable c hc).2
  | less => exact plain (by decide) (by decide)
  | greater => exact plain (by decide) (by decide)
  | equality _ hop =>
    unfold equality? at hop
    split at hop
    case h_7 => cases hop
    all_goals exact plain (by decide) (by decide)
  | negation => exact plain (by decide) (by decide)
  | and => exact plain (by decide) (by decide)
  | or => exact plain (by decide) (by decide)

theorem afterNull?_token (h : Kind token rest) :
    afterNull? (token ++ rest) = (afterNull? token).map (· ++ rest) := by
  obtain ⟨c, cs, rfl, -, hword⟩ := h.front
  cases hc : sameLetter 'n' c with
  | false =>
    rw [List.cons_append, afterNull?, afterNull?, nullWord, afterMatch?_eq_none hc,
      afterMatch?_eq_none hc]
    rfl
  | true =>
    exact afterNull?_append (any_head?_mono (fun _ => isWordPart_of_continuesNull) (hword hc).2)

theorem Kind.whole_of_null {after : List Char} (h : Kind token rest)
    (hnull : afterNull? token = some after) : Whole token rest := by
  obtain ⟨c, cs, rfl, -, hword⟩ := h.front
  cases hc : sameLetter 'n' c with
  | true => exact hword hc
  | false =>
    rw [afterNull?, nullWord, afterMatch?_eq_none hc] at hnull
    cases hnull

theorem contains_of_not_mem (h : '{' ∉ token) (rest : List Char) :
    contains placeholder (token ++ rest) =
      (contains placeholder token || contains placeholder rest) := by
  have hne : ∀ c ∈ token, c ≠ '{' := by
    rintro c hc rfl
    exact h hc
  have hself := contains_pass_all (p := ['0', '}']) hne []
  rw [List.append_nil] at hself
  rw [placeholder, contains_pass_all hne, hself]
  rfl

theorem contains_of_closed {c : Char} (hc : c ∉ placeholder) (cs rest : List Char) :
    contains placeholder (cs ++ [c] ++ rest) =
      (contains placeholder (cs ++ [c]) || contains placeholder rest) := by
  rw [List.append_assoc, List.cons_append, List.nil_append, placeholder, contains_append_cons hc,
    contains_append_cons hc, Bool.or_assoc]
  rfl

theorem contains_token (h : Kind token rest) :
    contains placeholder (token ++ rest) =
      (contains placeholder token || contains placeholder rest) := by
  cases h with
  | number hstart hraw =>
    refine contains_of_not_mem (fun hmem => ?_) rest
    have hparts : ∀ c ∈ (numeral (token ++ rest)).1, inNumeral c = true := inNumeral_of_mem_numeral
    rw [hraw] at hparts
    exact absurd (hparts '{' hmem) (by decide)
  | text content => exact contains_of_closed (by decide) ('\'' :: doubled content) rest
  | @name content => exact contains_of_closed (by decide) ('[' :: content) rest
  | @word c cs _ hc hcs =>
    refine contains_of_not_mem (fun hmem => ?_) rest
    have hparts : ∀ d ∈ c :: cs, isWordPart d = true :=
      List.forall_mem_cons.2 ⟨isWordPart_of_isWordStart hc.2.2.1, hcs⟩
    exact absurd (hparts '{' hmem) (by decide)
  | @sign c _ hc =>
    refine contains_of_not_mem (fun hmem => ?_) rest
    exact absurd (List.mem_singleton.1 hmem ▸ hc) (by decide)
  | less => exact contains_of_not_mem (by decide) rest
  | greater => exact contains_of_not_mem (by decide) rest
  | equality _ hop =>
    refine contains_of_not_mem ?_ rest
    unfold equality? at hop
    split at hop
    case h_7 => cases hop
    all_goals decide
  | negation => exact contains_of_not_mem (by decide) rest
  | and => exact contains_of_not_mem (by decide) rest
  | or => exact contains_of_not_mem (by decide) rest

def lexed (token : List Char) : List Lexeme := (scan (respelled token)).toOption.getD []

theorem scan_token_of {ls : List Lexeme}
    (hrest : scan (respelled (token ++ rest)) = prepend ls (scan (respelled rest)))
    (hself : scan (respelled (token ++ [])) = prepend ls (scan (respelled []))) :
    scan (respelled (token ++ rest)) = prepend (lexed token) (scan (respelled rest)) := by
  rw [List.append_nil, respelled_nil, scan_nil] at hself
  rw [hrest, lexed, hself]
  simp [prepend, Except.map, Except.toOption]

/-- A token is read as if it stood alone, unless it is an equality with nothing behind it. -/
theorem scan_token (h : Kind token rest) (hseam : token ∈ runOn → rest.head? ≠ some '=')
    (hnull : (equality? token).isSome = true → afterSpacedNull? rest = none) :
    scan (respelled (token ++ rest)) = prepend (lexed token) (scan (respelled rest)) := by
  cases h with
  | number hstart hraw =>
    have hstart' := startsNumber_numeral hstart
    have hraw' := numeral_self (token ++ rest)
    rw [hraw] at hstart' hraw'
    exact scan_token_of (scan_number hstart hraw)
      (scan_number (by rwa [List.append_nil]) (by rwa [List.append_nil]))
  | text content h => exact scan_token_of (scan_text content h) (scan_text content (by simp))
  | name _ hbracket hblank =>
    exact scan_token_of (scan_name hbracket hblank) (scan_name hbracket hblank)
  | word hc hcs h => exact scan_token_of (scan_word hc hcs h) (scan_word hc hcs rfl)
  | @sign c _ hc =>
    have htable : ∀ c ∈ ['+', '-', '*', '/', '%', '(', ')'], (sign? c).isSome = true := by decide
    obtain ⟨l, hl⟩ := Option.isSome_iff_exists.1 (htable c hc)
    exact scan_token_of (scan_plain_sign hc hl) (scan_plain_sign hc hl)
  | less hgreater hequal =>
    exact scan_token_of (scan_less hgreater hequal) (scan_less (by simp) (by simp))
  | greater hequal => exact scan_token_of (scan_greater hequal) (scan_greater (by simp))
  | equality _ hop =>
    obtain ⟨⟨plain, test⟩, hop'⟩ := Option.isSome_iff_exists.1 hop
    exact scan_token_of (scan_equality hop' hseam (hnull hop))
      (scan_equality hop' (fun _ => by simp) rfl)
  | negation hequal => exact scan_token_of (scan_negation hequal) (scan_negation (by simp))
  | and => exact scan_token_of (scan_and rest) (scan_and [])
  | or => exact scan_token_of (scan_or rest) (scan_or [])

end

end RuleCheck.Authored
