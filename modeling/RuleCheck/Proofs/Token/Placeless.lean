import RuleCheck.Proofs.Token.First

/-!
# Tokens without their places

Which lexemes a text holds does not depend on where it stands, and white space at its ends
does not count: no token goes on with white space, and what is open at the end of a text stays
open behind it.
-/

set_option autoImplicit false

namespace RuleCheck

open Text

namespace Lexeme

def scan (cs : List Char) : Except Misspelling (List Lexeme) :=
  match cs with
  | [] => .ok []
  | c :: cs =>
    if isSpace c then scan cs
    else
      match _h : read c cs with
      | .error mistake => .error mistake
      | .ok (lexeme, rest) => (scan rest).map (lexeme :: ·)
termination_by cs.length
decreasing_by
  · simp
  · exact length_read_lt (by assumption)

theorem scan_nil : scan [] = .ok [] := by rw [scan]

theorem scan_space {c : Char} (hc : isSpace c = true) (cs : List Char) :
    scan (c :: cs) = scan cs := by
  rw [scan, if_pos hc]

theorem scan_of_read {c : Char} {cs rest : List Char} {l : Lexeme} (hc : isSpace c = false)
    (h : read c cs = .ok (l, rest)) : scan (c :: cs) = (scan rest).map (l :: ·) := by
  rw [scan, if_neg (by simp [hc])]
  split
  · rename_i heq
    rw [h] at heq
    cases heq
  · rename_i heq
    rw [h] at heq
    cases heq
    rfl

theorem scan_of_mistake {c : Char} {cs : List Char} {mistake : Misspelling}
    (hc : isSpace c = false) (h : read c cs = .error mistake) :
    scan (c :: cs) = .error mistake := by
  rw [scan, if_neg (by simp [hc])]
  split
  · rename_i heq
    rw [h] at heq
    cases heq
    rfl
  · rename_i heq
    rw [h] at heq
    cases heq

theorem scan_blank_append {gap : List Char} (hgap : isBlank gap = true) (cs : List Char) :
    scan (gap ++ cs) = scan cs := by
  induction gap with
  | nil => rfl
  | cons c gap ih =>
    rw [isBlank, List.all_cons, Bool.and_eq_true] at hgap
    rw [List.cons_append, scan_space hgap.1, ih hgap.2]

end Lexeme

/-- The tokens of a text are its lexemes, and a mistake is the same at every position. -/
theorem Token.scan_cases (position : Nat) (cs : List Char) :
    (∃ ts, Token.scan position cs = .ok ts ∧ Lexeme.scan cs = .ok (ts.map Token.lexeme)) ∨
      ∃ mistake place, Token.scan position cs = .error (.misspelt mistake place) ∧
        Lexeme.scan cs = .error mistake := by
  fun_induction Token.scan position cs with
  | case1 position => exact .inl ⟨[], rfl, Lexeme.scan_nil⟩
  | case2 position c cs hc ih =>
    rw [Lexeme.scan_space hc]
    exact ih
  | case3 position c cs hc mistake hread =>
    exact .inr ⟨mistake, position, rfl, Lexeme.scan_of_mistake (by simpa using hc) hread⟩
  | case4 position c cs hc lexeme rest hread ih =>
    rw [Lexeme.scan_of_read (by simpa using hc) hread]
    rcases ih with ⟨ts, hts, hls⟩ | ⟨mistake, place, hts, hls⟩
    · rw [hts, hls]
      exact .inl ⟨_, rfl, rfl⟩
    · rw [hts, hls]
      exact .inr ⟨mistake, place, rfl, rfl⟩

namespace Lexeme

def codes (r : Ranges) : List Nat := r.flatMap fun (lo, hi) => List.range' lo (hi + 1 - lo)

theorem mem_codes {r : Ranges} {n : Nat} (h : r.has n = true) : n ∈ codes r := by
  fun_induction Ranges.has r n with
  | case1 => cases h
  | case2 => cases h
  | case3 lo hi rest n hlo hhi =>
    refine List.mem_append_left _ (List.mem_range'_1.2 ?_)
    omega
  | case4 lo hi rest n hlo hhi ih => exact List.mem_append_right _ (ih h)

/-- What holds of each of the 29 characters holds of white space. -/
theorem of_isSpace {P : Char → Prop} (h : ∀ n ∈ codes spaceRanges, P (Char.ofNat n)) {c : Char}
    (hc : isSpace c = true) : P c := by
  have := h c.toNat (mem_codes hc)
  rwa [Char.ofNat_toNat] at this

/-- White space goes on with no word and no numeral, and is no sign. -/
theorem apart_of_isSpace {c : Char} (hc : isSpace c = true) :
    isWordPart c = false ∧ inNumeral c = false ∧ c ∉ ['>', '='] :=
  of_isSpace (P := fun c => isWordPart c = false ∧ inNumeral c = false ∧
    c ∉ ['>', '=']) (by decide +kernel) hc

section

variable {gap rest : List Char}

theorem any_head?_blank {p : Char → Bool} (hp : ∀ c, isSpace c = true → p c = false)
    (hgap : isBlank gap = true) : gap.head?.any p = false := by
  cases gap with
  | nil => rfl
  | cons c gap =>
    rw [isBlank, List.all_cons, Bool.and_eq_true] at hgap
    exact hp c hgap.1

theorem steady_append (hrest : rest.head?.any inNumeral = false) : Steady (· ++ rest) where
  pass _ := rfl
  head {cs} h := by
    cases cs with
    | nil => exact hrest
    | cons c cs => exact h

theorem front_append_of_stop {p : Char → Bool} (hrest : rest.head?.any p = false)
    (cs : List Char) : front p (cs ++ rest) = ((front p cs).1, (front p cs).2 ++ rest) := by
  induction cs with
  | nil => exact front_of_head hrest
  | cons c cs ih =>
    rw [front, Prod.mk.injEq] at ih ⊢
    by_cases hc : p c = true
    · rw [List.cons_append, front, List.takeWhile_cons_of_pos hc, List.dropWhile_cons_of_pos hc,
        List.takeWhile_cons_of_pos hc, List.dropWhile_cons_of_pos hc, ih.1, ih.2]
      exact ⟨rfl, rfl⟩
    · rw [List.cons_append, front, List.takeWhile_cons_of_neg hc, List.dropWhile_cons_of_neg hc,
        List.takeWhile_cons_of_neg hc, List.dropWhile_cons_of_neg hc]
      exact ⟨rfl, rfl⟩

theorem symbol?_append (hrest : rest.head?.any ['>', '='].contains = false) (c : Char)
    (cs : List Char) :
    symbol? (c :: (cs ++ rest)) = (symbol? (c :: cs)).map fun (l, tail) => (l, tail ++ rest) := by
  cases hhead : cs.head?.any ['>', '='].contains with
  | false =>
    have hboth : (cs ++ rest).head?.any ['>', '='].contains = false := by
      cases cs with
      | nil => exact hrest
      | cons d cs => exact hhead
    rw [symbol?_of_head hhead, symbol?_of_head hboth, Option.map_map]
    rfl
  | true =>
    obtain ⟨d, tail, rfl, hd⟩ : ∃ d tail, cs = d :: tail ∧ (d = '>' ∨ d = '=') := by
      cases cs with
      | nil => cases hhead
      | cons d tail => exact ⟨d, tail, rfl, by simpa using hhead⟩
    by_cases hless : c = '<'
    · subst hless
      rcases hd with rfl | rfl <;> rfl
    by_cases hgreater : c = '>'
    · subst hgreater
      rcases hd with rfl | rfl <;> rfl
    rw [symbol?_of_ne hless hgreater, symbol?_of_ne hless hgreater, Option.map_map]
    rfl

theorem not_mem_blank {c : Char} (hc : isSpace c = false) (hgap : isBlank gap = true) :
    c ∉ gap := fun h => by
  rw [List.all_eq_true.1 hgap c h] at hc
  cases hc

theorem quotedContent?_append_blank (hgap : isBlank gap = true) (cs : List Char) :
    quotedContent? (cs ++ gap) =
      (quotedContent? cs).map fun (content, rest) => (content, rest ++ gap) := by
  fun_induction quotedContent? cs with
  | case1 cs ih =>
    rw [List.cons_append, List.cons_append, quotedContent?, ih, Option.map_map, Option.map_map]
    rfl
  | case2 cs hne =>
    refine quotedContent?_quote ?_
    cases cs with
    | nil =>
      intro h
      exact not_mem_blank (by decide) hgap (List.mem_of_head? h)
    | cons c cs => exact fun h => by cases h; exact hne _ rfl
  | case3 c cs _ hc ih =>
    rw [List.cons_append, quotedContent?_cons (fun h => hc h), ih, Option.map_map, Option.map_map]
    rfl
  | case4 =>
    exact quotedContent?_eq_none (not_mem_blank (by decide) hgap)

theorem bracketName_append_blank (hgap : isBlank gap = true) (cs : List Char) :
    bracketName (cs ++ gap) = (bracketName cs).map fun (l, rest) => (l, rest ++ gap) := by
  by_cases hmem : ']' ∈ cs
  · obtain ⟨content, rest, rfl, hcontent⟩ := List.eq_append_cons_of_mem hmem
    rw [List.append_assoc, List.cons_append, bracketName_closed hcontent,
      bracketName_closed hcontent]
    split <;> rfl
  · rw [bracketName_open hmem, bracketName_open]
    · rfl
    · rw [List.mem_append, not_or]
      exact ⟨hmem, not_mem_blank (by decide) hgap⟩

/-- White space behind a text changes neither its first lexeme nor the mistake in it. -/
theorem read_append_blank (hgap : isBlank gap = true) (c : Char) (cs : List Char) :
    read c (cs ++ gap) = (read c cs).map fun (l, rest) => (l, rest ++ gap) := by
  have hsteady := steady_append (any_head?_blank (fun c hc => (apart_of_isSpace hc).2.1) hgap)
  have hstart : startsNumber (c :: (cs ++ gap)) = startsNumber (c :: cs) :=
    hsteady.startsNumber (c :: cs)
  have hnumeral : numeral (c :: (cs ++ gap)) =
      ((numeral (c :: cs)).1, (numeral (c :: cs)).2 ++ gap) := hsteady.numeral (c :: cs)
  have hword := front_append_of_stop
    (any_head?_blank (fun c hc => (apart_of_isSpace hc).1) hgap) cs
  have horder : gap.head?.any ['>', '='].contains = false := by
    refine any_head?_blank (fun c hc => ?_) hgap
    exact Bool.eq_false_iff.2 fun h => (apart_of_isSpace hc).2.2 (List.contains_iff_mem.1 h)
  unfold read
  rw [hstart, hnumeral, quotedContent?_append_blank hgap, bracketName_append_blank hgap, hword,
    symbol?_append horder]
  split
  · rfl
  · split
    · cases quotedContent? cs <;> rfl
    · split
      · rfl
      · split
        · rfl
        · cases symbol? (c :: cs) <;> rfl

theorem scan_append_blank (hgap : isBlank gap = true) (cs : List Char) :
    scan (cs ++ gap) = scan cs := by
  fun_induction scan cs with
  | case1 =>
    have := scan_blank_append hgap []
    rwa [List.append_nil, scan_nil] at this
  | case2 c cs hc ih => rw [List.cons_append, scan_space hc, ih]
  | case3 c cs hc mistake hread =>
    refine scan_of_mistake (by simpa using hc) ?_
    rw [List.append_eq, read_append_blank hgap, hread]
    rfl
  | case4 c cs hc lexeme rest hread ih =>
    rw [← ih]
    refine scan_of_read (by simpa using hc) ?_
    rw [List.append_eq, read_append_blank hgap, hread]
    rfl

theorem scan_trim (cs : List Char) : scan (trim cs) = scan cs := by
  have hleft : scan (trimLeft cs) = scan cs := by
    have happ := List.takeWhile_append_dropWhile (p := isSpace) (l := cs)
    have hblank : isBlank (cs.takeWhile isSpace) = true := List.all_takeWhile
    rw [← scan_blank_append hblank (trimLeft cs), trimLeft, happ]
  have hright (cs : List Char) : scan (trimRight cs) = scan cs := by
    have happ := List.takeWhile_append_dropWhile (p := isSpace) (l := cs.reverse)
    have hblank : isBlank (cs.reverse.takeWhile isSpace).reverse = true := by
      rw [isBlank, List.all_reverse]
      exact List.all_takeWhile
    rw [← scan_append_blank hblank (trimRight cs), trimRight, ← List.reverse_append, happ,
      List.reverse_reverse]
  rw [trim, hright, hleft]

end

end Lexeme

end RuleCheck
