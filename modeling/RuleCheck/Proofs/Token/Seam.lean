import RuleCheck.Proofs.Token.Placeless

/-!
# Texts one after another

A text that is read to its end leaves no token open. What stands behind it is read by itself,
unless it goes on with a word, a numeral, a sign of order or a text in quotes. A parenthesis
goes on with nothing, so a text keeps its lexemes between parentheses.
-/

set_option autoImplicit false

namespace RuleCheck

open Text

namespace Lexeme

structure Stops (rest : List Char) : Prop where
  word : rest.head?.any isWordPart = false
  numeral : rest.head?.any inNumeral = false
  order : rest.head?.any ['>', '='].contains = false
  quote : rest.head? ≠ some '\''

theorem stops_closing (rest : List Char) : Stops (')' :: rest) where
  word := (by decide : isWordPart ')' = false)
  numeral := (by decide : inNumeral ')' = false)
  order := rfl
  quote := by simp

variable {c : Char} {cs ds content tail rest : List Char} {l : Lexeme} {ls ms : List Lexeme}

theorem quotedContent?_append (hrest : rest.head? ≠ some '\'')
    (h : quotedContent? cs = some (content, tail)) :
    quotedContent? (cs ++ rest) = some (content, tail ++ rest) := by
  obtain ⟨rfl, htail⟩ := quotedContent?_split h
  rw [List.append_assoc, List.cons_append]
  refine quotedContent?_doubled content ?_
  cases tail with
  | nil => exact hrest
  | cons d tail => exact htail

theorem bracketName_append (h : bracketName cs = .ok (l, tail)) :
    bracketName (cs ++ rest) = .ok (l, tail ++ rest) := by
  by_cases hmem : ']' ∈ cs
  · obtain ⟨content, tail', rfl, hcontent⟩ := List.eq_append_cons_of_mem hmem
    rw [bracketName_closed hcontent] at h
    rw [List.append_assoc, List.cons_append, bracketName_closed hcontent]
    split at h
    · cases h
    · cases h
      rw [if_neg ‹_›]
  · rw [bracketName_open hmem] at h
    cases h

theorem read_append (hrest : Stops rest) (h : read c cs = .ok (l, tail)) :
    read c (cs ++ rest) = .ok (l, tail ++ rest) := by
  have hsteady := steady_append hrest.numeral
  have hstart : startsNumber (c :: (cs ++ rest)) = startsNumber (c :: cs) :=
    hsteady.startsNumber (c :: cs)
  have hnumeral : numeral (c :: (cs ++ rest)) =
      ((numeral (c :: cs)).1, (numeral (c :: cs)).2 ++ rest) := hsteady.numeral (c :: cs)
  -- One kind of token is tried after another, and none of them reaches beyond the seam.
  unfold read at h ⊢
  rw [hstart, hnumeral, front_append_of_stop hrest.word, symbol?_append hrest.order]
  split at h
  · cases h
    exact if_pos ‹_›
  rw [if_neg ‹_›]
  split at h
  · rw [if_pos ‹_›]
    split at h
    · rename_i hcontent
      cases h
      rw [quotedContent?_append hrest.quote hcontent]
    · cases h
  rw [if_neg ‹_›]
  split at h
  · rw [if_pos ‹_›]
    exact bracketName_append h
  rw [if_neg ‹_›]
  split at h
  · cases h
    exact if_pos ‹_›
  · rw [if_neg ‹_›]
    cases hsymbol : symbol? (c :: cs) with
    | none =>
      rw [hsymbol] at h
      cases h
    | some found =>
      rw [hsymbol] at h
      cases h
      rfl

/-- Behind a text that is read to its end the rest is read by itself. -/
theorem scan_append (hrest : Stops rest) (h : scan cs = .ok ls) (hms : scan rest = .ok ms) :
    scan (cs ++ rest) = .ok (ls ++ ms) := by
  fun_induction scan cs generalizing ls with
  | case1 =>
    cases h
    exact hms
  | case2 c cs hc ih =>
    rw [List.cons_append, scan_space hc]
    exact ih h
  | case3 c cs hc mistake hread => cases h
  | case4 c cs hc lexeme tail hread ih =>
    rw [List.cons_append, scan_of_read (by simpa using hc) (read_append hrest hread)]
    cases htail : scan tail with
    | error mistake =>
      rw [htail] at h
      cases h
    | ok ks =>
      rw [htail] at h
      cases h
      rw [ih htail]
      rfl

theorem scan_opening (h : scan cs = .ok ls) : scan ('(' :: cs) = .ok (opening :: ls) := by
  rw [scan_of_read (by decide) (read_sign (by decide) rfl), h]
  rfl

theorem scan_closing (h : scan cs = .ok ls) : scan (')' :: cs) = .ok (closing :: ls) := by
  rw [scan_of_read (by decide) (read_sign (by decide) rfl), h]
  rfl

theorem scan_paren (h : scan cs = .ok ls) (hms : scan rest = .ok ms) :
    scan ('(' :: cs ++ ')' :: rest) = .ok (opening :: ls ++ closing :: ms) := by
  rw [List.cons_append]
  exact scan_opening (scan_append (stops_closing rest) h (scan_closing hms))

/-- A keyword with spaces around it, before an opening parenthesis. -/
theorem scan_between (k : Keyword) (h : scan cs = .ok ls) :
    scan (' ' :: (k.word.toList ++ ' ' :: cs)) = .ok (keyword k :: ls) := by
  obtain ⟨c, ds, hspelling, hspace, hread⟩ := exists_read_keyword k
  have hnext := hread (' ' :: cs) (by decide : isWordPart ' ' = false)
  rw [scan_space (by decide), hspelling, List.cons_append, scan_of_read hspace hnext,
    scan_space (by decide), h]
  rfl

end Lexeme

end RuleCheck
