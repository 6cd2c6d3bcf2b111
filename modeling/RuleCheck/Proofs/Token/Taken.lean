import RuleCheck.Proofs.Token.Placeless

/-!
# What the first lexeme takes

A lexeme at the front of a text takes as many characters as it can and leaves the rest. How far
it goes is told by its kind: a number to the end of the numeral, a text to a quote that no quote
follows, a name in brackets to the bracket, a word to the first character that is no part of it.
-/

set_option autoImplicit false

namespace RuleCheck

open Text

namespace Lexeme

inductive Taken : Lexeme → List Char → List Char → Prop
  | number {span rest : List Char} (hstart : startsNumber (span ++ rest) = true)
      (hspan : numeral (span ++ rest) = (span, rest)) :
      Taken (number (String.ofList span)) span rest
  | text (content : List Char) {rest : List Char} (h : rest.head? ≠ some '\'') :
      Taken (text (String.ofList content)) ('\'' :: doubled content ++ ['\'']) rest
  | name {content : List Char} (rest : List Char) (hbracket : ']' ∉ content)
      (hblank : isBlank content = false) :
      Taken (name (String.ofList content)) ('[' :: content ++ [']']) rest
  | word {c : Char} {cs rest : List Char} (hc : BeginsWord c)
      (hcs : ∀ d ∈ cs, isWordPart d = true) (h : rest.head?.any isWordPart = false) :
      Taken (ofWord (String.ofList (c :: cs))) (c :: cs) rest
  | symbol {l : Lexeme} {rest : List Char}
      (h : symbol? (l.content.toList ++ rest) = some (l, rest)) : Taken l l.content.toList rest

theorem isWordPart_of_isWordStart {c : Char} (h : isWordStart c = true) : isWordPart c = true := by
  rw [isWordStart, Bool.or_eq_true] at h
  rw [isWordPart, isLetterOrNumeral, Bool.or_eq_true, Bool.or_eq_true]
  exact h.imp .inl id

theorem solid_of_isWordPart {c : Char} (h : isWordPart c = true) : isSpace c = false := by
  cases hc : isSpace c with
  | false => rfl
  | true =>
    rw [(apart_of_isSpace hc).1] at h
    cases h

section

variable {c : Char} {cs text rest : List Char} {l : Lexeme}

theorem beginsWord_of_isWordStart (hword : isWordStart c = true)
    (hnumber : ¬startsNumber (c :: cs) = true) (hquote : c ≠ '\'') (hbracket : c ≠ '[') :
    BeginsWord c := by
  have hpoint : c ≠ '.' := by
    rintro rfl
    exact absurd hword (by decide)
  have hdigit : isDigit c = false := by
    rw [startsNumber_cons hpoint] at hnumber
    exact Bool.eq_false_iff.2 hnumber
  exact ⟨solid_of_isWordPart (isWordPart_of_isWordStart hword), hdigit, hword, hquote, hbracket,
    hpoint⟩

theorem symbol?_split (h : symbol? text = some (l, rest)) : text = l.content.toList ++ rest := by
  unfold symbol? at h
  split at h <;> cases h <;> rfl

theorem taken_of_numeral (hstart : startsNumber text = true) :
    ∃ span, text = span ++ (numeral text).2 ∧
      Taken (number (String.ofList (numeral text).1)) span (numeral text).2 := by
  have happ := numeral_append text
  refine ⟨(numeral text).1, happ.symm, .number ?_ ?_⟩
  · rw [happ, hstart]
  · rw [happ]

theorem taken_of_bracketName (h : bracketName cs = .ok (l, rest)) :
    ∃ span, '[' :: cs = span ++ rest ∧ Taken l span rest := by
  by_cases hmem : ']' ∈ cs
  · obtain ⟨content, tail, rfl, hcontent⟩ := List.eq_append_cons_of_mem hmem
    rw [bracketName_closed hcontent] at h
    split at h
    · cases h
    · rename_i hblank
      cases h
      exact ⟨_, by simp, .name rest hcontent (by simpa using hblank)⟩
  · rw [bracketName_open hmem] at h
    cases h

theorem taken_of_front (hc : BeginsWord c) (cs : List Char) :
    ∃ span, c :: cs = span ++ (front isWordPart cs).2 ∧
      Taken (ofWord (String.ofList (c :: (front isWordPart cs).1))) span
        (front isWordPart cs).2 := by
  refine ⟨c :: (front isWordPart cs).1, ?_, .word hc mem_front (any_head?_front isWordPart cs)⟩
  rw [List.cons_append, front_append]

theorem taken_of_read (h : read c cs = .ok (l, rest)) :
    ∃ span, c :: cs = span ++ rest ∧ Taken l span rest := by
  unfold read at h
  split at h
  · rename_i hstart
    obtain ⟨rfl, rfl⟩ := Prod.mk.inj (Except.ok.inj h)
    exact taken_of_numeral hstart
  · rename_i hstart
    split at h
    · rename_i hquote
      obtain rfl : c = '\'' := by simpa using hquote
      split at h
      · rename_i content tail hcontent
        cases h
        obtain ⟨rfl, hrest⟩ := quotedContent?_split hcontent
        exact ⟨_, by simp, .text content hrest⟩
      · cases h
    · rename_i hquote
      split at h
      · rename_i hbracket
        obtain rfl : c = '[' := by simpa using hbracket
        exact taken_of_bracketName h
      · rename_i hbracket
        split at h
        · rename_i hword
          cases h
          exact taken_of_front (beginsWord_of_isWordStart hword hstart (by simpa using hquote)
            (by simpa using hbracket)) cs
        · split at h
          · rename_i found hfound
            cases h
            have hsplit := symbol?_split hfound
            exact ⟨l.content.toList, hsplit, .symbol (hsplit ▸ hfound)⟩
          · cases h

end

end Lexeme

end RuleCheck
