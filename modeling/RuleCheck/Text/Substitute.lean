import RuleCheck.Text.Case

/-!
# Substitution

Every occurrence of a text is replaced by another, from the left and without overlap. The
search goes on behind what it has written, so a replacement is never replaced again. An
empty text occurs before every character and at the end.
-/

set_option autoImplicit false

namespace RuleCheck.Text

def afterMatch? (same : Char → Char → Bool) : (old text : List Char) → Option (List Char)
  | [], text => some text
  | _ :: _, [] => none
  | o :: old, c :: text => if same o c then afterMatch? same old text else none

theorem length_afterMatch? {same : Char → Char → Bool} {old text rest : List Char}
    (h : afterMatch? same old text = some rest) : rest.length + old.length = text.length := by
  induction old generalizing text with
  | nil => simp_all [afterMatch?]
  | cons o old ih =>
    cases text with
    | nil => simp [afterMatch?] at h
    | cons c text =>
      simp only [afterMatch?] at h
      split at h
      · have := ih h; simp; omega
      · simp at h

def replaceWith (same : Char → Char → Bool) (o : Char) (old new : List Char)
    (text : List Char) : List Char :=
  match _h : afterMatch? same (o :: old) text with
  | some rest => new ++ replaceWith same o old new rest
  | none =>
    match text with
    | [] => []
    | c :: text => c :: replaceWith same o old new text
termination_by text.length
decreasing_by
  · have := length_afterMatch? (by assumption); simp at this; omega
  · simp

def interleave (new : List Char) : List Char → List Char
  | [] => new
  | c :: text => new ++ c :: interleave new text

def substitute (same : Char → Char → Bool) (old new text : List Char) : List Char :=
  match old with
  | [] => interleave new text
  | o :: old => replaceWith same o old new text

def replace (old new text : List Char) : List Char := substitute (· == ·) old new text

def replaceIgnoringCase (old new text : List Char) : List Char :=
  substitute sameLetter old new text

def contains (part : List Char) : List Char → Bool
  | [] => part.isEmpty
  | c :: text => (afterMatch? (· == ·) part (c :: text)).isSome || contains part text

end RuleCheck.Text
