import RuleCheck.Proofs.Authored.Apart
import RuleCheck.Proofs.Text.Occurrence

/-!
# Texts that are left alone

A text in which no entry of the tables occurs, and no two spaces side by side, is respelled as
itself. The word for nothing may stand in it in capitals, where it is respelled as it is.
-/

set_option autoImplicit false

namespace RuleCheck.Authored

open Text

def containsNull : List Char → Bool
  | [] => false
  | c :: text => (afterNull? (c :: text)).isSome || containsNull text

structure Untouched (text : List Char) : Prop where
  single : hasPair text = false
  negation : '!' ∉ text
  equal : contains ['=', '='] text = false
  and : contains ['&', '&'] text = false
  or : contains ['|', '|'] text = false
  null : containsNull text = false
  unmarked : contains placeholder text = false

structure Quiet (text : List Char) : Prop where
  equalNull : afterMatch? sameLetter ('=' :: spacedNull) text = none
  unequalNull : afterMatch? sameLetter ('<' :: '>' :: spacedNull) text = none
  capital : ∀ rest, afterNull? text = some rest → text = ['N', 'U', 'L', 'L'] ++ rest

def AllQuiet (text : List Char) : Prop := ∀ t, t <:+ text → Quiet t

structure Settled (text : List Char) : Prop where
  single : Absent (· == ·) [' ', ' '] text
  negation : Absent (· == ·) ['!'] text
  and : Absent (· == ·) ['&', '&'] text
  or : Absent (· == ·) ['|', '|'] text
  quiet : AllQuiet text

section

variable {same : Char → Char → Bool} {text t : List Char}

theorem Quiet.front {behind : List Char} (h : Quiet (t ++ behind)) : Quiet t where
  equalNull := afterMatch?_of_append h.equalNull
  unequalNull := afterMatch?_of_append h.unequalNull
  capital rest hrest := by
    have hcapital := h.capital _ (afterMatch?_append hrest behind)
    rw [← List.append_assoc] at hcapital
    exact List.append_cancel_right hcapital

theorem AllQuiet.part {part : List Char} (h : AllQuiet text) (hpart : part <:+: text) :
    AllQuiet part := fun _ ht =>
  have ⟨_, hbehind⟩ := exists_suffix_append hpart ht
  (h _ hbehind).front

namespace Settled

theorem squeeze_eq (h : Settled text) : squeeze text = text := by
  refine squeeze_of_not_hasPair ?_
  rw [hasPair_eq_contains]
  exact contains_of_absent h.single

theorem nulls_eq (h : Settled text) : nulls text = text := by
  have hequal : equalNulls text = text :=
    replaceWith_of_absent fun t ht => (h.quiet t ht).equalNull
  have hunequal : unequalNulls text = text :=
    replaceWith_of_absent fun t ht => (h.quiet t ht).unequalNull
  have hcapital : capitalNulls text = text :=
    replaceWith_eq_self fun t ht => (h.quiet t ht).capital
  rw [Authored.nulls_eq, hequal, hunequal, hcapital]

theorem replaceWith_unequal (h : Settled text) :
    replaceWith (· == ·) '!' ['='] ['<', '>'] text = text :=
  replaceWith_of_absent (h.negation.append ['='])

theorem operators_eq (h : Settled text) (hequal : contains ['=', '='] text = false) :
    operators text = text := by
  rw [Authored.operators_eq, h.replaceWith_unequal,
    replaceWith_of_absent (absent_of_contains hequal), replaceWith_of_absent h.negation,
    replaceWith_of_absent h.and, replaceWith_of_absent h.or]

theorem respelled_eq (h : Settled text) (hequal : contains ['=', '='] text = false) :
    respelled text = text := by
  rw [respelled, h.squeeze_eq, h.operators_eq hequal, h.nulls_eq, h.squeeze_eq]

theorem part {part : List Char} (h : Settled text) (hpart : part <:+: text) : Settled part where
  single := h.single.part hpart
  negation := h.negation.part hpart
  and := h.and.part hpart
  or := h.or.part hpart
  quiet := h.quiet.part hpart

end Settled

theorem absent_of_containsNull (h : containsNull text = false) (ht : t <:+ text) :
    afterNull? t = none := by
  induction text with
  | nil =>
    rw [List.suffix_nil.1 ht]
    rfl
  | cons c text ih =>
    rw [containsNull, Bool.or_eq_false_iff, Option.isSome_eq_false_iff,
      Option.isNone_iff_eq_none] at h
    rcases List.suffix_cons_iff.1 ht with rfl | ht
    · exact h.1
    · exact ih h.2 ht

theorem afterMatch?_append_eq_none {p q : List Char}
    (h : ∀ t, t <:+ text → afterMatch? same q t = none) :
    afterMatch? same (p ++ q) text = none := by
  induction p generalizing text with
  | nil => exact h text List.suffix_rfl
  | cons d p ih =>
    cases text with
    | nil => rfl
    | cons c text =>
      rw [List.cons_append, afterMatch?]
      split
      · exact ih fun t ht => h t (ht.trans (List.suffix_cons c text))
      · rfl

theorem Untouched.settled (h : Untouched text) : Settled text := by
  have hnull {p t : List Char} (ht : t <:+ text) :
      afterMatch? sameLetter (p ++ ['N', 'U', 'L', 'L']) t = none :=
    afterMatch?_append_eq_none fun u hu => by
      rw [afterMatch?_capitals]
      exact absent_of_containsNull h.null (hu.trans ht)
  refine ⟨?_, fun t ht => ?_, absent_of_contains h.and, absent_of_contains h.or, fun t ht =>
    ⟨hnull (p := ['=', ' ']) ht, hnull (p := ['<', '>', ' ']) ht, fun rest hrest => ?_⟩⟩
  · refine absent_of_contains ?_
    rw [← hasPair_eq_contains, h.single]
  · refine afterMatch?_of_head (any_head?_eq_false.2 fun hhead => ?_)
    exact h.negation (ht.subset (List.mem_of_head? hhead))
  · rw [absent_of_containsNull h.null ht] at hrest
    cases hrest

theorem Untouched.respelled_eq (h : Untouched text) : respelled text = text :=
  h.settled.respelled_eq h.equal

end

end RuleCheck.Authored
