import Mathlib.Data.List.Infix
import RuleCheck.Proofs.Text.Occurrence

/-!
# Pieces between occurrences

A replacement cuts a text at the occurrences it finds. Joined by what was replaced the pieces are
the text again, joined by the new text they are the result. No piece holds an occurrence. Where
the first character of an occurrence does not come again in it, occurrences cannot overlap, and
there is one piece more than there are occurrences at any place.
-/

set_option autoImplicit false

namespace RuleCheck.Text

def occurrences (part text : List Char) : Nat := text.tails.countP fun t => part.isPrefixOf t

section

variable {same : Char → Char → Bool} {o c : Char} {old new text rest q : List Char}
  {qs : List (List Char)}

def pieces (same : Char → Char → Bool) (o : Char) (old text : List Char) : List (List Char) :=
  match _h : afterMatch? same (o :: old) text with
  | some rest => [] :: pieces same o old rest
  | none =>
    match text with
    | [] => [[]]
    | c :: text => (pieces same o old text).modifyHead (c :: ·)
termination_by text.length
decreasing_by
  · have := length_afterMatch? (by assumption); simp at this; omega
  · simp

theorem pieces_ne_nil (text : List Char) : pieces same o old text ≠ [] := by
  fun_induction pieces same o old text with
  | case1 => exact List.cons_ne_nil _ _
  | case2 => exact List.cons_ne_nil _ _
  | case3 c text hnone ih =>
    obtain ⟨q, qs, hqs⟩ := List.exists_cons_of_ne_nil ih
    rw [hqs]
    exact List.cons_ne_nil _ _

theorem intercalate_cons (q : List Char) (h : qs ≠ []) :
    new.intercalate (q :: qs) = q ++ new ++ new.intercalate qs := by
  obtain ⟨r, rs, rfl⟩ := List.exists_cons_of_ne_nil h
  exact List.intercalate_cons_cons

/-- A character in front of a joined text belongs to its first piece. -/
theorem intercalate_modifyHead (c : Char) (h : qs ≠ []) :
    new.intercalate (qs.modifyHead (c :: ·)) = c :: new.intercalate qs := by
  obtain ⟨r, rs, rfl⟩ := List.exists_cons_of_ne_nil h
  rw [List.modifyHead_cons]
  cases rs with
  | nil => rw [List.intercalate_singleton, List.intercalate_singleton]
  | cons s rs => simp only [List.intercalate_cons_cons, List.cons_append]

/-- The pieces joined by the new text are the text after the replacement. -/
theorem replaceWith_eq_intercalate (text : List Char) :
    replaceWith same o old new text = new.intercalate (pieces same o old text) := by
  fun_induction pieces same o old text with
  | case1 text rest hfound ih =>
    rw [replaceWith_of_match hfound, intercalate_cons _ (pieces_ne_nil rest), ih, List.nil_append]
  | case2 => rw [replaceWith_nil, List.intercalate_singleton]
  | case3 c text hnone ih =>
    rw [replaceWith_cons hnone, intercalate_modifyHead c (pieces_ne_nil text), ih]

theorem intercalate_pieces (text : List Char) :
    (o :: old).intercalate (pieces (· == ·) o old text) = text := by
  rw [← replaceWith_eq_intercalate]
  exact replaceWith_eq_self fun t _ rest hfound => eq_append_of_afterMatch? hfound

theorem prefix_of_mem_head? (text : List Char) (h : q ∈ (pieces same o old text).head?) :
    q <+: text := by
  fun_induction pieces same o old text generalizing q with
  | case1 text rest hfound ih =>
    cases h
    exact List.nil_prefix
  | case2 =>
    cases h
    exact List.nil_prefix
  | case3 c text hnone ih =>
    have hne : pieces same o old text ≠ [] := pieces_ne_nil text
    obtain ⟨r, rs, hrs⟩ := List.exists_cons_of_ne_nil hne
    rw [hrs] at h ih
    cases h
    exact (List.prefix_cons_inj c).2 (ih rfl)

theorem contains_of_mem_pieces (text : List Char) (h : q ∈ pieces (· == ·) o old text) :
    contains (o :: old) q = false := by
  fun_induction pieces (· == ·) o old text generalizing q with
  | case1 text rest hfound ih =>
    rcases List.mem_cons.1 h with rfl | h
    · rfl
    · exact ih h
  | case2 =>
    cases List.mem_singleton.1 h
    rfl
  | case3 c text hnone ih =>
    have hne : pieces (· == ·) o old text ≠ [] := pieces_ne_nil text
    obtain ⟨r, rs, hrs⟩ := List.exists_cons_of_ne_nil hne
    obtain ⟨more, hmore⟩ := prefix_of_mem_head? text (show r ∈ _ by rw [hrs]; rfl)
    rw [hrs, List.modifyHead_cons] at h
    rcases List.mem_cons.1 h with rfl | h
    · -- An occurrence at the front of the piece would be one at the front of the text.
      have hlonger : afterMatch? (· == ·) (o :: old) (c :: r ++ more) = none := by
        rw [List.cons_append, hmore]
        exact hnone
      rw [contains, afterMatch?_of_append hlonger, ih (hrs ▸ List.mem_cons_self)]
      rfl
    · exact ih (hrs ▸ List.mem_cons_of_mem r h)

theorem isPrefixOf_eq_isSome (part text : List Char) :
    part.isPrefixOf text = (afterMatch? (· == ·) part text).isSome := by
  induction part generalizing text with
  | nil => rfl
  | cons d part ih =>
    cases text with
    | nil => rfl
    | cons c text =>
      rw [List.isPrefixOf, afterMatch?]
      cases hd : d == c with
      | true => exact ih text
      | false => rfl

theorem afterMatch?_self (p text : List Char) :
    afterMatch? (· == ·) p (p ++ text) = some text := by
  induction p with
  | nil => rfl
  | cons d p ih => rw [List.cons_append, afterMatch?_cons (beq_self_eq_true d), ih]

theorem contains_eq_true_iff : contains (o :: old) text = true ↔ o :: old <:+: text := by
  induction text with
  | nil => simp [contains]
  | cons c text ih =>
    rw [contains, Bool.or_eq_true, ih, ← isPrefixOf_eq_isSome, List.isPrefixOf_iff_prefix,
      List.infix_cons_iff]

theorem occurrences_nil : occurrences (o :: old) [] = 0 := rfl

theorem occurrences_cons_of_match (h : afterMatch? (· == ·) (o :: old) (c :: text) = some rest) :
    occurrences (o :: old) (c :: text) = occurrences (o :: old) text + 1 := by
  rw [occurrences, List.tails_cons, List.countP_cons, isPrefixOf_eq_isSome, h]
  rfl

theorem occurrences_cons_of_none (h : afterMatch? (· == ·) (o :: old) (c :: text) = none) :
    occurrences (o :: old) (c :: text) = occurrences (o :: old) text := by
  rw [occurrences, List.tails_cons, List.countP_cons, isPrefixOf_eq_isSome, h]
  rfl

theorem occurrences_of_absent (h : contains (o :: old) text = false) :
    occurrences (o :: old) text = 0 := by
  induction text with
  | nil => rfl
  | cons c text ih =>
    rw [contains, Bool.or_eq_false_iff, Option.isSome_eq_false_iff,
      Option.isNone_iff_eq_none] at h
    rw [occurrences_cons_of_none h.1, ih h.2]

theorem occurrences_pass_all {cs : List Char} (h : o ∉ cs) (text : List Char) :
    occurrences (o :: old) (cs ++ text) = occurrences (o :: old) text := by
  induction cs with
  | nil => rfl
  | cons c cs ih =>
    rw [List.mem_cons, not_or] at h
    have hnone : afterMatch? (· == ·) (o :: old) (c :: (cs ++ text)) = none :=
      afterMatch?_eq_none (beq_eq_false_iff_ne.2 h.1)
    rw [List.cons_append, occurrences_cons_of_none hnone, ih h.2]

/-- Where occurrences cannot overlap there is one piece more than there are occurrences. -/
theorem length_pieces (h : o ∉ old) (text : List Char) :
    (pieces (· == ·) o old text).length = occurrences (o :: old) text + 1 := by
  fun_induction pieces (· == ·) o old text with
  | case1 text rest hfound ih =>
    have hsplit := eq_append_of_afterMatch? hfound
    subst hsplit
    rw [List.cons_append] at hfound ⊢
    rw [occurrences_cons_of_match hfound, occurrences_pass_all h, List.length_cons, ih]
  | case2 => rfl
  | case3 c text hnone ih => rw [List.length_modifyHead, ih, occurrences_cons_of_none hnone]

/-- A character that no occurrence holds parts those before it from those behind it. -/
theorem occurrences_append_cons (h : c ∉ o :: old) (a b : List Char) :
    occurrences (o :: old) (a ++ c :: b) = occurrences (o :: old) a + occurrences (o :: old) b := by
  have hparts : ∀ d ∈ o :: old, (d == c) = false :=
    fun d hd => beq_eq_false_iff_ne.2 fun hdc => h (hdc ▸ hd)
  induction a with
  | nil =>
    have hnone : afterMatch? (· == ·) (o :: old) (c :: b) = none :=
      afterMatch?_eq_none (hparts o List.mem_cons_self)
    rw [List.nil_append, occurrences_cons_of_none hnone, occurrences_nil, Nat.zero_add]
  | cons e a ih =>
    have hfound : afterMatch? (· == ·) (o :: old) (e :: (a ++ c :: b)) =
        (afterMatch? (· == ·) (o :: old) (e :: a)).map (· ++ c :: b) :=
      afterMatch?_append_cons hparts (e :: a)
    rw [List.cons_append]
    cases hmatch : afterMatch? (· == ·) (o :: old) (e :: a) with
    | none =>
      rw [hmatch] at hfound
      rw [occurrences_cons_of_none hfound, occurrences_cons_of_none hmatch, ih]
    | some rest =>
      rw [hmatch] at hfound
      rw [occurrences_cons_of_match hfound, occurrences_cons_of_match hmatch, ih]
      omega

/-- White space at the ends is in no occurrence of a text without white space. -/
theorem occurrences_trim (h : ∀ d ∈ o :: old, isSpace d = false) (text : List Char) :
    occurrences (o :: old) (trim text) = occurrences (o :: old) text := by
  have hspace {c : Char} (hc : isSpace c = true) : c ∉ o :: old := fun hmem => by
    rw [h c hmem] at hc
    cases hc
  have hleft : occurrences (o :: old) (trimLeft text) = occurrences (o :: old) text := by
    induction text with
    | nil => rfl
    | cons c text ih =>
      by_cases hc : isSpace c = true
      · have happend := occurrences_append_cons (hspace hc) [] text
        rw [List.nil_append, occurrences_nil, Nat.zero_add] at happend
        rw [trimLeft, List.dropWhile_cons_of_pos hc, ← trimLeft, ih, happend]
      · rw [trimLeft, List.dropWhile_cons_of_neg hc]
  have hright (back : List Char) : occurrences (o :: old) (back.dropWhile isSpace).reverse =
      occurrences (o :: old) back.reverse := by
    induction back with
    | nil => rfl
    | cons c back ih =>
      by_cases hc : isSpace c = true
      · rw [List.dropWhile_cons_of_pos hc, ih, List.reverse_cons,
          occurrences_append_cons (hspace hc), occurrences_nil, Nat.add_zero]
      · rw [List.dropWhile_cons_of_neg hc]
  rw [trim, trimRight, hright, List.reverse_reverse, hleft]

/-- No occurrence reaches from a piece into the one that is put behind it. -/
theorem occurrences_append_of_absent (ho : o ∉ old) (hq : contains (o :: old) q = false)
    (text : List Char) :
    occurrences (o :: old) (q ++ o :: text) = occurrences (o :: old) (o :: text) := by
  induction q with
  | nil => rfl
  | cons c q ih =>
    rw [contains, Bool.or_eq_false_iff, Option.isSome_eq_false_iff,
      Option.isNone_iff_eq_none] at hq
    have hnone : afterMatch? (· == ·) (o :: old) (c :: (q ++ o :: text)) = none := by
      rw [afterMatch?] at hq ⊢
      split
      · rename_i hc
        have hparts : ∀ d ∈ old, (d == o) = false :=
          fun d hd => beq_eq_false_iff_ne.2 fun hdo => ho (hdo ▸ hd)
        rw [if_pos hc] at hq
        rw [afterMatch?_append_cons hparts q, hq.1]
        rfl
      · rfl
    rw [List.cons_append, occurrences_cons_of_none hnone, ih hq.2]

theorem occurrences_append_self (ho : o ∉ old) (text : List Char) :
    occurrences (o :: old) (o :: (old ++ text)) = occurrences (o :: old) text + 1 := by
  have hfound : afterMatch? (· == ·) (o :: old) (o :: (old ++ text)) = some text :=
    afterMatch?_self (o :: old) text
  rw [occurrences_cons_of_match hfound, occurrences_pass_all ho]

/-- Pieces that hold no occurrence make one occurrence at each place where they are joined. -/
theorem occurrences_intercalate (ho : o ∉ old) (hqs : qs ≠ [])
    (h : ∀ q ∈ qs, contains (o :: old) q = false) :
    occurrences (o :: old) ((o :: old).intercalate qs) + 1 = qs.length := by
  induction qs with
  | nil => exact absurd rfl hqs
  | cons q qs ih =>
    obtain ⟨hq, hrest⟩ := List.forall_mem_cons.1 h
    cases qs with
    | nil =>
      rw [List.intercalate_singleton, occurrences_of_absent hq]
      rfl
    | cons r rs =>
      have hne : r :: rs ≠ [] := List.cons_ne_nil r rs
      rw [intercalate_cons q hne, List.append_assoc, List.cons_append,
        occurrences_append_of_absent ho hq, occurrences_append_self ho, ih hne hrest]
      rfl

/-- Joining pieces by a text that no occurrence can overlap makes no occurrence. -/
theorem contains_intercalate {n : Char} (hn : n ∉ o :: old) (hnew : o ∉ new)
    (h : ∀ q ∈ qs, contains (o :: old) q = false) :
    contains (o :: old) ((n :: new).intercalate qs) = false := by
  induction qs with
  | nil => rfl
  | cons q qs ih =>
    obtain ⟨hq, hrest⟩ := List.forall_mem_cons.1 h
    cases qs with
    | nil => rwa [List.intercalate_singleton]
    | cons r rs =>
      rw [intercalate_cons q (List.cons_ne_nil r rs), List.append_assoc, List.cons_append,
        contains_append_cons hn, hq, Bool.false_or,
        contains_pass_all fun c hc => ne_of_mem_of_not_mem hc hnew]
      exact ih hrest

end

end RuleCheck.Text
