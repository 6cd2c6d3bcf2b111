import RuleCheck.Authored
import RuleCheck.Proofs.Ending
import RuleCheck.Proofs.Text.Pieces
import RuleCheck.Settings
import RuleCheck.Template

/-!
# Messages from templates

Where every brace of a template belongs to a placeholder, the subject is shown in the place of each
one and the rest stays as it is, whatever the subject is. The default message of a violated rule is
such a template, so it never fails to be filled in.
-/

set_option autoImplicit false

namespace RuleCheck.Template

open Text

def Braceless (cs : List Char) : Prop := '{' ∉ cs ∧ '}' ∉ cs

instance (cs : List Char) : Decidable (Braceless cs) :=
  inferInstanceAs (Decidable ('{' ∉ cs ∧ '}' ∉ cs))

/-- Every brace of the template belongs to a placeholder. -/
def IsPlain (template : String) : Prop := Braceless (replace placeholder [] template.toList)

instance (template : String) : Decidable (IsPlain template) :=
  inferInstanceAs (Decidable (Braceless (replace placeholder [] template.toList)))

section

variable {subject q : List Char} {qs : List (List Char)}

theorem literal_append (h : Braceless q) (cs : List Char) :
    literal (q ++ cs) = (literal cs).map fun (text, rest) => (q ++ text, rest) := by
  induction q with
  | nil =>
    rw [List.nil_append]
    cases literal cs <;> rfl
  | cons c q ih =>
    obtain ⟨hopening, hclosing⟩ := h
    rw [List.mem_cons, not_or] at hopening hclosing
    rw [List.cons_append, literal, ih ⟨hopening.2, hclosing.2⟩]
    · cases literal cs <;> rfl
    · exact fun _ hc _ => hopening.1 hc.symm
    · exact fun _ hc _ => hclosing.1 hc.symm
    · exact fun hc _ => hopening.1 hc.symm
    · exact fun _ _ hc _ => hopening.1 hc.symm
    · exact fun hc => hclosing.1 hc.symm

theorem literal_braceless (h : Braceless q) : literal q = .ok (q, none) := by
  have happend := literal_append h []
  rw [List.append_nil] at happend
  rw [happend]
  show Except.ok (q ++ [], none) = _
  rw [List.append_nil]

def plainSlot : Slot := ⟨['0'], none, [], false⟩

theorem length_le_length_intercalate (o : Char) (old : List Char) (qs : List (List Char)) :
    qs.length ≤ ((o :: old).intercalate qs).length + 1 := by
  induction qs with
  | nil => exact Nat.zero_le _
  | cons q qs ih =>
    cases qs with
    | nil => exact Nat.le_add_left _ _
    | cons r rs =>
      rw [intercalate_cons q (List.cons_ne_nil r rs)]
      simp only [List.length_append, List.length_cons] at ih ⊢
      omega

theorem subset_intercalate (new : List Char) (h : q ∈ qs) : q ⊆ new.intercalate qs := by
  induction qs with
  | nil => cases h
  | cons r rs ih =>
    cases rs with
    | nil =>
      rw [List.mem_singleton.1 h, List.intercalate_singleton]
      exact List.Subset.refl r
    | cons s ss =>
      rw [intercalate_cons r (List.cons_ne_nil s ss)]
      rcases List.mem_cons.1 h with rfl | h
      · exact List.subset_append_of_subset_left _ (List.subset_append_left q new)
      · exact List.subset_append_of_subset_right _ (ih h)

variable [Things]

/-- A placeholder shows the subject as it is, and from there on fields are numbered. -/
theorem write_placeholder (h : Braceless q) (depth limit : Nat) {numbering : Numbering}
    (hnumbering : numbering = .unset ∨ numbering = .numbered) (rest : List Char) :
    write subject depth (limit + 1) numbering (q ++ placeholder ++ rest) =
      (write subject depth limit .numbered rest).map fun (more, numbering) =>
        (q ++ subject ++ more, numbering) := by
  have hliteral : literal (q ++ placeholder ++ rest) = .ok (q, some ('0' :: '}' :: rest)) := by
    rw [List.append_assoc, literal_append h]
    show Except.ok (q ++ [], some ('0' :: '}' :: rest)) = _
    rw [List.append_nil]
  have hslot : slot ('0' :: '}' :: rest) = .ok (plainSlot, rest) := rfl
  have hpart : shownPart subject numbering plainSlot = .ok (.text subject, .numbered) := by
    rcases hnumbering with rfl | rfl <;> rfl
  have hlayout : writeLayout subject depth limit .numbered plainSlot = .ok ([], .numbered) := by
    unfold writeLayout
    rfl
  rw [write, hliteral]
  simp only [Bind.bind, Except.bind, hslot, hpart, hlayout, render, layOut]
  cases write subject depth limit .numbered rest <;> rfl

theorem write_intercalate (h : ∀ q ∈ qs, Braceless q) (hqs : qs ≠ []) (depth : Nat) {limit : Nat}
    (hlimit : qs.length ≤ limit) {numbering : Numbering}
    (hnumbering : numbering = .unset ∨ numbering = .numbered) :
    ∃ last, write subject depth limit numbering (placeholder.intercalate qs) =
      .ok (subject.intercalate qs, last) := by
  induction qs generalizing limit numbering with
  | nil => exact absurd rfl hqs
  | cons q qs ih =>
    obtain ⟨hq, hrest⟩ := List.forall_mem_cons.1 h
    cases limit with
    | zero => cases hlimit
    | succ limit =>
      cases qs with
      | nil =>
        refine ⟨numbering, ?_⟩
        rw [List.intercalate_singleton, List.intercalate_singleton, write, literal_braceless hq]
        rfl
      | cons r rs =>
        have hne : r :: rs ≠ [] := List.cons_ne_nil r rs
        obtain ⟨last, hlast⟩ := ih hrest hne (Nat.le_of_succ_le_succ hlimit) (.inr rfl)
        refine ⟨last, ?_⟩
        rw [intercalate_cons q hne, intercalate_cons q hne,
          write_placeholder hq depth limit hnumbering, hlast]
        rfl

end

variable [Things]

def IsDefect (f : Failure) : Prop := ∃ defect, f = .template defect

theorem fails_fill (template subject : String) : FailsBy IsDefect (fill template subject) := by
  rw [fill]
  refine FailsBy.map ?_ _
  cases write subject.toList 1 (2 * template.toList.length + 2) .unset template.toList with
  | ok written => exact .ok written
  | error defect => exact .error ⟨defect, rfl⟩

theorem exists_of_fill_eq_ok {template subject message : String}
    (h : fill template subject = .ok message) :
    ∃ written, write subject.toList 1 (2 * template.toList.length + 2) .unset template.toList =
        .ok written ∧ String.ofList written.1 = message := by
  rw [fill] at h
  cases hwritten : write subject.toList 1 (2 * template.toList.length + 2) .unset
      template.toList with
  | error defect =>
    rw [hwritten] at h
    cases h
  | ok written =>
    rw [hwritten] at h
    exact ⟨written, rfl, Except.ok.inj h⟩

/-- Pieces without braces, joined by placeholders, are joined by the subject. -/
theorem fill_intercalate {template : String} {qs : List (List Char)} (hqs : qs ≠ [])
    (h : ∀ q ∈ qs, Braceless q) (htemplate : template.toList = placeholder.intercalate qs)
    (subject : String) :
    fill template subject = .ok (String.ofList (subject.toList.intercalate qs)) := by
  have hlength := length_le_length_intercalate '{' ['0', '}'] qs
  have hlimit : qs.length ≤ 2 * (placeholder.intercalate qs).length + 2 := by
    rw [placeholder]
    omega
  obtain ⟨last, hlast⟩ := write_intercalate h hqs 1 hlimit (.inl rfl)
  rw [fill, htemplate, hlast]
  rfl

/-- In a plain template each placeholder gives way to the subject. -/
theorem fill_plain {template : String} (h : IsPlain template) (subject : String) :
    fill template subject =
      .ok (String.ofList (replace placeholder subject.toList template.toList)) := by
  have hreplace (new : List Char) : replace placeholder new template.toList =
      new.intercalate (pieces (· == ·) '{' ['0', '}'] template.toList) :=
    replaceWith_eq_intercalate _
  rw [IsPlain, hreplace] at h
  rw [hreplace]
  refine fill_intercalate (pieces_ne_nil _) (fun q hq => ?_) (intercalate_pieces _).symm subject
  exact ⟨fun hmem => h.1 (subset_intercalate [] hq hmem),
    fun hmem => h.2 (subset_intercalate [] hq hmem)⟩

theorem fill_defaultMessage (subject : String) :
    fill Settings.defaultMessage subject = .ok ("The field " ++ subject ++ " is invalid.") := by
  have hsplit : Settings.defaultMessage.toList =
      placeholder.intercalate ["The field ".toList, " is invalid.".toList] := by decide
  rw [fill_intercalate (List.cons_ne_nil _ _) (by decide) hsplit]
  refine congrArg Except.ok (String.toList_inj.1 ?_)
  simp

end RuleCheck.Template
