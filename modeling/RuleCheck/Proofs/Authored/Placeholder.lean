import RuleCheck.Proofs.Authored.Apart
import RuleCheck.Proofs.Text.Pieces

/-!
# Placeholders

A placeholder is made of characters that stand in no entry of the tables. So it cuts a rule into
pieces that are respelled apart, and none of these becomes a placeholder: there are as many in the
respelt rule as in the authored one. Then the name of a member takes the place of each of them, and
where it can be no part of a placeholder, none is left.
-/

set_option autoImplicit false

namespace RuleCheck.Authored

open Text

theorem respelled_intercalate (parts : List (List Char)) :
    respelled (placeholder.intercalate parts) = placeholder.intercalate (parts.map respelled) := by
  have hmarks : ∀ c ∈ placeholder, c ∉ marks := by decide
  have hpass {c : Char} (hc : c ∈ placeholder) (text : List Char) :
      respelled (c :: text) = c :: respelled text := by
    have happend := respelled_append_cons (hmarks c hc) [] text
    rwa [respelled_nil] at happend
  induction parts with
  | nil => exact respelled_nil
  | cons part parts ih =>
    cases parts with
    | nil => rw [List.map_singleton, List.intercalate_singleton, List.intercalate_singleton]
    | cons next rest =>
      have hne : (next :: rest).map respelled ≠ [] := List.cons_ne_nil _ _
      rw [intercalate_cons part (List.cons_ne_nil next rest), placeholder, List.append_assoc]
      simp only [List.cons_append, List.nil_append]
      rw [respelled_append_cons (hmarks _ (by decide)), hpass (by decide), hpass (by decide),
        ← placeholder, ih]
      change _ = placeholder.intercalate (respelled part :: (next :: rest).map respelled)
      rw [intercalate_cons (respelled part) hne, List.append_assoc]
      rfl

theorem occurrences_respelled (text : List Char) :
    occurrences placeholder (respelled text) = occurrences placeholder text := by
  have hzero : '{' ∉ ['0', '}'] := by decide
  have hpieces : ['{', '0', '}'].intercalate (pieces (· == ·) '{' ['0', '}'] text) = text :=
    intercalate_pieces text
  have habsent : ∀ part ∈ (pieces (· == ·) '{' ['0', '}'] text).map respelled,
      contains placeholder part = false := by
    intro part hpart
    obtain ⟨piece, hpiece, rfl⟩ := List.mem_map.1 hpart
    rw [contains_respelled]
    exact contains_of_mem_pieces text hpiece
  have hne : (pieces (· == ·) '{' ['0', '}'] text).map respelled ≠ [] :=
    fun h => pieces_ne_nil text (List.map_eq_nil_iff.1 h)
  have hjoined := occurrences_intercalate hzero hne habsent
  rw [← placeholder, ← respelled_intercalate, placeholder, hpieces, List.length_map,
    length_pieces hzero, ← placeholder] at hjoined
  exact Nat.succ_inj.1 hjoined

theorem occurrences_canonical (text : List Char) :
    occurrences placeholder (canonical text) = occurrences placeholder text := by
  rw [canonical_eq, placeholder, occurrences_trim (by decide), ← placeholder,
    occurrences_respelled]

/-- A rule fails without a member just if a placeholder stands in it. With a member, the name is
put as it is between the pieces of the respelt rule, once for each placeholder of the authored one;
and no placeholder is left if the name is not empty, holds no brace and begins with no zero. -/
theorem normalize_consumes (rule : String) :
    ((∃ f, normalize rule none = .error (.fault f) ∧ f.reason = .unboundPlaceholder) ↔
        placeholder <:+: rule.toList) ∧
      (¬ placeholder <:+: rule.toList → ∃ text, normalize rule none = .ok text) ∧
      ∀ name : String, name ≠ "" → '{' ∉ name.toList → '}' ∉ name.toList →
        name.toList.head? ≠ some '0' →
        ∃ parts : List (List Char), canonical rule.toList = placeholder.intercalate parts ∧
          parts.length = occurrences placeholder rule.toList + 1 ∧
          normalize rule (some name) = .ok (String.ofList (name.toList.intercalate parts)) ∧
          ¬ placeholder <:+: name.toList.intercalate parts := by
  have hcontains : contains placeholder rule.toList = true ↔ placeholder <:+: rule.toList :=
    contains_eq_true_iff
  refine ⟨?_, ?_, ?_⟩
  · rw [← hcontains]
    constructor
    · rintro ⟨f, hf, -⟩
      by_contra habsent
      rw [normalize, contains_canonical, if_neg habsent] at hf
      cases hf
    · intro h
      rw [normalize, contains_canonical, if_pos h]
      exact ⟨_, rfl, rfl⟩
  · intro habsent
    rw [← hcontains] at habsent
    rw [normalize, contains_canonical, if_neg habsent]
    exact ⟨_, rfl⟩
  · intro name hname hopen hclose hzero
    have hnormalize : normalize rule (some name) =
        .ok (String.ofList (replace placeholder name.toList (canonical rule.toList))) := by
      by_cases h : contains placeholder (canonical rule.toList) = true
      · rw [normalize, if_pos h]
      · have habsent := absent_of_contains (Bool.not_eq_true _ ▸ h)
        have hsame : replace placeholder name.toList (canonical rule.toList) =
            canonical rule.toList := replaceWith_of_absent habsent
        rw [normalize, if_neg h, hsame]
    refine ⟨pieces (· == ·) '{' ['0', '}'] (canonical rule.toList),
      (intercalate_pieces _).symm, ?_, ?_, ?_⟩
    · rw [length_pieces (by decide), ← placeholder, occurrences_canonical]
    · rw [hnormalize]
      exact congrArg (fun text => Except.ok (String.ofList text)) (replaceWith_eq_intercalate _)
    · have hnonempty : name.toList ≠ [] := fun h => hname (String.toList_eq_nil_iff.1 h)
      obtain ⟨n, rest, hn⟩ := List.exists_cons_of_ne_nil hnonempty
      rw [hn] at hopen hclose hzero ⊢
      rw [List.mem_cons, not_or] at hopen hclose
      have hapart : n ∉ placeholder := by
        intro hmem
        simp only [placeholder, List.mem_cons, List.not_mem_nil, or_false] at hmem
        rcases hmem with rfl | rfl | rfl
        · exact hopen.1 rfl
        · exact hzero rfl
        · exact hclose.1 rfl
      have habsent := contains_intercalate hapart hopen.2
        fun q hq => contains_of_mem_pieces (canonical rule.toList) hq
      exact fun hinfix => Bool.false_ne_true (habsent.symm.trans (contains_eq_true_iff.2 hinfix))

theorem normalize_consumes_braces :
    "Age" ≠ "" ∧ '{' ∉ "Age".toList ∧ '}' ∉ "Age".toList ∧ "Age".toList.head? ≠ some '0' ∧
      ∃ parts : List (List Char),
        canonical "{{0}} > 1 && {0}  != null".toList = placeholder.intercalate parts ∧
        parts.length = 3 ∧
        normalize "{{0}} > 1 && {0}  != null" (some "Age") =
          .ok (String.ofList ("Age".toList.intercalate parts)) ∧
        ¬ placeholder <:+: "Age".toList.intercalate parts :=
  have hname : "Age" ≠ "" ∧ '{' ∉ "Age".toList ∧ '}' ∉ "Age".toList ∧
      "Age".toList.head? ≠ some '0' := by decide
  ⟨hname.1, hname.2.1, hname.2.2.1, hname.2.2.2,
    (normalize_consumes "{{0}} > 1 && {0}  != null").2.2 "Age" hname.1 hname.2.1 hname.2.2.1
      hname.2.2.2⟩

end RuleCheck.Authored
