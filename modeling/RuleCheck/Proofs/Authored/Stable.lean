import RuleCheck.Proofs.Authored.Quiet

/-!
# Respelling twice

What respelling has written is settled: a second pass finds nothing in it but doubled equality
signs, which a longer run of them leaves behind. These become fewer each time. So a respelt rule
is respelt as itself just if no two equality signs stand side by side in it.
-/

set_option autoImplicit false

namespace RuleCheck.Authored

open Text

section

variable {text : List Char}

/-- The operators that are respelt to words are gone, and no later replacement writes them. -/
theorem contains_operator (text : List Char) :
    contains ['!'] (respelled text) = false ∧ contains ['&', '&'] (respelled text) = false ∧
      contains ['|', '|'] (respelled text) = false := by
  simp only [respelled]
  refine ⟨?_, ?_, ?_⟩
  · rw [contains_squeeze (by decide), contains_nulls (by decide) (by decide), operators_eq,
      contains_replaceWith (by decide) (by decide), contains_replaceWith (by decide) (by decide),
      contains_replaceWith_self (by decide)]
  · rw [contains_squeeze (by decide), contains_nulls (by decide) (by decide), operators_eq,
      contains_replaceWith (by decide) (by decide), contains_replaceWith_self (by decide)]
  · rw [contains_squeeze (by decide), contains_nulls (by decide) (by decide), operators_eq,
      contains_replaceWith_self (by decide)]

theorem settled_respelled (text : List Char) : Settled (respelled text) := by
  obtain ⟨hnegation, hand, hor⟩ := contains_operator text
  have hsingle : contains [' ', ' '] (respelled text) = false := by
    rw [← hasPair_eq_contains, respelled, hasPair_squeeze]
  exact ⟨absent_of_contains hsingle, absent_of_contains hnegation, absent_of_contains hand,
    absent_of_contains hor, (respelt text).quiet⟩

theorem settled_canonical (text : List Char) : Settled (canonical text) := by
  rw [canonical_eq]
  exact (settled_respelled text).part (trim_within _)

theorem count_equal_nulls_le (text : List Char) : (nulls text).count '=' ≤ text.count '=' := by
  rw [nulls_eq]
  exact Nat.le_trans (count_replaceWith_le (by decide) _)
    (Nat.le_trans (count_replaceWith_le (by decide) _) (count_replaceWith_le (by decide) _))

/-- The signs of equality become fewer where two stand side by side. -/
theorem count_respelled_lt (h : Settled text) (hequal : contains ['=', '='] text = true) :
    (respelled text).count '=' < text.count '=' := by
  have hoperators : (operators text).count '=' < text.count '=' := by
    have hdoubled : (replaceWith (· == ·) '=' ['='] ['='] text).count '=' < text.count '=' :=
      (count_replaceWith_lt (by decide) text).2 hequal
    rw [operators_eq, h.replaceWith_unequal]
    refine Nat.lt_of_le_of_lt ?_ hdoubled
    exact Nat.le_trans (count_replaceWith_le (by decide) _)
      (Nat.le_trans (count_replaceWith_le (by decide) _) (count_replaceWith_le (by decide) _))
  rw [respelled, h.squeeze_eq]
  exact Nat.lt_of_le_of_lt ((squeeze_sublist _).count_le '=')
    (Nat.lt_of_le_of_lt (count_equal_nulls_le _) hoperators)

/-- A respelt rule is respelt as itself just if no two equality signs stand side by side in it. -/
theorem canonical_canonical_iff (text : List Char) :
    canonical (canonical text) = canonical text ↔
      contains ['=', '='] (canonical text) = false := by
  have hsettled := settled_canonical text
  constructor
  · intro hsame
    by_contra hequal
    have hlt := count_respelled_lt hsettled (by simpa using hequal)
    have hle := (trim_within (respelled (canonical text))).sublist.count_le '='
    rw [← canonical_eq, hsame] at hle
    omega
  · intro hequal
    rw [canonical_eq (canonical text), hsettled.respelled_eq hequal, canonical_eq, trim_trim]

end

/-- For a rule without placeholder, normalizing the outcome once more leaves it as it is just if
no two equality signs stand side by side in it. Both never fail, and no member counts. -/
theorem normalize_normalize {rule : String} (h : contains placeholder rule.toList = false)
    (member again : Option String) :
    ∃ n, normalize rule member = .ok n ∧
      (normalize n again = .ok n ↔ contains ['=', '='] n.toList = false) := by
  have hcanonical := contains_canonical rule.toList
  rw [h] at hcanonical
  have htwice := contains_canonical (canonical rule.toList)
  rw [hcanonical] at htwice
  have hagain : normalize (String.ofList (canonical rule.toList)) again =
      .ok (String.ofList (canonical (canonical rule.toList))) := by
    simp [normalize, htwice]
  refine ⟨String.ofList (canonical rule.toList), by simp [normalize, hcanonical], ?_⟩
  rw [hagain, String.toList_ofList, ← canonical_canonical_iff, Except.ok.injEq]
  exact String.ofList_inj

theorem normalize_normalize_run :
    contains placeholder "a === b && !(c != null)".toList = false ∧
      ∃ n, normalize "a === b && !(c != null)" none = .ok n ∧
        (normalize n none = .ok n ↔ contains ['=', '='] n.toList = false) :=
  have hplain : contains placeholder "a === b && !(c != null)".toList = false := by decide
  ⟨hplain, normalize_normalize hplain none none⟩

-- Of three signs the first pass leaves two, and only the second pass leaves one.
example :
    (normalize "a === b && !(c != null)" none).toOption =
        some "a == b AND NOT (c IS NOT NULL )" ∧
      (normalize "a == b AND NOT (c IS NOT NULL )" none).toOption =
        some "a = b AND NOT (c IS NOT NULL )" := by
  decide +kernel

end RuleCheck.Authored
