import RuleCheck.Proofs.Authored.Untouched

/-!
# What respelling writes

At no place of a respelt rule stands a test for nothing in the authored form, or a word for
nothing but in capitals. Whatever stands at the front of a rule, what is written for it begins
none in front of what the rest becomes, and the rest is shorter.
-/

set_option autoImplicit false

namespace RuleCheck.Authored

open Text

section

variable {new text rest r : List Char} {c : Char}

theorem allQuiet_nil : AllQuiet [] := fun t ht => by
  rw [List.suffix_nil.1 ht]
  exact ⟨rfl, rfl, fun _ h => by cases h⟩

theorem AllQuiet.cons (h : AllQuiet text) (hc : Quiet (c :: text)) : AllQuiet (c :: text) := by
  intro t ht
  rcases List.suffix_cons_iff.1 ht with rfl | ht
  · exact hc
  · exact h t ht

/-- Where no test begins, a character other than the first letter of that word is quiet. -/
theorem quiet_of_ne (hc : c ≠ 'n' ∧ c ≠ 'N')
    (hequal : afterMatch? sameLetter ('=' :: spacedNull) (c :: text) = none)
    (hunequal : afterMatch? sameLetter ('<' :: '>' :: spacedNull) (c :: text) = none) :
    Quiet (c :: text) :=
  ⟨hequal, hunequal, fun rest h => by
    rw [afterNull?_cons hc] at h
    cases h⟩

/-- A character that begins neither a test nor the word for nothing. -/
theorem quiet_cons (hc : c ≠ '=' ∧ c ≠ '<' ∧ c ≠ 'n' ∧ c ≠ 'N') (text : List Char) :
    Quiet (c :: text) :=
  quiet_of_ne hc.2.2 (afterMatch?_eq_none (sameLetter_eq_false (by decide) ⟨hc.1, hc.1⟩))
    (afterMatch?_eq_none (sameLetter_eq_false (by decide) ⟨hc.2.1, hc.2.1⟩))

def capitalFront (t : List Char) : Bool :=
  t.take 4 == ['N', 'U', 'L', 'L'] || clash eitherCase nullWord t

def staysQuiet : List Char → Bool
  | [] => true
  | c :: t =>
    clash eitherCase ('=' :: spacedNull) (c :: t) &&
      clash eitherCase ('<' :: '>' :: spacedNull) (c :: t) && capitalFront (c :: t) && staysQuiet t

theorem afterMatch?_of_clashes {p : List Char} (hp : ∀ d ∈ p, d ∈ nullLetters)
    (h : clash eitherCase p new = true) (rest : List Char) :
    afterMatch? sameLetter p (new ++ rest) = none := by
  refine afterMatch?_of_clash ?_ rest
  rw [clash_congr fun d hd c => sameLetter_eq (hp d hd) c]
  exact h

theorem AllQuiet.append (h : AllQuiet rest) (hnew : staysQuiet new = true) :
    AllQuiet (new ++ rest) := by
  induction new with
  | nil => exact h
  | cons c t ih =>
    simp only [staysQuiet, Bool.and_eq_true] at hnew
    obtain ⟨⟨⟨hequal, hunequal⟩, hcapital⟩, ht⟩ := hnew
    refine (ih ht).cons ⟨?_, ?_, fun more hmore => ?_⟩
    · exact afterMatch?_of_clashes (by decide) hequal rest
    · exact afterMatch?_of_clashes (by decide) hunequal rest
    · rw [capitalFront, Bool.or_eq_true, beq_iff_eq] at hcapital
      rcases hcapital with hword | hclash
      · have hsplit := List.take_append_drop 4 (c :: t)
        rw [hword] at hsplit
        rw [← List.cons_append, ← hsplit, List.append_assoc] at hmore ⊢
        rw [afterNull?_word] at hmore
        rw [Option.some_inj.1 hmore]
      · rw [← List.cons_append, afterNull?, afterMatch?_of_clashes (by decide) hclash] at hmore
        cases hmore

structure Respelt (text r : List Char) : Prop where
  quiet : AllQuiet r
  spaced : afterSpacedNull? text = none → afterMatch? sameLetter spacedNull r = none

/-- The characters that are written at the front, with what the rest has become. -/
theorem respelt_append (hnew : staysQuiet new = true)
    (hspaced : clash eitherCase spacedNull new = true) (h : AllQuiet r) :
    Respelt text (new ++ r) :=
  ⟨h.append hnew, fun _ => afterMatch?_of_clashes (by decide) hspaced r⟩

theorem respelt_cons (hc : c ≠ ' ') (hquiet : Quiet (c :: r)) (h : AllQuiet r) :
    Respelt text (c :: r) :=
  ⟨h.cons hquiet, fun _ => afterMatch?_eq_none (sameLetter_eq_false (by decide) ⟨hc, hc⟩)⟩

/-- Where no word for nothing is behind a space, none is at the front without it. -/
theorem afterNull?_of_spaced (h : afterSpacedNull? (' ' :: text) = none) :
    afterNull? text = none ∧ afterSpacedNull? text = none := by
  cases text with
  | nil => exact ⟨rfl, rfl⟩
  | cons c t =>
    by_cases hc : c = ' '
    · subst hc
      exact ⟨afterNull?_cons (by decide) t, h⟩
    · have hdrop : (c :: t).dropWhile (· == ' ') = c :: t :=
        List.dropWhile_cons_of_neg (by simpa using hc)
      rw [afterSpacedNull?, hdrop] at h
      exact ⟨h, afterSpacedNull?_of_ne hc t⟩

theorem Respelt.space (h : Respelt text (respelled text)) :
    Respelt (' ' :: text) (respelled (' ' :: text)) := by
  rcases respelled_space_cases text with hspace | hspace
  · rw [hspace]
    exact ⟨h.quiet, fun hnone => h.spaced (afterNull?_of_spaced hnone).2⟩
  · rw [hspace]
    refine ⟨h.quiet.cons (quiet_cons (by decide) _), fun hnone => ?_⟩
    rw [spacedNull, afterMatch?_letter (by decide) (by decide), afterMatch?_capitals,
      afterNull?_respelled, (afterNull?_of_spaced hnone).1]
    rfl

theorem length_afterSpacedNull? (h : afterSpacedNull? text = some rest) :
    rest.length < text.length := by
  unfold afterSpacedNull? at h
  split at h
  · rename_i t
    have hlength := length_afterMatch? h
    have hle := List.length_dropWhile_le (· == ' ') t
    rw [List.length_cons]
    omega
  · cases h

section

variable (ih : ∀ t, t.length ≤ text.length → Respelt t (respelled t))
include ih

theorem respelt_afterEqual (before : List Char) : Respelt before (afterEqual text) := by
  unfold afterEqual
  split
  · rename_i rest hrest
    have hlt := length_afterSpacedNull? hrest
    exact respelt_append (by decide) (by decide) (ih rest (by omega)).space.quiet
  · rename_i hnone
    have htext := ih text (Nat.le_refl _)
    refine respelt_cons (by decide) (quiet_of_ne (by decide) ?_ ?_) htext.quiet
    · rw [afterMatch?_letter (by decide) (by decide), htext.spaced hnone]
    · exact afterMatch?_eq_none (sameLetter_eq_false (by decide) (by decide))

theorem respelt_afterUnequal (before : List Char) : Respelt before (afterUnequal text) := by
  unfold afterUnequal
  split
  · rename_i rest hrest
    have hlt := length_afterSpacedNull? hrest
    exact respelt_append (by decide) (by decide) (ih rest (by omega)).space.quiet
  · rename_i hnone
    have htext := ih text (Nat.le_refl _)
    have hgreater : AllQuiet ('>' :: respelled text) :=
      htext.quiet.cons (quiet_cons (by decide) _)
    refine respelt_cons (by decide) (quiet_of_ne (by decide) ?_ ?_) hgreater
    · exact afterMatch?_eq_none (sameLetter_eq_false (by decide) (by decide))
    · rw [afterMatch?_letter (by decide) (by decide), afterMatch?_letter (by decide) (by decide),
        htext.spaced hnone]

theorem respelt_negation : Respelt ('!' :: text) (respelled ('!' :: text)) := by
  by_cases hhead : text.head? = some '='
  · obtain ⟨t, rfl⟩ := List.head?_eq_some_iff.1 hhead
    rw [respelled_not_equal]
    exact respelt_afterUnequal (fun u hu => ih u (Nat.le_succ_of_le hu)) _
  · rw [respelled_negation hhead]
    exact respelt_append (by decide) (by decide) (ih text (Nat.le_refl _)).space.quiet

theorem respelt_equal : Respelt ('=' :: text) (respelled ('=' :: text)) := by
  by_cases hhead : text.head? = some '='
  · obtain ⟨t, rfl⟩ := List.head?_eq_some_iff.1 hhead
    rw [respelled_double_equal]
    exact respelt_afterEqual (fun u hu => ih u (Nat.le_succ_of_le hu)) _
  · rw [respelled_equal hhead]
    exact respelt_afterEqual ih _

theorem respelt_less : Respelt ('<' :: text) (respelled ('<' :: text)) := by
  by_cases hhead : text.head? = some '>'
  · obtain ⟨t, rfl⟩ := List.head?_eq_some_iff.1 hhead
    rw [respelled_unequal]
    exact respelt_afterUnequal (fun u hu => ih u (Nat.le_succ_of_le hu)) _
  · rw [respelled_less hhead]
    -- A sign for greater is written only where one stood.
    have hgreater : (respelled text).head?.any (sameLetter '>') = false := by
      have hother {c : Char} (hc : c ≠ '>') : sameLetter '>' c = false :=
        sameLetter_eq_false (by decide) ⟨hc, hc⟩
      refine any_head?_respelled (hother (by decide)) (hother (by decide)) (fun h => ?_) ?_
      · rw [hother (by decide)] at h
        cases h
      · cases text with
        | nil => rfl
        | cons c t => exact hother (by simpa using hhead)
    have htext := (ih text (Nat.le_refl _)).quiet
    refine respelt_cons (by decide) (quiet_of_ne (by decide) ?_ ?_) htext
    · exact afterMatch?_eq_none (sameLetter_eq_false (by decide) (by decide))
    · rw [afterMatch?_letter (by decide) (by decide), afterMatch?_of_head hgreater]

theorem respelt_sign (hc : c = '&' ∨ c = '|') : Respelt (c :: text) (respelled (c :: text)) := by
  by_cases hhead : text.head? = some c
  · obtain ⟨t, rfl⟩ := List.head?_eq_some_iff.1 hhead
    have ht := (ih t (Nat.le_succ _)).space.quiet
    rcases hc with rfl | rfl
    · rw [respelled_and]
      exact respelt_append (by decide) (by decide) ht
    · rw [respelled_or]
      exact respelt_append (by decide) (by decide) ht
  · have hquiet : c ≠ ' ' ∧ c ≠ '=' ∧ c ≠ '<' ∧ c ≠ 'n' ∧ c ≠ 'N' := by
      rcases hc with rfl | rfl <;> decide
    rw [respelled_sign hc hhead]
    exact respelt_cons hquiet.1 (quiet_cons hquiet.2 _) (ih text (Nat.le_refl _)).quiet

theorem respelt_letter (hc : c = 'n' ∨ c = 'N') :
    Respelt (c :: text) (respelled (c :: text)) := by
  cases hword : afterNull? (c :: text) with
  | some rest =>
    have hlength := length_afterMatch? hword
    rw [List.length_cons] at hlength
    have hle : rest.length ≤ text.length := by
      have : 0 < nullWord.length := by decide
      omega
    rw [respelled_null hword]
    exact respelt_append (by decide) (by decide) (ih rest hle).quiet
  | none =>
    have hsign : c ≠ ' ' ∧ c ≠ '=' ∧ c ≠ '<' := by
      rcases hc with rfl | rfl <;> decide
    have hstill := afterNull?_respelled (c :: text)
    rw [hword, respelled_letter hc hword] at hstill
    rw [respelled_letter hc hword]
    have htext := (ih text (Nat.le_refl _)).quiet
    refine respelt_cons hsign.1 ⟨?_, ?_, fun rest hrest => ?_⟩ htext
    · exact afterMatch?_eq_none (sameLetter_eq_false (by decide) ⟨hsign.2.1, hsign.2.1⟩)
    · exact afterMatch?_eq_none (sameLetter_eq_false (by decide) ⟨hsign.2.2, hsign.2.2⟩)
    · rw [hstill] at hrest
      cases hrest

end

theorem respelt (text : List Char) : Respelt text (respelled text) := by
  cases text with
  | nil =>
    rw [respelled_nil]
    exact ⟨allQuiet_nil, fun _ => rfl⟩
  | cons c text =>
    have ih : ∀ t, t.length ≤ text.length → Respelt t (respelled t) := fun t ht =>
      have : t.length < (c :: text).length := Nat.lt_succ_of_le ht
      respelt t
    by_cases hfronts : c ∈ fronts
    · simp only [fronts, List.mem_cons, List.not_mem_nil, or_false] at hfronts
      rcases hfronts with rfl | rfl | rfl | rfl | rfl | rfl | hletter
      · exact respelt_negation ih
      · exact respelt_equal ih
      · exact respelt_sign ih (.inl rfl)
      · exact respelt_sign ih (.inr rfl)
      · exact respelt_less ih
      · exact (ih text (Nat.le_refl _)).space
      · exact respelt_letter ih hletter
    · rw [respelled_pass hfronts]
      have hne (d : Char) (hd : d ∈ fronts) : c ≠ d := fun h => hfronts (h ▸ hd)
      refine respelt_cons (hne _ (by decide)) (quiet_cons ⟨?_, ?_, ?_, ?_⟩ _)
        (ih text (Nat.le_refl _)).quiet
      all_goals exact hne _ (by decide)
termination_by text.length

end

end RuleCheck.Authored
