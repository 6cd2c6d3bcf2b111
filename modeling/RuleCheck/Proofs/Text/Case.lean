import RuleCheck.Text.Case

/-!
# Characters that are the same letter

A shift moves a code point only inside its ranges, so the code points that it brings to a
given place can be read off the table. For the letters of a word and for signs these are the
small letter and its capital, and no other character.
-/

set_option autoImplicit false

namespace RuleCheck.Text

instance (priority := 2000) decidableForallMem {p : Char → Prop} [DecidablePred p]
    (cs : List Char) : Decidable (∀ c ∈ cs, p c) :=
  List.decidableBAll p cs

/-- A code point stays where it is, or lies in a range that is moved by its distance. -/
theorem Shifts.shift_eq (s : Shifts) (n : Nat) :
    s.shift n = n ∨ ∃ r ∈ s, r.1 ≤ n ∧ n ≤ r.2.1 ∧ s.shift n = (n + r.2.2.2).toNat := by
  induction s with
  | nil => exact .inl rfl
  | cons r rest ih =>
    obtain ⟨lo, hi, step, distance⟩ := r
    simp only [Shifts.shift]
    split
    · exact .inl rfl
    · split
      · split
        · exact .inr ⟨_, List.mem_cons_self, by omega, by omega, rfl⟩
        · exact .inl rfl
      · rcases ih with h | ⟨r, hr, hlo, hhi, h⟩
        · exact .inl h
        · exact .inr ⟨r, List.mem_cons_of_mem _ hr, hlo, hhi, h⟩

def Shifts.bringOnly (s : Shifts) (source target : Nat) : Bool :=
  s.all fun r =>
    let start : Int := target - r.2.2.2
    start < r.1 || r.2.1 < start || start = source

theorem Shifts.of_shift_eq {s : Shifts} {source target n : Nat}
    (hs : s.bringOnly source target = true) (hpos : 0 < target) (h : s.shift n = target) :
    n = target ∨ n = source := by
  rcases s.shift_eq n with hn | ⟨r, hr, hlo, hhi, hn⟩
  · exact .inl (hn.symm.trans h)
  · have honly := List.all_eq_true.1 hs r hr
    simp only [Bool.or_eq_true, decide_eq_true_eq] at honly
    right
    omega

theorem toNat_eq_of_ofNat {n : Nat} {c : Char} (h : Char.ofNat n = c) (hc : c.toNat ≠ 0) :
    n = c.toNat := by
  by_cases hvalid : n.isValidChar
  · rw [Char.ofNat, dif_pos hvalid] at h
    exact congrArg Char.toNat h
  · rw [Char.ofNat, dif_neg hvalid] at h
    exact absurd (congrArg Char.toNat h).symm hc

def nullLetters : List Char := ['=', '<', '>', ' ', 'N', 'U', 'L', 'n', 'u', 'l']

/-- For these no character counts as the same letter but the small letter and the capital. -/
theorem sameLetter_eq {x : Char} (hx : x ∈ nullLetters) (c : Char) :
    sameLetter x c = (c == x.toLower || c == x.toUpper) := by
  have htable : ∀ x ∈ nullLetters, plainForm x = x.toLower ∧ plainForm x.toLower = x.toLower ∧
      plainForm x.toUpper = x.toLower ∧ 0 < x.toLower.toNat ∧
      plainShifts.bringOnly x.toUpper.toNat x.toLower.toNat = true := by decide +kernel
  obtain ⟨hform, hlower, hupper, hpos, honly⟩ := htable x hx
  rw [Bool.eq_iff_iff, sameLetter, beq_iff_eq, hform, Bool.or_eq_true, beq_iff_eq, beq_iff_eq]
  constructor
  · intro hc
    have hshift : plainShifts.shift c.toNat = x.toLower.toNat :=
      toNat_eq_of_ofNat hc.symm (by omega)
    rcases Shifts.of_shift_eq honly hpos hshift with hn | hn
    · exact .inl (Char.toNat_inj.1 hn)
    · exact .inr (Char.toNat_inj.1 hn)
  · rintro (rfl | rfl)
    · exact hlower.symm
    · exact hupper.symm

theorem eq_of_sameLetter {x c : Char} (hx : x ∈ nullLetters) (h : sameLetter x c = true) :
    c = x.toLower ∨ c = x.toUpper := by
  rw [sameLetter_eq hx, Bool.or_eq_true] at h
  exact h.imp beq_iff_eq.1 beq_iff_eq.1

theorem sameLetter_eq_false {x c : Char} (hx : x ∈ nullLetters)
    (hc : c ≠ x.toLower ∧ c ≠ x.toUpper) : sameLetter x c = false := by
  rw [sameLetter_eq hx, beq_eq_false_iff_ne.2 hc.1, beq_eq_false_iff_ne.2 hc.2]
  rfl

end RuleCheck.Text
