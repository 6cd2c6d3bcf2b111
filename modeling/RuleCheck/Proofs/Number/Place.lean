import RuleCheck.Number.Scalar

/-!
# Places of whole doubles

Doubles and integers have their places on one line, counted in smallest doubles. The integer
that a double is equal to, if there is one, is the integer at its place.
-/

set_option autoImplicit false

namespace RuleCheck.Number

theorem twoTo_add (m n : Nat) : twoTo (m + n) = twoTo m * twoTo n := Nat.pow_add 2 m n

theorem shiftLeft_eq_mul (m n : Nat) : m <<< n = m * twoTo n := Nat.shiftLeft_eq m n

theorem twoTo_pos (n : Nat) : 0 < twoTo n := Nat.two_pow_pos n

theorem signed_mul (negative : Bool) (m n : Nat) :
    signed negative (m * n) = signed negative m * n := by
  cases negative with
  | false => exact Int.natCast_mul m n
  | true =>
    show -((m * n : Nat) : Int) = -(m : Int) * n
    rw [Int.natCast_mul, Int.neg_mul]

theorem signed_div_eq_some_iff {negative : Bool} {m d : Nat} {n : Int} (hd : 0 < d) :
    (if m % d = 0 then some (signed negative (m / d)) else none) = some n ↔
      signed negative m = n * d := by
  constructor
  · intro h
    split at h
    · rename_i hm
      cases h
      rw [← signed_mul, Nat.div_mul_cancel (Nat.dvd_of_mod_eq_zero hm)]
    · cases h
  · intro h
    have hdvd : d ∣ m := by
      have hsigned : (d : Int) ∣ signed negative m := ⟨n, h.trans (Int.mul_comm _ _)⟩
      cases negative with
      | false => exact Int.natCast_dvd_natCast.1 hsigned
      | true => exact Int.natCast_dvd_natCast.1 (Int.dvd_neg.1 hsigned)
    have hne : (d : Int) ≠ 0 := Int.natCast_ne_zero.2 (Nat.ne_of_gt hd)
    rw [if_pos (Nat.mod_eq_zero_of_dvd hdvd), Option.some_inj]
    refine Int.eq_of_mul_eq_mul_right hne ?_
    rw [← signed_mul, Nat.div_mul_cancel hdvd, h]

namespace Magnitude

variable {size : Magnitude}

theorem fraction_snd_pos (size : Magnitude) : 0 < size.fraction.2 := by
  rw [fraction, scale]
  split
  · exact Nat.one_pos
  · rw [shiftLeft_eq_mul, Nat.one_mul]
    exact twoTo_pos _

/-- The smallest double goes into a size as often as numerator and denominator say. -/
theorem units_mul (h : -1074 ≤ size.exponent) :
    size.units * size.fraction.2 = size.fraction.1 * twoTo 1074 := by
  rw [units, fraction, scale]
  split
  · rename_i hexponent
    have hsum : (size.exponent + 1074).toNat = size.exponent.toNat + 1074 := by omega
    rw [shiftLeft_eq_mul, shiftLeft_eq_mul, hsum, twoTo_add, Nat.mul_one, Nat.mul_assoc]
  · rename_i hexponent
    have hsum : (size.exponent + 1074).toNat + (-size.exponent).toNat = 1074 := by omega
    rw [shiftLeft_eq_mul, shiftLeft_eq_mul, Nat.one_mul, Nat.mul_assoc, ← twoTo_add, hsum]

theorem signed_units_iff {negative : Bool} {n : Int} (h : -1074 ≤ size.exponent) :
    signed negative size.units = n * twoTo 1074 ↔
      signed negative size.fraction.1 = n * size.fraction.2 := by
  have hne : (size.fraction.2 : Int) ≠ 0 :=
    Int.natCast_ne_zero.2 (Nat.ne_of_gt size.fraction_snd_pos)
  have hunit : (twoTo 1074 : Int) ≠ 0 := Int.natCast_ne_zero.2 (Nat.ne_of_gt (twoTo_pos 1074))
  rw [← Int.mul_eq_mul_right_iff hne, ← signed_mul, units_mul h, signed_mul, Int.mul_right_comm,
    Int.mul_eq_mul_right_iff hunit]

end Magnitude

theorem exponent_of_decode {x : Float} {negative : Bool} {size : Magnitude}
    (h : decode x = .finite negative size) : -1074 ≤ size.exponent := by
  simp only [decode] at h
  split at h
  · split at h <;> cases h
  · split at h
    · cases h
      exact Int.le_refl _
    · rename_i hexponent
      cases h
      have := Nat.pos_of_ne_zero hexponent
      simp only
      omega

theorem isSome_rank? (x : Float) : (rank? x).isSome = !isNaN x := by
  unfold rank? isNaN
  cases hx : decode x with
  | nan => rfl
  | infinite negative => cases negative <;> rfl
  | finite negative size => rfl

/-- The integer that a double is equal to is the one at its place. -/
theorem toInt?_eq_some_iff {x : Float} {n : Int} :
    toInt? x = some n ↔ rank? x = some (.ofInt n) := by
  unfold toInt? rank?
  split
  · rename_i negative size hx
    rw [hx]
    simp only [Option.some_inj, Rank.ofInt, Rank.point.injEq]
    rw [Magnitude.signed_units_iff (exponent_of_decode hx),
      signed_div_eq_some_iff size.fraction_snd_pos]
  · rename_i hx
    split
    · exact iff_of_false nofun nofun
    · exact iff_of_false nofun nofun
    · exact iff_of_false nofun nofun
    · exact absurd ‹_› (hx _ _)

theorem Rank.lt_self (a : Rank) : a.lt a = false := by
  cases a with
  | point units => exact decide_eq_false (Int.lt_irrefl units)
  | _ => rfl

theorem Rank.eq_of_lt_eq_false {a b : Rank} (h : a.lt b = false) (h' : b.lt a = false) :
    a = b := by
  cases a <;> cases b <;> simp [lt] at h h' ⊢
  omega

theorem Scalar.order?_eq_iff {a b : Option Rank} :
    order? a b = some .eq ↔ a = b ∧ a.isSome := by
  constructor
  · intro h
    unfold order? at h
    split at h
    · rename_i a b
      cases hab : a.lt b with
      | true => simp [hab] at h
      | false =>
        cases hba : b.lt a with
        | true => simp [hab, hba] at h
        | false => exact ⟨congrArg some (Rank.eq_of_lt_eq_false hab hba), rfl⟩
    · cases h
  · rintro ⟨rfl, hsome⟩
    obtain ⟨a, rfl⟩ := Option.isSome_iff_exists.1 hsome
    simp [order?, Rank.lt_self]

end RuleCheck.Number
