import Mathlib.Algebra.Order.Field.Power
import Mathlib.Algebra.Order.Ring.Rat
import Mathlib.Tactic.Ring
import RuleCheck.Number.Numeral
import RuleCheck.Proofs.Number.Place

/-!
# Nearest doubles

A quotient that is rounded to a double has a significand of at most 53 bits and an exponent that
a double can have. So the bits that it is given are not those of a NaN, and an integer that has a
nearest double has a place on the number line.
-/

set_option autoImplicit false

namespace RuleCheck.Number

open Float.Model.UnpackedFloat

theorem toNat_unpackExponent (bits : BitVec 64) :
    (@unpackExponent .binary64 bits).toNat = bits.toNat / twoTo 52 % twoTo 11 := by
  change (bits.toNat >>> 52) % 2 ^ 11 = _
  rw [Nat.shiftRight_eq_div_pow]
  rfl

theorem toNat_unpackMantissa (bits : BitVec 64) :
    (@unpackMantissa .binary64 bits).toNat = bits.toNat % twoTo 52 := rfl

/-- Only what is no number is packed with the exponent and a fraction of a NaN. -/
theorem exponent_pack {f : Float.Model.UnpackedFloat} (hf : f ≠ .notANumber) :
    unpackExponent (pack .binary64 f) ≠ -1#11 ∨ unpackMantissa (pack .binary64 f) = 0#52 := by
  fun_cases pack .binary64 f with
  | case1 => exact absurd rfl hf
  | case2 s => simp [packedInfinity]
  | case3 s => simp [packedZero]
  | case4 s m e hm biased hlarge => simp [packedInfinity]
  | case5 s m e hm bits biased hlarge hfull =>
    left
    rw [unpackExponent_packComponents]
    intro hexponent
    have htoNat := congrArg BitVec.toNat hexponent
    rw [BitVec.toNat_ofNat] at htoNat
    have hbiased : biased + 1 < 2048 := Nat.lt_of_not_le hlarge
    have hones : biased % 2048 = 2047 := htoNat
    omega
  | case6 s m e hm bits biased hlarge hfull => simp

theorem isNaN_eq_false_iff {x : Float} :
    isNaN x = false ↔
      x.toBits.toNat / twoTo 52 % twoTo 11 ≠ 2047 ∨ x.toBits.toNat % twoTo 52 = 0 := by
  simp only [isNaN, decode]
  split
  · split
    · simp_all
    · simp_all
  · split <;> simp_all

theorem isNaN_ofBits {bits : UInt64} (h : bits.toNat / twoTo 52 % twoTo 11 ≠ 2047) :
    isNaN (Float.ofBits bits) = false := by
  have hexponent : @unpackExponent .binary64 bits.toBitVec ≠ -1#11 := by
    intro hones
    apply h
    rw [← UInt64.toNat_toBitVec, ← toNat_unpackExponent, hones]
    rfl
  have hnumber : unpack .binary64 bits.toBitVec ≠ .notANumber := by
    intro hnan
    unfold unpack at hnan
    rw [if_neg hexponent] at hnan
    by_cases hleast : @unpackExponent .binary64 bits.toBitVec = 0#11
    · rw [if_pos hleast] at hnan
      by_cases hmantissa : @unpackMantissa .binary64 bits.toBitVec = 0#52
      · rw [dif_pos hmantissa] at hnan
        cases hnan
      · rw [dif_neg hmantissa] at hnan
        cases hnan
    · rw [if_neg hleast] at hnan
      cases hnan
  rw [isNaN_eq_false_iff]
  rcases exponent_pack hnumber with hpack | hpack
  · left
    intro hones
    apply hpack
    apply BitVec.eq_of_toNat_eq
    rw [toNat_unpackExponent]
    exact hones
  · right
    have htoNat := congrArg BitVec.toNat hpack
    rw [toNat_unpackMantissa] at htoNat
    exact htoNat

/-- The bits of a size that a double can have are not those of a NaN. -/
theorem isNaN_encode (negative : Bool) {size : Magnitude}
    (hsignificand : size.significand < twoTo 53) (hexponent : size.exponent ≤ 971) :
    isNaN (encode negative size) = false := by
  have h11 : twoTo 11 = 2048 := rfl
  have h52 : twoTo 52 = 4503599627370496 := rfl
  have h53 : twoTo 53 = 9007199254740992 := rfl
  have h63 : twoTo 63 = 2048 * 4503599627370496 := rfl
  unfold encode
  rw [h52]
  generalize hbody : (if size.significand < 4503599627370496 then size.significand
    else (size.exponent + 1075).toNat * 4503599627370496 +
      (size.significand - 4503599627370496)) = body
  have hlt : body < 2047 * 4503599627370496 := by
    rw [← hbody]
    split <;> omega
  have hsign : signBit negative = 0 ∨ signBit negative = twoTo 63 := by
    cases negative with
    | true => exact .inr rfl
    | false => exact .inl rfl
  apply isNaN_ofBits
  rw [UInt64.toNat_ofNat', h52, h11]
  rcases hsign with hsign | hsign
  · rw [hsign]
    omega
  · rw [hsign, h63]
    omega

theorem roundHalfEven_le {num den k : Nat} (h : num < den * k) : roundHalfEven num den ≤ k := by
  have hquotient : num / den < k := Nat.div_lt_of_lt_mul h
  unfold roundHalfEven
  simp only
  split
  · omega
  · split
    · omega
    · split <;> omega

section

variable {num den : Nat}

theorem scale_snd_pos (hden : 0 < den) (power : Int) : 0 < (scale num den power).2 := by
  unfold scale
  split
  · exact hden
  · rw [shiftLeft_eq_mul]
    exact Nat.mul_pos hden (twoTo_pos _)

theorem cast_twoTo (n : Nat) : (twoTo n : ℚ) = 2 ^ n := Nat.cast_pow 2 n

theorem ratio_scale (power : Int) :
    ((scale num den power).1 : ℚ) / (scale num den power).2 = num / den * 2 ^ power := by
  unfold scale
  split
  · rename_i hpower
    obtain ⟨n, rfl⟩ := Int.eq_ofNat_of_zero_le hpower
    rw [shiftLeft_eq_mul, Int.toNat_natCast, zpow_natCast, Nat.cast_mul, cast_twoTo,
      mul_div_right_comm]
  · rename_i hpower
    obtain ⟨n, hn⟩ := Int.eq_ofNat_of_zero_le (show 0 ≤ -power by omega)
    rw [shiftLeft_eq_mul, hn, Int.toNat_natCast, ← neg_neg power, hn, zpow_neg, zpow_natCast,
      Nat.cast_mul, cast_twoTo, div_mul_eq_div_div, div_eq_mul_inv _ ((2 : ℚ) ^ n)]

theorem scale_lt_iff (hden : 0 < den) (power : Int) (k : Nat) :
    (scale num den power).1 < (scale num den power).2 * twoTo k ↔
      (num / den * 2 ^ power : ℚ) < 2 ^ k := by
  have hpos : (0 : ℚ) < (scale num den power).2 := Nat.cast_pos.2 (scale_snd_pos hden power)
  rw [← ratio_scale, div_lt_iff₀ hpos, mul_comm, ← cast_twoTo, ← Nat.cast_mul, Nat.cast_lt]

theorem ratio_lt (hden : 0 < den) : (num / den : ℚ) < 2 ^ (binaryExponent num den + 1) := by
  unfold binaryExponent
  generalize hguess : (num.log2 : Int) - den.log2 = guess
  simp only
  split
  · -- The guess is too high by one just if the quotient is below its power of two.
    rename_i hlow
    have hbelow := (scale_lt_iff hden (-guess) 0).1 (by rwa [← Nat.mul_one (Prod.snd _)] at hlow)
    rw [pow_zero, zpow_neg, mul_inv_lt_iff₀ (by positivity), one_mul] at hbelow
    rwa [sub_add_cancel]
  · have hnum : (num : ℚ) < 2 ^ (num.log2 + 1) := by
      exact_mod_cast (Nat.lt_log2_self (n := num))
    have hlog : (2 : ℚ) ^ den.log2 ≤ den := by
      exact_mod_cast Nat.log2_self_le (Nat.ne_of_gt hden)
    have hexponent : ((num.log2 + 1 : Nat) : Int) = guess + 1 + den.log2 := by omega
    rw [div_lt_iff₀ (Nat.cast_pos.2 hden)]
    calc (num : ℚ) < 2 ^ (num.log2 + 1) := hnum
      _ = 2 ^ (guess + 1) * 2 ^ den.log2 := by
        rw [← zpow_natCast, hexponent, zpow_add₀ two_ne_zero, zpow_natCast]
      _ ≤ 2 ^ (guess + 1) * den := by gcongr

/-- A quotient that is rounded to a double has a size that a double can have. -/
theorem size_of_round? {size : Magnitude} (hden : 0 < den)
    (h : BinaryFormat.double.round? num den = some size) :
    size.significand < twoTo 53 ∧ size.exponent ≤ 971 := by
  unfold BinaryFormat.round? at h
  by_cases hzero : num = 0
  · rw [if_pos hzero] at h
    cases h
    exact ⟨twoTo_pos 53, by decide⟩
  rw [if_neg hzero] at h
  simp only at h
  generalize hexponent : max BinaryFormat.double.leastExponent
    (binaryExponent num den - (BinaryFormat.double.precision - 1)) = exponent at h
  have hleast : binaryExponent num den + 1 - exponent ≤ 53 := by
    simp only [BinaryFormat.double] at hexponent
    omega
  have hratio : (num / den * 2 ^ (-exponent) : ℚ) < 2 ^ 53 := by
    calc (num / den * 2 ^ (-exponent) : ℚ)
        < 2 ^ (binaryExponent num den + 1) * 2 ^ (-exponent) := by
          gcongr
          exact ratio_lt hden
      _ = 2 ^ (binaryExponent num den + 1 - exponent) := by
          rw [← zpow_add₀ two_ne_zero, sub_eq_add_neg]
      _ ≤ 2 ^ (53 : Int) := zpow_le_zpow_right₀ one_le_two hleast
      _ = 2 ^ 53 := rfl
  have hrounded := roundHalfEven_le ((scale_lt_iff hden (-exponent) 53).2 hratio)
  -- A significand that was rounded up to the next power of two is halved.
  by_cases hfull : roundHalfEven (scale num den (-exponent)).1 (scale num den (-exponent)).2 =
      twoTo BinaryFormat.double.precision
  · rw [if_pos hfull] at h
    obtain ⟨hgreatest, hsize⟩ := Option.ite_none_right_eq_some.1 h
    cases hsize
    exact ⟨show twoTo 52 < twoTo 53 by decide, hgreatest⟩
  · rw [if_neg hfull] at h
    obtain ⟨hgreatest, hsize⟩ := Option.ite_none_right_eq_some.1 h
    cases hsize
    exact ⟨Nat.lt_of_le_of_ne hrounded hfull, hgreatest⟩

theorem isNaN_nearest? {negative : Bool} {x : Float} (hden : 0 < den)
    (h : nearest? negative num den = some x) : isNaN x = false := by
  obtain ⟨size, hsize, rfl⟩ := Option.map_eq_some_iff.1 h
  obtain ⟨hsignificand, hexponent⟩ := size_of_round? hden hsize
  exact isNaN_encode negative hsignificand hexponent

end

theorem isNaN_ofInt? {n : Int} {x : Float} (h : ofInt? n = some x) : isNaN x = false :=
  isNaN_nearest? Nat.one_pos h

theorem isNaN_infinity (negative : Bool) : isNaN (infinity negative) = false := by
  cases negative <;> rfl

theorem isNaN_ofDecimal (negative : Bool) (digits : Nat) (power : Int) :
    isNaN (ofDecimal negative digits power) = false := by
  have hden : 0 < if 0 ≤ power then 1 else tenTo (-power).toNat := by
    split
    · exact Nat.one_pos
    · exact Nat.pow_pos (by decide)
  unfold ofDecimal
  simp only
  split
  · exact isNaN_infinity negative
  · split
    · exact isNaN_encode negative (twoTo_pos 53) (by decide)
    · cases hnearest : nearest? negative (if 0 ≤ power then digits * tenTo power.toNat else digits)
          (if 0 ≤ power then 1 else tenTo (-power).toNat) with
      | none => exact isNaN_infinity negative
      | some x => exact isNaN_nearest? hden hnearest

def namesNaN (cs : List Char) : Bool :=
  match dropLowLines? (withoutPadding cs) with
  | some cs => String.ofList ((splitSign cs).2.map Char.toLower) == "nan"
  | none => false

theorem isNaN_readFloat? {cs : List Char} {x : Float} (h : readFloat? cs = some x) :
    isNaN x = namesNaN cs := by
  obtain ⟨ds, hds, h⟩ := Option.bind_eq_some_iff.1 h
  obtain ⟨⟨negative, body⟩, hsign⟩ : ∃ parts, splitSign ds = parts := ⟨_, rfl⟩
  simp only [hsign] at h
  simp only [namesNaN, hds, hsign]
  generalize String.ofList (body.map Char.toLower) = word at h ⊢
  split at h
  · rename_i hword
    cases h
    rw [isNaN_infinity]
    rcases Bool.or_eq_true_iff.1 hword with hword | hword <;> rw [beq_iff_eq.1 hword] <;> rfl
  · split at h
    · rename_i hword
      cases h
      exact hword.symm
    · rename_i hword
      obtain ⟨⟨digits, power⟩, -, h⟩ := Option.bind_eq_some_iff.1 h
      cases h
      rw [isNaN_ofDecimal, Bool.eq_false_iff.2 hword]

end RuleCheck.Number
