import RuleCheck.Operator
import RuleCheck.Proofs.Number.Decimal
import RuleCheck.Proofs.Text.Occurrence
import RuleCheck.Proofs.Token.Placeless

/-!
# What division leaves over

The remainder of two integers is less than the divisor, has the sign of the dividend, and differs
from the dividend by a multiple of the divisor. There is only one such number. Operands may be
texts that spell integers, with white space around them.
-/

set_option autoImplicit false

namespace RuleCheck

open Number Text

namespace Number

variable {cs : List Char} {n : Int}

theorem not_numeral_of_isSpace {c : Char} (hc : isSpace c = true) :
    digitValue? c = none ∧ c ≠ '_' ∧ c ≠ '-' ∧ c ≠ '+' :=
  Lexeme.of_isSpace (P := fun c => digitValue? c = none ∧ c ≠ '_' ∧ c ≠ '-' ∧ c ≠ '+')
    (by decide +kernel) hc

theorem solid_of_digitValue? {c : Char} {d : Nat} (h : digitValue? c = some d) :
    isSpace c = false := by
  cases hc : isSpace c with
  | false => rfl
  | true => cases (not_numeral_of_isSpace hc).1.symm.trans h

theorem solid_of_groupedDigits? {places : List Nat} (h : groupedDigits? cs = some places) :
    ∀ c ∈ cs, isSpace c = false := by
  fun_induction groupedDigits? cs generalizing places with
  | case1 => cases h
  | case2 c =>
    obtain ⟨d, hd, -⟩ := Option.map_eq_some_iff.1 h
    exact List.forall_mem_singleton.2 (solid_of_digitValue? hd)
  | case3 c rest ih =>
    obtain ⟨d, hd, h⟩ := Option.bind_eq_some_iff.1 h
    obtain ⟨more, hmore, -⟩ := Option.bind_eq_some_iff.1 h
    exact List.forall_mem_cons.2 ⟨solid_of_digitValue? hd,
      List.forall_mem_cons.2 ⟨by decide, ih hmore⟩⟩
  | case4 c rest _ _ ih =>
    obtain ⟨d, hd, h⟩ := Option.bind_eq_some_iff.1 h
    obtain ⟨more, hmore, -⟩ := Option.bind_eq_some_iff.1 h
    exact List.forall_mem_cons.2 ⟨solid_of_digitValue? hd, ih hmore⟩

theorem mem_splitSign {c : Char} (h : c ∈ cs) : c = '-' ∨ c = '+' ∨ c ∈ (splitSign cs).2 := by
  unfold splitSign
  split
  · exact (List.mem_cons.1 h).imp_right .inr
  · exact .inr (List.mem_cons.1 h)
  · exact .inr (.inr h)

/-- An integer is read from a text without white space in it, when the padding is off. -/
theorem solid_of_readInt? (h : readInt? cs = some n) :
    ∀ c ∈ withoutPadding cs, isSpace c = false := by
  intro c hc
  obtain ⟨places, hplaces, -⟩ := Option.bind_eq_some_iff.1 h
  rcases mem_splitSign hc with rfl | rfl | hc
  · decide
  · decide
  · exact solid_of_groupedDigits? hplaces c hc

theorem isSpace_of_isPadding {c : Char} (h : isPadding c = true) : isSpace c = true :=
  (Bool.and_eq_true_iff.1 h).1

theorem exists_padding (cs : List Char) : ∃ before behind,
    cs = before ++ withoutPadding cs ++ behind ∧ isBlank before = true ∧ isBlank behind = true := by
  have hblank (cs : List Char) : isBlank (cs.takeWhile isPadding) = true :=
    List.all_eq_true.2 fun c hc => isSpace_of_isPadding (List.mem_takeWhile_imp hc)
  let rest := cs.dropWhile isPadding
  refine ⟨cs.takeWhile isPadding, (rest.reverse.takeWhile isPadding).reverse, ?_, hblank cs, ?_⟩
  · have hrest : withoutPadding cs ++ (rest.reverse.takeWhile isPadding).reverse = rest := by
      rw [withoutPadding, ← List.reverse_append, List.takeWhile_append_dropWhile,
        List.reverse_reverse]
    rw [List.append_assoc, hrest, List.takeWhile_append_dropWhile]
  · rw [isBlank, List.all_reverse]
    exact hblank _

/-- White space at the ends does not count where an integer is read. -/
theorem readInt?_trim (h : readInt? cs = some n) : readInt? (trim cs) = some n := by
  have hsolid := solid_of_readInt? h
  obtain ⟨before, behind, hcs, hbefore, hbehind⟩ := exists_padding cs
  have htrim : trim cs = withoutPadding cs := by
    have hends := trim_blanks hbefore hbehind hsolid
    rwa [← hcs] at hends
  have hagain : withoutPadding (withoutPadding cs) = withoutPadding cs :=
    withoutPadding_of_solid hsolid
  rw [htrim, ← h, readInt?, readInt?, hagain]

end Number

/-- The remainder of the absolute values is the one of truncated division, up to its sign. -/
theorem remainder_eq_tmod (a b : Int) : Scalar.remainder a b = a.tmod b := by
  have hsize (m : Nat) : ((m % b.natAbs : Nat) : Int) = (m : Int).tmod b := by
    obtain ⟨n, rfl | rfl⟩ := b.eq_nat_or_neg
    · exact Int.ofNat_tmod m n
    · rw [Int.natAbs_neg, Int.tmod_neg]
      exact Int.ofNat_tmod m n
  obtain ⟨m, rfl | rfl⟩ := a.eq_nat_or_neg
  · rw [← hsize, Scalar.remainder, if_neg (Int.not_lt.2 (Int.natCast_nonneg m))]
    rfl
  · rw [Int.neg_tmod, ← hsize, Scalar.remainder, Int.natAbs_neg]
    split
    · rfl
    · obtain rfl : m = 0 := by omega
      simp

/-- The number is left over from `a` by the division by `b` that cuts off the fraction. -/
structure IsRemainder (a b r : Int) : Prop where
  small : r.natAbs < b.natAbs
  sign : r = 0 ∨ r.sign = a.sign
  multiple : b ∣ a - r

namespace IsRemainder

variable {a b r s : Int}

theorem tmod (a : Int) (hb : b ≠ 0) : IsRemainder a b (a.tmod b) where
  small := by
    rw [Int.natAbs_tmod]
    exact Nat.mod_lt _ (Int.natAbs_pos.2 hb)
  sign := by
    have hsign := Int.sign_tmod a b
    split at hsign
    · exact .inl (Int.sign_eq_zero_iff_zero.1 hsign)
    · exact .inr hsign
  multiple := ⟨a.tdiv b, by
    have := Int.mul_tdiv_add_tmod a b
    omega⟩

theorem remainder (a : Int) (hb : b ≠ 0) : IsRemainder a b (Scalar.remainder a b) := by
  rw [remainder_eq_tmod]
  exact tmod a hb

/-- Two remainders differ by a multiple of the divisor, and by less than it, since both are on
the same side of zero. -/
theorem unique (hr : IsRemainder a b r) (hs : IsRemainder a b s) : r = s := by
  have hdvd : b ∣ r - s := by
    have hsub := Int.dvd_sub hs.multiple hr.multiple
    rwa [show a - s - (a - r) = r - s by omega] at hsub
  have hless : (r - s).natAbs < b.natAbs := by
    have hsmall := hr.small
    have hsmall' := hs.small
    rcases hr.sign with rfl | hsign
    · omega
    · rcases hs.sign with rfl | hsign'
      · omega
      · have hside : r.sign = s.sign := hsign.trans hsign'.symm
        rcases Int.lt_trichotomy r 0 with hneg | rfl | hpos
        · rw [Int.sign_eq_neg_one_of_neg hneg] at hside
          have := Int.neg_of_sign_eq_neg_one hside.symm
          omega
        · omega
        · rw [Int.sign_eq_one_of_pos hpos] at hside
          have := Int.pos_of_sign_eq_one hside.symm
          omega
  have hzero := Int.eq_zero_of_dvd_of_natAbs_lt_natAbs hdvd hless
  omega

end IsRemainder

namespace Value

/-- The value is an integer of no fixed size, or a text that spells one. -/
inductive Gives (v : Value) (n : Int) : Prop
  | number (hv : v.number? = some (.int n))
  | text {s : String} (hv : v.text? = some s) (hs : readInt? s.toList = some n)

variable {v w : Value} {a b n : Int}

theorem Gives.not_null (h : v.Gives n) : v.isNull = false := by
  cases h with
  | number hv => cases v <;> first | rfl | cases hv
  | text hv => cases v <;> first | rfl | cases hv

/-- A text that spells an integer is an operand like the integer itself. -/
theorem Gives.operand (h : v.Gives n) (symbol : String) (side : Side) :
    operand symbol side v = .ok (.int n) := by
  cases h with
  | number hv => rw [Value.operand, hv]
  | text hv hs =>
    have hnumber : v.number? = none := by cases v <;> first | rfl | cases hv
    rw [Value.operand, hnumber, hv]
    show readNumber symbol _ = _
    rw [readNumber, readInt?_trim hs]

theorem compute_rem (hv : v.Gives a) (hw : w.Gives b) : compute .rem v w =
    if b = 0 then .error (.unfit (.zeroDivisor "%")) else .ok (.int (Scalar.remainder a b)) := by
  have hoperands : operands Arithmetic.rem.symbol v w = .ok (.int a, .int b) := by
    rw [operands, hv.operand, hw.operand]
    rfl
  unfold compute
  rw [hv.not_null, hw.not_null]
  show (operands Arithmetic.rem.symbol v w >>= fun p => _) = _
  rw [hoperands]
  show (combine .rem (.int a) (.int b) >>= fun x => _) = _
  by_cases hb : b = 0
  · subst hb
    rfl
  · have hzero : (Scalar.int b).isZero = false := by simp [Scalar.isZero, hb]
    rw [if_neg hb, combine]
    simp only [hzero]
    rfl

/-- Integers, given as such or spelled by texts, have the one remainder of the division that cuts
off the fraction, and no remainder by zero. -/
theorem computeBy_remainder (hv : v.Gives a) (hw : w.Gives b) :
    (b ≠ 0 → ∃ r, computeBy "%" v w = .ok (.int r) ∧ IsRemainder a b r ∧
      ∀ s, IsRemainder a b s → s = r) ∧
    (b = 0 → ∃ fault, computeBy "%" v w = .error (.fault fault) ∧
      fault.reason = .divisionByZero) := by
  have hcompute : computeBy "%" v w = compute .rem v w := rfl
  rw [hcompute, compute_rem hv hw]
  refine ⟨fun hb => ⟨Scalar.remainder a b, if_neg hb, .remainder a hb,
    fun s hs => hs.unique (.remainder a hb)⟩, ?_⟩
  exact fun hb => ⟨_, if_pos hb, rfl⟩

theorem computeBy_remainder_spelled :
    computeBy "%" (.text "-7") (.text " +3\n") = .ok (.int (-1)) ∧
      ∃ fault, computeBy "%" (.int 5) (.text "-0") = .error (.fault fault) ∧
        fault.reason = .divisionByZero := by
  have hseven : (text "-7").Gives (-7) := .text rfl (by decide +kernel)
  have hthree : (text " +3\n").Gives 3 := .text rfl (by decide +kernel)
  have hzero : (text "-0").Gives 0 := .text rfl (by decide +kernel)
  obtain ⟨r, hr, -, hunique⟩ := (computeBy_remainder hseven hthree).1 (by decide)
  obtain rfl := hunique (-1) ⟨by decide, .inr rfl, by decide⟩
  exact ⟨hr, (computeBy_remainder (.number rfl) hzero).2 rfl⟩

end Value

end RuleCheck
