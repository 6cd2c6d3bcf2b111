import RuleCheck.Operator

/-!
# Sorts of values

To operators a value is a number, a text or a truth value, and nothing is of every sort.
Operands of the sorts that an operator takes give a value of the sort that it makes. The
exceptions are a zero as a divisor and, where floating point numbers are admitted, numbers
that are beyond them.
-/

set_option autoImplicit false

namespace RuleCheck

open Number

inductive ValueSort
  | number
  | text
  | truth
  deriving DecidableEq, Repr

def Kind.sort? : Kind → Option ValueSort
  | bool => some .truth
  | int => some .number
  | float => some .number
  | string => some .text
  | _ => none

theorem Kind.eq_of_isNumeric {k : Kind} (h : k.isNumeric = true) : k = .int ∨ k = .float := by
  cases k <;> simp_all [isNumeric]

theorem Kind.meets_iff {k k' : Kind} {s : ValueSort} (hk : k.sort? = some s) :
    (k = k' ∨ (k.isNumeric ∧ k'.isNumeric)) ↔ k.sort? = k'.sort? := by
  cases k <;> cases hk <;> cases k' <;> decide

inductive Inhabits (floats : Bool) : Value → ValueSort → Prop
  | absent (s : ValueSort) : Inhabits floats .absent s
  | int (n : Int) : Inhabits floats (.int n) .number
  | float (x : Float) (hfloats : floats = true) : Inhabits floats (.float x) .number
  | text (s : String) : Inhabits floats (.text s) .text
  | derivedText (className s : String) : Inhabits floats (.derivedText className s) .text
  | bool (b : Bool) : Inhabits floats (.bool b) .truth

inductive Allowed (floats : Bool) : Failure → Prop
  | remainder : Allowed floats (.unfit (.zeroDivisor "%"))
  | quotient (hfloats : floats = true) : Allowed floats (.unfit (.zeroDivisor "/"))
  | number (fault : NumberFault) (hfloats : floats = true) : Allowed floats (.number fault)

def Sound (floats : Bool) (s : ValueSort) : Except Failure Value → Prop
  | .ok v => Inhabits floats v s
  | .error failure => Allowed floats failure

theorem Sound.bind {floats : Bool} {s t : ValueSort} {r : Except Failure Value}
    {f : Value → Except Failure Value} (hr : Sound floats s r)
    (hf : ∀ v, Inhabits floats v s → Sound floats t (f v)) : Sound floats t (r >>= f) := by
  cases r with
  | ok v => exact hf v hr
  | error failure => exact hr

theorem inhabits_ofTruth (floats : Bool) (truth : Truth) :
    Inhabits floats (Value.ofTruth truth) .truth := by
  cases truth with
  | none => exact .absent _
  | some b => exact .bool b

inductive Beyond : Arithmetic → Scalar → Scalar → NumberFault → Prop
  | left (op : Arithmetic) {n : Int} (y : Float) (hn : ofInt? n = none) :
      Beyond op (.int n) (.float y) .overflow
  | right (op : Arithmetic) (x : Float) {n : Int} (hn : ofInt? n = none) :
      Beyond op (.float x) (.int n) .overflow
  | quotient {m n : Int} (h : quotient? m n = none) : Beyond .div (.int m) (.int n) .overflow
  | remainder {x y : Scalar} {a b : Float} (hx : x.float? = .ok a) (hy : y.float? = .ok b)
      (h : remainder? a b = none) : Beyond .rem x y .noRemainder

inductive Admitted (floats : Bool) : Scalar → Prop
  | int (n : Int) : Admitted floats (.int n)
  | float (x : Float) (hfloats : floats = true) : Admitted floats (.float x)

namespace Admitted

variable {floats : Bool} {x y : Scalar}

theorem inhabits (hx : Admitted floats x) : Inhabits floats (Value.ofScalar x) .number := by
  cases hx with
  | int n => exact .int n
  | float x hfloats => exact .float x hfloats

theorem operand (hx : Admitted floats x) (symbol : String) (side : Side) :
    Value.operand symbol side (.ofScalar x) = .ok x := by
  cases hx <;> rfl

theorem text? (hx : Admitted floats x) : (Value.ofScalar x).text? = none := by
  cases hx <;> rfl

theorem neg (hx : Admitted floats x) : Admitted floats x.neg := by
  cases hx with
  | int n => exact .int (-n)
  | float x hfloats => exact .float (-x) hfloats

def Outcome (floats : Bool) : Except NumberFault Scalar → Prop
  | .ok x => Admitted floats x
  | .error _ => floats = true

theorem exists_of_toFloat_error {n : Int} {fault : NumberFault} (h : toFloat n = .error fault) :
    ofInt? n = none ∧ fault = .overflow := by
  unfold toFloat at h
  split at h
  · cases h
  · cases h
    exact ⟨‹_›, rfl⟩

/-- Two integers meet as such. All other meetings need floating point numbers, and are beyond
these if an integer is none of them. -/
theorem meet_cases (hx : Admitted floats x) (hy : Admitted floats y) :
    (∃ m n, x = .int m ∧ y = .int n) ∨
      floats = true ∧ ((∃ a b, x.meet y = .ok (.floats a b)) ∨
        ∃ fault, x.meet y = .error fault ∧ ∀ op, Beyond op x y fault) := by
  cases hx with
  | int m =>
    cases hy with
    | int n => exact .inl ⟨m, n, rfl, rfl⟩
    | float b hfloats =>
      refine .inr ⟨hfloats, ?_⟩
      cases hm : toFloat m with
      | ok a => exact .inl ⟨a, b, by simp only [Scalar.meet, hm]; rfl⟩
      | error fault =>
        obtain ⟨hnone, rfl⟩ := exists_of_toFloat_error hm
        exact .inr ⟨_, by simp only [Scalar.meet, hm]; rfl, fun op => .left op b hnone⟩
  | float a hfloats =>
    refine .inr ⟨hfloats, ?_⟩
    cases hy with
    | int n =>
      cases hn : toFloat n with
      | ok b => exact .inl ⟨a, b, by simp only [Scalar.meet, hn]; rfl⟩
      | error fault =>
        obtain ⟨hnone, rfl⟩ := exists_of_toFloat_error hn
        exact .inr ⟨_, by simp only [Scalar.meet, hn]; rfl, fun op => .right op a hnone⟩
    | float b _ => exact .inl ⟨a, b, rfl⟩

theorem outcome_combine (hx : Admitted floats x) (hy : Admitted floats y)
    (whole : Int → Int → Int) (broken : Float → Float → Float) :
    Outcome floats (Scalar.combine whole broken x y) := by
  unfold Scalar.combine
  rcases meet_cases hx hy with ⟨m, n, rfl, rfl⟩ | ⟨hfloats, ⟨a, b, h⟩ | ⟨fault, h, _⟩⟩
  · exact .int (whole m n)
  · rw [h]
    exact .float (broken a b) hfloats
  · rw [h]
    exact hfloats

theorem outcome_div (hx : Admitted floats x) (hy : Admitted floats y) (hfloats : floats = true) :
    Outcome floats (x.div y) := by
  unfold Scalar.div
  rcases meet_cases hx hy with ⟨m, n, rfl, rfl⟩ | ⟨_, ⟨a, b, h⟩ | ⟨fault, h, _⟩⟩
  · simp only [Scalar.meet, bind, Except.bind, pure, Except.pure]
    split
    · exact .float _ hfloats
    · exact hfloats
  · rw [h]
    exact .float (a / b) hfloats
  · rw [h]
    exact hfloats

theorem outcome_remainder (hfloats : floats = true) (p q : Except NumberFault Float) :
    Outcome floats (do
      match remainder? (← p) (← q) with
      | some r => return .float r
      | none => throw .noRemainder) := by
  cases p with
  | error fault => exact hfloats
  | ok a =>
    cases q with
    | error fault => exact hfloats
    | ok b =>
      simp only [bind, Except.bind]
      split
      · exact .float _ hfloats
      · exact hfloats

theorem outcome_rem (hx : Admitted floats x) (hy : Admitted floats y) :
    Outcome floats (x.rem y) := by
  cases hx with
  | int m =>
    cases hy with
    | int n => exact .int (Number.Scalar.remainder m n)
    | float b hfloats => exact outcome_remainder hfloats _ _
  | float a hfloats => exact outcome_remainder hfloats _ _

end Admitted

/-- Without floating point numbers an operator must not be the division. -/
theorem sound_combine {floats : Bool} {op : Arithmetic} {x y : Scalar} (hx : Admitted floats x)
    (hy : Admitted floats y) (hop : op = .div → floats = true) :
    Sound floats .number (do return .ofScalar (← Value.combine op x y)) := by
  have numeric (r : Except NumberFault Scalar) (hr : Admitted.Outcome floats r) :
      Sound floats .number (do return .ofScalar (← r.mapError Failure.number)) := by
    cases r with
    | ok z => exact Admitted.inhabits hr
    | error fault => exact .number fault hr
  have divided (f : Scalar → Scalar → Except NumberFault Scalar)
      (hzero : Allowed floats (.unfit (.zeroDivisor op.symbol)))
      (hf : Admitted.Outcome floats (f x y)) :
      Sound floats .number
        ((if y.isZero then .error (.unfit (.zeroDivisor op.symbol))
          else (f x y).mapError .number) >>= fun z => .ok (.ofScalar z)) := by
    by_cases hy : y.isZero = true
    · rw [if_pos hy]
      exact hzero
    · rw [if_neg hy]
      exact numeric _ hf
  cases op with
  | add => exact numeric _ (hx.outcome_combine hy _ _)
  | sub => exact numeric _ (hx.outcome_combine hy _ _)
  | mul => exact numeric _ (hx.outcome_combine hy _ _)
  | div => exact divided Scalar.div (.quotient (hop rfl)) (hx.outcome_div hy (hop rfl))
  | rem => exact divided Scalar.rem .remainder (hx.outcome_rem hy)

namespace Inhabits

variable {floats : Bool} {v w : Value}

theorem exists_scalar (hv : Inhabits floats v .number) (hnull : v.isNull = false) :
    ∃ x, Admitted floats x ∧ v = .ofScalar x := by
  cases hv with
  | absent => cases hnull
  | int n => exact ⟨.int n, .int n, rfl⟩
  | float x hfloats => exact ⟨.float x, .float x hfloats, rfl⟩

theorem exists_text (hv : Inhabits floats v .text) (hnull : v.isNull = false) :
    v.kind = .string ∧ ∃ s, v.text? = some s := by
  cases hv with
  | absent => cases hnull
  | text s => exact ⟨rfl, s, rfl⟩
  | derivedText className s => exact ⟨rfl, s, rfl⟩

theorem exists_bool (hv : Inhabits floats v .truth) (hnull : v.isNull = false) :
    ∃ b, v = .bool b := by
  cases hv with
  | absent => cases hnull
  | bool b => exact ⟨b, rfl⟩

theorem signed (hv : Inhabits floats v .number) (op : Sign) :
    Sound floats .number (v.signed op) := by
  unfold Value.signed
  by_cases hnull : v.isNull = true
  · rw [if_pos hnull]
    exact .absent _
  · rw [if_neg hnull]
    obtain ⟨x, hx, rfl⟩ := hv.exists_scalar (Bool.not_eq_true _ ▸ hnull)
    rw [hx.operand]
    cases op with
    | minus => exact hx.neg.inhabits
    | plus =>
      show Sound floats .number (.ok (if (Value.ofScalar x).number?.isSome then _ else _))
      rw [ite_self]
      exact hx.inhabits

theorem compute_null {op : Arithmetic} (h : (v.isNull || w.isNull) = true) :
    Value.compute op v w = .ok .absent := by
  unfold Value.compute
  rw [if_pos h]
  rfl

theorem compute {op : Arithmetic} (hv : Inhabits floats v .number)
    (hw : Inhabits floats w .number) (hop : op = .div → floats = true) :
    Sound floats .number (Value.compute op v w) := by
  by_cases hnull : (v.isNull || w.isNull) = true
  · rw [compute_null hnull]
    exact .absent _
  · rw [Bool.not_eq_true, Bool.or_eq_false_iff] at hnull
    obtain ⟨x, hx, rfl⟩ := hv.exists_scalar hnull.1
    obtain ⟨y, hy, rfl⟩ := hw.exists_scalar hnull.2
    have hcompute : Value.compute op (.ofScalar x) (.ofScalar y) =
        (do return .ofScalar (← Value.combine op x y)) := by
      simp only [Value.compute, hnull, hx.text?, hy.text?, Value.operands, hx.operand, hy.operand]
      rfl
    rw [hcompute]
    exact sound_combine hx hy hop

theorem concat (hv : Inhabits floats v .text) (hw : Inhabits floats w .text) :
    Sound floats .text (Value.compute .add v w) := by
  by_cases hnull : (v.isNull || w.isNull) = true
  · rw [compute_null hnull]
    exact .absent _
  · rw [Bool.not_eq_true, Bool.or_eq_false_iff] at hnull
    obtain ⟨_, s, hs⟩ := hv.exists_text hnull.1
    obtain ⟨_, t, ht⟩ := hw.exists_text hnull.2
    have hcompute : Value.compute .add v w = .ok (.text (s ++ t)) := by
      simp only [Value.compute, hnull, hs, ht]
      rfl
    rw [hcompute]
    exact .text (s ++ t)

theorem exists_logical (hv : Inhabits floats v .truth) (connective : String) :
    ∃ truth, v.logical connective = .ok truth := by
  cases hv with
  | absent => exact ⟨none, rfl⟩
  | bool b => exact ⟨some b, rfl⟩

theorem negation (hv : Inhabits floats v .truth) :
    Sound floats .truth (do return .ofTruth (← v.negation)) := by
  obtain ⟨a, ha⟩ := hv.exists_logical "NOT"
  simp only [Value.negation, ha]
  exact inhabits_ofTruth floats _

theorem conjunction (hv : Inhabits floats v .truth) (hw : Inhabits floats w .truth) :
    Sound floats .truth (do return .ofTruth (← v.conjunction w)) := by
  obtain ⟨a, ha⟩ := hv.exists_logical "AND"
  obtain ⟨b, hb⟩ := hw.exists_logical "AND"
  simp only [Value.conjunction, ha, hb]
  exact inhabits_ofTruth floats _

theorem disjunction (hv : Inhabits floats v .truth) (hw : Inhabits floats w .truth) :
    Sound floats .truth (do return .ofTruth (← v.disjunction w)) := by
  obtain ⟨a, ha⟩ := hv.exists_logical "OR"
  obtain ⟨b, hb⟩ := hw.exists_logical "OR"
  simp only [Value.disjunction, ha, hb]
  exact inhabits_ofTruth floats _

end Inhabits

namespace Value

variable {a b : Value}

theorem agree_of_kinds (symbol : String)
    (h : a.kind = b.kind ∨ (a.kind.isNumeric ∧ b.kind.isNumeric)) :
    agree symbol a b = .ok (a, b) := by
  unfold agree
  rw [if_pos h]
  rfl

theorem exists_compareAs (op : Comparison) (h : ∃ o, order? a b = .ok o) :
    ∃ holds, compareAs op a b = .ok holds := by
  obtain ⟨o, ho⟩ := h
  cases op with
  | eq => exact ⟨_, rfl⟩
  | ne => exact ⟨_, rfl⟩
  | _ => exact ⟨_, by simp only [compareAs, ho]; rfl⟩

end Value

namespace Admitted

variable {floats : Bool} {x y : Scalar}

theorem exists_order (hx : Admitted floats x) (hy : Admitted floats y) :
    ∃ o, Value.order? (.ofScalar x) (.ofScalar y) = .ok o := by
  cases hx <;> cases hy <;> exact ⟨_, by simp only [Value.order?, Value.ofScalar]; rfl⟩

theorem kind_isNumeric (hx : Admitted floats x) (hnull : (Value.ofScalar x).isNull = false) :
    (Value.ofScalar x).kind.isNumeric = true := by
  cases hx with
  | int n => rfl
  | float x _ =>
    simp only [Value.ofScalar, Value.isNull, Value.kind] at hnull ⊢
    split at hnull
    · cases hnull
    · rw [if_neg ‹_›]
      rfl

end Admitted

inductive Matched (floats : Bool) : Value → Value → Prop
  | numbers {x y : Scalar} (hx : Admitted floats x) (hy : Admitted floats y) :
      Matched floats (.ofScalar x) (.ofScalar y)
  | texts {v w : Value} (hv : Inhabits floats v .text) (hw : Inhabits floats w .text)
      (hvnull : v.isNull = false) (hwnull : w.isNull = false) : Matched floats v w
  | truths (b c : Bool) : Matched floats (.bool b) (.bool c)

namespace Matched

variable {floats : Bool} {v w v' w' : Value}

theorem exists_order (h : Matched floats v w) : ∃ o, Value.order? v w = .ok o := by
  cases h with
  | numbers hx hy => exact hx.exists_order hy
  | texts hv hw hvnull hwnull =>
    cases hv with
    | absent => cases hvnull
    | text _ =>
      cases hw with
      | absent => cases hwnull
      | text _ => exact ⟨_, by simp only [Value.order?]; rfl⟩
      | derivedText _ _ => exact ⟨_, by simp only [Value.order?]; rfl⟩
    | derivedText _ _ =>
      cases hw with
      | absent => cases hwnull
      | text _ => exact ⟨_, by simp only [Value.order?]; rfl⟩
      | derivedText _ _ => exact ⟨_, by simp only [Value.order?]; rfl⟩
  | truths b c => exact ⟨_, by simp only [Value.order?]; rfl⟩

/-- Without distinctions of case, numbers and truth values are what they are, and texts stay
texts. -/
theorem foldCase (h : Matched floats v w) :
    Matched floats (Value.foldCase v w).1 (Value.foldCase v w).2 := by
  cases h with
  | numbers hx hy =>
    simp only [Value.foldCase, hx.text?]
    exact .numbers hx hy
  | texts hv hw hvnull hwnull =>
    obtain ⟨_, s, hs⟩ := hv.exists_text hvnull
    obtain ⟨_, t, ht⟩ := hw.exists_text hwnull
    simp only [Value.foldCase, hs, ht]
    exact .texts (.text _) (.text _) rfl rfl
  | truths b c => exact .truths b c

theorem exists_compare {op : Comparison} (h : Matched floats v' w')
    (hagree : Value.agree op.symbol v w = .ok (v', w')) (keepCase : Bool) :
    ∃ truth, Value.compare op keepCase v w = .ok truth := by
  unfold Value.compare
  rw [hagree]
  split
  · exact ⟨none, rfl⟩
  · cases keepCase with
    | true =>
      obtain ⟨holds, hholds⟩ := Value.exists_compareAs op h.exists_order
      exact ⟨some holds, by simp only [bind, Except.bind, if_true, hholds]; rfl⟩
    | false =>
      obtain ⟨holds, hholds⟩ := Value.exists_compareAs op h.foldCase.exists_order
      exact ⟨some holds, by
        simp only [bind, Except.bind, Bool.false_eq_true, if_false, hholds]
        rfl⟩

end Matched

namespace Inhabits

variable {floats : Bool} {v w : Value} {s : ValueSort}

theorem sort?_kind (hv : Inhabits floats v s) (hnull : v.isNull = false) :
    v.kind.sort? = some s := by
  cases hv with
  | absent => cases hnull
  | int n => rfl
  | float x hfloats =>
    have hnumeric := (Admitted.float x hfloats).kind_isNumeric hnull
    rcases Kind.eq_of_isNumeric hnumeric with hkind | hkind
    · exact congrArg Kind.sort? hkind
    · exact congrArg Kind.sort? hkind
  | text s => rfl
  | derivedText className s => rfl
  | bool b => rfl

theorem matched (hv : Inhabits floats v s) (hw : Inhabits floats w s) (hvnull : v.isNull = false)
    (hwnull : w.isNull = false) : Matched floats v w := by
  cases s with
  | number =>
    obtain ⟨x, hx, rfl⟩ := hv.exists_scalar hvnull
    obtain ⟨y, hy, rfl⟩ := hw.exists_scalar hwnull
    exact .numbers hx hy
  | text => exact .texts hv hw hvnull hwnull
  | truth =>
    obtain ⟨b, rfl⟩ := hv.exists_bool hvnull
    obtain ⟨c, rfl⟩ := hw.exists_bool hwnull
    exact .truths b c

theorem exists_compare (hv : Inhabits floats v s) (hw : Inhabits floats w s) (op : Comparison)
    (keepCase : Bool) : ∃ truth, Value.compare op keepCase v w = .ok truth := by
  by_cases hnull : (v.isNull || w.isNull) = true
  · exact ⟨none, by unfold Value.compare; rw [if_pos hnull]; rfl⟩
  rw [Bool.not_eq_true, Bool.or_eq_false_iff] at hnull
  have hsorts := (hv.sort?_kind hnull.1).trans (hw.sort?_kind hnull.2).symm
  have hkinds := (Kind.meets_iff (hv.sort?_kind hnull.1)).2 hsorts
  exact (hv.matched hw hnull.1 hnull.2).exists_compare (Value.agree_of_kinds _ hkinds) keepCase

end Inhabits

end RuleCheck
