import RuleCheck.Operator
import RuleCheck.Proofs.Ending

/-!
# Rejections of operators

An operator fails over operands of the wrong kind, over a zero as a divisor, over numbers that
are beyond it or over values without an order, whatever values it is given. So no operator fails
over an identifier, and none over a symbol that it does not know.
-/

set_option autoImplicit false

namespace RuleCheck

open Number

inductive Rejection : Failure → Prop
  | unfit {operand : Unfit}
      (h : operand.reason = .typeMismatch ∨ operand.reason = .divisionByZero) :
      Rejection (.unfit operand)
  | number (fault : NumberFault) : Rejection (.number fault)
  | unordered : Rejection .unordered

namespace Rejection

variable {α : Type}

theorem mismatch {operand : Unfit} (h : operand.reason = .typeMismatch) :
    FailsBy Rejection (.error (.unfit operand) : Except Failure α) := .error (.unfit (.inl h))

theorem mapError (r : Except NumberFault α) : FailsBy Rejection (r.mapError Failure.number) := by
  cases r with
  | ok a => exact .ok a
  | error fault => exact .error (.number fault)

end Rejection

namespace Value

theorem fails_readNumber (symbol text : String) : FailsBy Rejection (readNumber symbol text) := by
  simp only [readNumber]
  split
  · exact .ok _
  · exact .ok _
  · exact .mismatch rfl

theorem fails_readTruth (symbol text : String) : FailsBy Rejection (readTruth symbol text) := by
  simp only [readTruth]
  split
  · exact .ok _
  · split
    · exact .ok _
    · exact .mismatch rfl

theorem fails_readBeside (symbol text : String) (kind : Kind) :
    FailsBy Rejection (readBeside symbol text kind) := by
  have number : FailsBy Rejection (do return some (ofScalar (← readNumber symbol text))) :=
    (fails_readNumber symbol text).bind fun _ _ => .ok _
  cases kind with
  | int => exact number
  | float => exact number
  | bool => exact (fails_readTruth symbol text).bind fun _ _ => .ok _
  | _ => exact .ok _

theorem fails_agree (symbol : String) (v w : Value) : FailsBy Rejection (agree symbol v w) := by
  unfold agree
  split
  · exact .ok _
  · split
    · refine (fails_readBeside symbol _ w.kind).bind fun read _ => ?_
      cases read with
      | none => exact .mismatch rfl
      | some a => exact .ok _
    · refine (fails_readBeside symbol _ v.kind).bind fun read _ => ?_
      cases read with
      | none => exact .mismatch rfl
      | some b => exact .ok _
    · exact .mismatch rfl

/-- Values that are neither two dates nor two lists are ordered as numbers or as texts. -/
theorem fails_orderPlain {v w : Value}
    (hdate : ∀ y m d y' m' d', v = date y m d → w = date y' m' d' → False)
    (hlist : ∀ vs ws, v = list vs → w = list ws → False) : FailsBy Rejection (order? v w) := by
  rw [order?]
  · split
    · exact Rejection.mapError _
    · split
      · exact .ok _
      · exact .error .unordered
  · exact hdate
  · exact hlist

/-- The induction follows the order of values through lists of them. -/
theorem fails_order? (v w : Value) : FailsBy Rejection (order? v w) := by
  refine order?.induct (fun v w => FailsBy Rejection (order? v w))
    (fun vs ws => FailsBy Rejection (orderEach? vs ws))
    ?date ?list ?number ?text ?other ?ended ?less ?greater ?same ?differ v w
  case date =>
    intro y m d y' m' d'
    rw [order?]
    exact .ok _
  case list =>
    intro vs ws ih
    rw [order?]
    exact ih
  case number => exact fun v w hdate hlist _ _ _ _ => fails_orderPlain hdate hlist
  case text => exact fun v w hdate hlist _ _ _ _ _ => fails_orderPlain hdate hlist
  case other => exact fun v w hdate hlist _ _ => fails_orderPlain hdate hlist
  case ended => exact .ok _
  case less => exact fun _ _ => .ok _
  case greater => exact fun _ _ => .ok _
  case same =>
    intro v vs w ws hsame ih
    rw [orderEach?, if_pos hsame]
    exact ih
  case differ =>
    intro v vs w ws hdiffer ih
    rw [orderEach?, if_neg hdiffer]
    exact ih

theorem fails_compareAs (op : Comparison) (v w : Value) :
    FailsBy Rejection (compareAs op v w) := by
  have ordered : FailsBy Rejection (do return op.holds (← order? v w)) :=
    (fails_order? v w).bind fun _ _ => .ok _
  cases op with
  | eq => exact .ok _
  | ne => exact .ok _
  | _ => exact ordered

theorem fails_compare (op : Comparison) (keepCase : Bool) (v w : Value) :
    FailsBy Rejection (compare op keepCase v w) := by
  unfold compare
  split
  · exact .ok _
  · refine (fails_agree op.symbol v w).bind fun p _ => ?_
    exact (fails_compareAs op _ _).bind fun _ _ => .ok _

theorem fails_operand (symbol : String) (side : Side) (v : Value) :
    FailsBy Rejection (operand symbol side v) := by
  unfold operand
  split
  · exact .ok _
  · exact fails_readNumber symbol _
  · exact .mismatch rfl

theorem fails_combine (op : Arithmetic) (x y : Scalar) : FailsBy Rejection (combine op x y) := by
  have divided (f : Scalar → Scalar → Except NumberFault Scalar) :
      FailsBy Rejection (if y.isZero then .error (.unfit (.zeroDivisor op.symbol))
        else (f x y).mapError .number) := by
    split
    · exact .error (.unfit (.inr rfl))
    · exact Rejection.mapError _
  cases op with
  | add => exact Rejection.mapError _
  | sub => exact Rejection.mapError _
  | mul => exact Rejection.mapError _
  | div => exact divided Scalar.div
  | rem => exact divided Scalar.rem

theorem fails_compute (op : Arithmetic) (v w : Value) : FailsBy Rejection (compute op v w) := by
  unfold compute
  split
  · exact .ok _
  · split
    · exact .ok _
    · refine FailsBy.bind ?_ fun p _ => (fails_combine _ _ _).bind fun _ _ => .ok _
      exact (fails_operand _ .left v).bind fun _ _ =>
        (fails_operand _ .right w).bind fun _ _ => .ok _

theorem fails_signed (op : Sign) (v : Value) : FailsBy Rejection (signed op v) := by
  unfold signed
  split
  · exact .ok _
  · refine (fails_operand op.symbol .only v).bind fun x _ => ?_
    cases op <;> exact .ok _

theorem fails_logical (connective : String) (v : Value) :
    FailsBy Rejection (logical connective v) := by
  unfold logical
  split
  · exact .ok _
  · split
    · exact .ok _
    · exact .mismatch rfl

theorem fails_negation (v : Value) : FailsBy Rejection v.negation :=
  (fails_logical "NOT" v).bind fun _ _ => .ok _

theorem fails_conjunction (v w : Value) : FailsBy Rejection (v.conjunction w) :=
  (fails_logical "AND" v).bind fun _ _ => (fails_logical "AND" w).bind fun _ _ => .ok _

theorem fails_disjunction (v w : Value) : FailsBy Rejection (v.disjunction w) :=
  (fails_logical "OR" v).bind fun _ _ => (fails_logical "OR" w).bind fun _ _ => .ok _

end Value

end RuleCheck
