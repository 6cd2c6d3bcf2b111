import Mathlib.Algebra.Order.Ring.Rat
import RuleCheck.Evaluate

/-!
# Strict evaluation

Truth values have degrees, and the connectives are the least and the greatest degree and the
rest to one. An evaluator that always looks at both sides of a connective computes by
degrees alone. Wherever it finds a value, the one that stops at the left side finds the same.
-/

set_option autoImplicit false

namespace RuleCheck

namespace Truth

def degree : Truth → Rat
  | some false => 0
  | none => 1 / 2
  | some true => 1

def ofDegree (d : Rat) : Truth := if d = 0 then some false else if d = 1 then some true else none

theorem ofDegree_degree (x : Truth) : ofDegree x.degree = x := by
  rcases x with _ | _ | _ <;> decide +kernel

theorem degree_and (x y : Truth) : (x.and y).degree = min x.degree y.degree := by
  rcases x with _ | _ | _ <;> rcases y with _ | _ | _ <;> decide +kernel

theorem degree_or (x y : Truth) : (x.or y).degree = max x.degree y.degree := by
  rcases x with _ | _ | _ <;> rcases y with _ | _ | _ <;> decide +kernel

theorem degree_not (x : Truth) : x.not.degree = 1 - x.degree := by
  rcases x with _ | _ | _ <;> decide +kernel

end Truth

namespace Value

def joined (connective : String) (degrees : Rat → Rat → Rat) (a b : Value) :
    Except Failure Value := do
  let x ← logical connective a
  let y ← logical connective b
  return .ofTruth (.ofDegree (degrees x.degree y.degree))

/-- By degrees operands are joined as by the truth function that has these degrees. -/
theorem joined_eq {connective : String} {degrees : Rat → Rat → Rat} {f : Truth → Truth → Truth}
    (hf : ∀ x y, (f x y).degree = degrees x.degree y.degree) (a b : Value) :
    joined connective degrees a b = (do
      let truth ← (do return f (← logical connective a) (← logical connective b))
      return .ofTruth truth) := by
  cases ha : logical connective a with
  | error failure => simp only [joined, ha, bind, Except.bind]
  | ok x =>
    cases hb : logical connective b with
    | error failure => simp only [joined, ha, hb, bind, Except.bind]
    | ok y =>
      simp only [joined, ha, hb, bind, Except.bind, ← hf, Truth.ofDegree_degree]
      rfl

def complement (a : Value) : Except Failure Value := do
  let x ← logical "NOT" a
  return .ofTruth (.ofDegree (1 - x.degree))

theorem complement_eq (a : Value) : a.complement = (do return .ofTruth (← a.negation)) := by
  cases ha : logical "NOT" a with
  | error failure => simp only [complement, negation, ha, bind, Except.bind]
  | ok x =>
    simp only [complement, negation, ha, bind, Except.bind, ← Truth.degree_not,
      Truth.ofDegree_degree]
    rfl

end Value

namespace Expr

def strictValue (row : Row) : Expr → Except Failure Value
  | literal .null => return .absent
  | literal v => return v
  | member name _ => row.get name
  | sign op e => do (← e.strictValue row).signed op
  | compute op l r => do
    let left ← l.strictValue row
    let right ← r.strictValue row
    Value.compute op left right
  | compare op l r => do
    let left ← l.strictValue row
    let right ← r.strictValue row
    return .ofTruth (← Value.compare op row.keepCase left right)
  | isNull negated e => do return .bool ((← e.strictValue row).nullTest negated)
  | not e => do (← e.strictValue row).complement
  | and l r => do
    let left ← l.strictValue row
    let right ← r.strictValue row
    Value.joined "AND" min left right
  | or l r => do
    let left ← l.strictValue row
    let right ← r.strictValue row
    Value.joined "OR" max left right
  | foreign kind => throw (.ofCause (.foreignNode kind))

end Expr

def Refines (strict lazy : Except Failure Value) : Prop :=
  ∀ v, strict = .ok v → lazy = .ok v

namespace Refines

theorem refl (r : Except Failure Value) : Refines r r := fun _ h => h

theorem bind {strict lazy : Except Failure Value} {f g : Value → Except Failure Value}
    (h : Refines strict lazy) (hfg : ∀ v, Refines (f v) (g v)) :
    Refines (strict >>= f) (lazy >>= g) := by
  cases strict with
  | error failure => exact fun v hv => by cases hv
  | ok a =>
    rw [h a rfl]
    exact hfg a

theorem const {strict : Except Failure Value} {v : Value} (h : ∀ w, strict = .ok w → w = v) :
    Refines strict (.ok v) := by
  intro w hw
  rw [h w hw]

end Refines

namespace Expr

theorem eq_of_isFalse {v : Value} (h : isFalse v = true) : v = .bool false := by
  unfold isFalse at h
  split at h
  · rfl
  · cases h

theorem eq_of_isTrue {v : Value} (h : isTrue v = true) : v = .bool true := by
  unfold isTrue at h
  split at h
  · rfl
  · cases h

/-- A left side that decides a connective does so whatever truth value the right side has. -/
theorem refines_decided {connective : String} {degrees : Rat → Rat → Rat} {b : Bool}
    (hdecided : ∀ y : Truth, Truth.ofDegree (degrees (Truth.degree (some b)) y.degree) = some b)
    (right : Except Failure Value) :
    Refines (do Value.joined connective degrees (.bool b) (← right)) (.ok (.bool b)) := by
  apply Refines.const
  intro w hw
  cases right with
  | error failure => cases hw
  | ok v =>
    have hw : Value.joined connective degrees (.bool b) v = .ok w := hw
    have hb : Value.logical connective (.bool b) = .ok (some b) := rfl
    unfold Value.joined at hw
    rw [hb] at hw
    cases hv : Value.logical connective v with
    | error failure =>
      rw [hv] at hw
      cases hw
    | ok y =>
      rw [hv] at hw
      cases hw
      exact congrArg Value.ofTruth (hdecided y)

theorem ofDegree_min_false (y : Truth) :
    Truth.ofDegree (min (Truth.degree (some false)) y.degree) = some false := by
  rw [← Truth.degree_and, Truth.ofDegree_degree]
  rfl

theorem ofDegree_max_true (y : Truth) :
    Truth.ofDegree (max (Truth.degree (some true)) y.degree) = some true := by
  rw [← Truth.degree_or, Truth.ofDegree_degree]
  rfl

theorem refines_value (row : Row) (e : Expr) : Refines (e.strictValue row) (e.value row) := by
  induction e with
  | member name position => exact .refl _
  | literal v => cases v <;> exact .refl _
  | sign op x ih => exact ih.bind fun v => .refl _
  | compute op l r ihl ihr => exact ihl.bind fun v => ihr.bind fun w => .refl _
  | compare op l r ihl ihr => exact ihl.bind fun v => ihr.bind fun w => .refl _
  | isNull negated x ih => exact ih.bind fun v => .refl _
  | not x ih =>
    refine ih.bind fun v => ?_
    rw [Value.complement_eq]
    exact .refl _
  | and l r ihl ihr =>
    refine ihl.bind fun v => ?_
    by_cases hfalse : isFalse v = true
    · rw [if_pos hfalse, eq_of_isFalse hfalse]
      exact refines_decided ofDegree_min_false _
    · rw [if_neg hfalse]
      refine ihr.bind fun w => ?_
      rw [Value.joined_eq Truth.degree_and]
      exact .refl _
  | or l r ihl ihr =>
    refine ihl.bind fun v => ?_
    by_cases htrue : isTrue v = true
    · rw [if_pos htrue, eq_of_isTrue htrue]
      exact refines_decided ofDegree_max_true _
    · rw [if_neg htrue]
      refine ihr.bind fun w => ?_
      rw [Value.joined_eq Truth.degree_or]
      exact .refl _
  | foreign kind => exact .refl _

/-- The value of an expression is its strict value wherever there is one. The two can differ
only where the strict evaluation fails. -/
theorem value_of_strictValue (row : Row) (e : Expr) :
    (∀ v, e.strictValue row = .ok v → e.value row = .ok v) ∧
      (e.value row ≠ e.strictValue row → ∃ failure, e.strictValue row = .error failure) := by
  constructor
  · exact refines_value row e
  · intro hne
    cases h : e.strictValue row with
    | error failure => exact ⟨failure, rfl⟩
    | ok v =>
      rw [h] at hne
      exact absurd (refines_value row e v h) hne

def halfKnown : Expr :=
  .and (.not (.and (.literal (.bool false)) (.literal .null)))
    (.or (.compare .gt (.member "Stock" 32) (.literal (.int 3))) (.literal .null))

def emptyShelf : Row := ⟨[("Stock", .int none)], none, false⟩

theorem value_halfKnown :
    halfKnown.strictValue emptyShelf = .ok .absent ∧ halfKnown.value emptyShelf = .ok .absent := by
  have hstrict : halfKnown.strictValue emptyShelf = .ok .absent := by
    simp only [halfKnown, strictValue, Value.joined_eq Truth.degree_and,
      Value.joined_eq Truth.degree_or, Value.complement_eq]
    rfl
  exact ⟨hstrict, (value_of_strictValue emptyShelf halfKnown).1 .absent hstrict⟩

/-- A number on the right side is a failure only to the strict evaluation. -/
example (row : Row) :
    (and (literal (.bool false)) (literal (.int 1))).value row = .ok (.bool false) ∧
      (and (literal (.bool false)) (literal (.int 1))).strictValue row =
        .error (.unfit (.notLogical "AND" .int)) :=
  ⟨rfl, rfl⟩

end Expr

end RuleCheck
