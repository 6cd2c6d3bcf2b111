import RuleCheck.Expr.Read
import RuleCheck.Operator
import RuleCheck.Row

/-!
# Evaluation

An expression is evaluated in a row. Before that every member it names is looked up, also
where evaluation would never come. A false left side decides a conjunction, a true one a
disjunction, without a look at the right side. The result has to be a truth value or
unknown, and an unknown result counts as false.
-/

set_option autoImplicit false

namespace RuleCheck

namespace Expr

def isFalse : Value → Bool
  | .bool false => true
  | _ => false

def isTrue : Value → Bool
  | .bool true => true
  | _ => false

def value (row : Row) : Expr → Except Failure Value
  | literal .null => return .absent
  | literal v => return v
  | member name _ => row.get name
  | sign op e => do (← e.value row).signed op
  | compute op l r => do
    let left ← l.value row
    let right ← r.value row
    Value.compute op left right
  | compare op l r => do
    let left ← l.value row
    let right ← r.value row
    return .ofTruth (← Value.compare op row.keepCase left right)
  | isNull negated e => do return .bool ((← e.value row).nullTest negated)
  | not e => do return .ofTruth (← (← e.value row).negation)
  | and l r => do
    let left ← l.value row
    if isFalse left then return .bool false
    return .ofTruth (← left.conjunction (← r.value row))
  | or l r => do
    let left ← l.value row
    if isTrue left then return .bool true
    return .ofTruth (← left.disjunction (← r.value row))
  | foreign kind => throw (.ofCause (.foreignNode kind))

def bind (row : Row) (e : Expr) : Except Failure Unit :=
  e.members.forM fun name => do let _ ← row.resolve name

end Expr

structure Evaluation where
  verdict : Bool
  value : Value
  row : Row

def checkResult (value : Value) : Except Failure Unit :=
  if value.isNull ∨ value.kind = .bool then .ok () else .error (.unfit (.result value.kind))

def evaluateIn (source : String) (bindings : List Binding) (keepCase : Bool) :
    Except Failure Evaluation := do
  let e ← Expr.read source
  attaching source do
    let row ← Row.ofBindings bindings keepCase (some e.members)
    e.bind row
    let value ← e.value row
    checkResult value
    let row ← row.store value
    return ⟨← row.verdict, value, row⟩

def evaluate (source : String) (bindings : List Binding) (keepCase : Bool) :
    Except Failure Bool := do
  return (← evaluateIn source bindings keepCase).verdict

end RuleCheck
