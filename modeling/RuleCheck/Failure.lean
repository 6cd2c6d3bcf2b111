import RuleCheck.Fault

/-!
# Failures

Beside faults of the rule there are other ways to fail: a number, a value, a template, an
annotation or a data file may be beyond what can be handled. Only faults name the expression
they are about.
-/

set_option autoImplicit false

namespace RuleCheck

inductive FileDefect
  | missing
  | unreadable
  | unparsable
  | shape (type : String)
  deriving DecidableEq, Repr

def FileDefect.wording : FileDefect → String
  | .missing => "file not found"
  | .unreadable => "cannot read"
  | .unparsable => "cannot parse"
  | .shape type => "expected a mapping of member values, got " ++ type

inductive TemplateDefect
  | format
  | name
  | index
  | attribute
  | key
  | other
  deriving DecidableEq, Repr

/-- Every way to fail: by a fault of the rule, or by a number, a value, a template, an
annotation or a data file that is beyond what can be handled. -/
inductive Failure
  | fault (fault : Fault)
  | numeral
  | number (fault : Number.NumberFault)
  | longInteger
  | nestedValue
  | unordered
  | notTruth
  | noResult
  | rowCount (rows : Nat)
  | notText (type : String)
  | levelName (name : String)
  | template (defect : TemplateDefect)
  | unreadableType
  | brokenType
  | level
  | logDirectory
  | settled
  | absentKey
  | frozen
  | dataFile (path : String) (defect : FileDefect)
  | barredPath
  | moment
  | brokenData
  deriving DecidableEq, Repr

namespace Failure

def message? : Failure → Option String
  | fault f => some f.message
  | rowCount rows =>
    some ("EvaluationContext requires exactly one row, got " ++ toString rows)
  | notText type => some ("Expression must be a string, got " ++ type)
  | levelName name => some ("Invalid LOG_LEVEL '" ++ name ++ "'")
  | dataFile path defect => some ("Invalid data file '" ++ path ++ "': " ++ defect.wording)
  | _ => none

def ofCause (cause : Cause) : Failure := fault ⟨cause, none⟩

def unfit (operand : Unfit) : Failure := ofCause (.unfit operand)

def attach (expression : String) : Failure → Failure
  | fault f => fault (f.attach expression)
  | other => other

end Failure

def attaching {α : Type} (expression : String) (step : Except Failure α) : Except Failure α :=
  step.mapError (Failure.attach expression)

theorem exists_of_bind_eq_ok {ε α β : Type} {step : Except ε α} {next : α → Except ε β} {b : β}
    (h : (step >>= next) = .ok b) : ∃ a, step = .ok a ∧ next a = .ok b := by
  cases step with
  | error e => cases h
  | ok a => exact ⟨a, rfl, h⟩

end RuleCheck
