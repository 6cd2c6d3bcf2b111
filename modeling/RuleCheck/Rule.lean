import RuleCheck.Authored
import RuleCheck.Evaluate
import RuleCheck.Journal
import RuleCheck.Member.Candidate
import RuleCheck.Outcome
import RuleCheck.Template

/-!
# Checking rules

A rule is checked against a candidate: it is brought into the grammar of expressions and
evaluated with the members that a rule may use. A blank rule always holds. A violated rule
is an outcome, with a message made from a template; a mistake in the rule is a failure, and
is never taken for a violation. What happens is recorded on the way.
-/

set_option autoImplicit false

namespace RuleCheck

open Text

variable [Things]

/-- A rule to be checked: its text, the member it is about, the template of its message,
and the members it may use where these are given. -/
structure Check where
  expression : Option String
  member : Option String
  message : Option String
  members : Option (List Descriptor)

structure Report where
  records : List Record
  answer : Except Failure Outcome

namespace Check

abbrev Source := Except Failure Settings

def isBlank (c : Check) : Bool :=
  match c.expression with
  | some text => Text.isBlank text.toList
  | none => true

def failureMessage (settings : Source) (candidate : Candidate) (member message : Option String) :
    Except Failure String := do
  let template ← match message with
    | some template => pure template
    | none => (·.message) <$> settings
  Template.fill template (member.getD candidate.typeName)

def evaluated (source : String) (e : Evaluation) : Record :=
  let value := String.ofList (e.value.plain?.getD [])
  let row := String.ofList (e.row.shown?.getD [])
  ⟨.debug, "Evaluated " ++ quoted source ++ " -> " ++ value ++ " with " ++ row⟩

def failed (candidate : Candidate) (f : Fault) : Record :=
  ⟨.error, "Evaluation failed for " ++ candidate.typeName ++ ": " ++ f.message ++ " [" ++
    f.reason.name ++ "]"⟩

def evaluate (settings : Source) (rule : String) (member : Option String)
    (bindings : List Binding) : Except Failure (String × Evaluation) := do
  let source ← normalize rule member
  let settings ← settings
  return (source, ← evaluateIn source bindings settings.keepCase)

def conclude (settings : Source) (candidate : Candidate) (c : Check) (holds : Bool) :
    Except Failure Outcome :=
  if holds then .ok .passed
  else do
    let message ← failureMessage settings candidate c.member c.message
    return .failed (some message) c.member.toList

def run (settings : Source) (candidate : Candidate) (c : Check) : Report :=
  if c.isBlank then ⟨[], .ok .passed⟩
  else
    match candidate.bindings c.members with
    | .error failure => ⟨[], .error failure⟩
    | .ok bindings =>
      match evaluate settings (c.expression.getD "") c.member bindings with
      | .error (.fault f) => ⟨[failed candidate f], .error (.fault f)⟩
      | .error failure => ⟨[], .error failure⟩
      | .ok (source, e) =>
        ⟨[evaluated source e,
            .outcome source e.verdict c.member [("type", candidate.typeName)]],
          conclude settings candidate c e.verdict⟩

end Check

def validate (settings : Check.Source) (candidate : Candidate) (c : Check) :
    Except Failure Outcome := (c.run settings candidate).answer

structure Rule where
  expression : Option String
  message : Option String

namespace Rule

def isDefault (r : Rule) : Bool := r.expression.isNone

def same (r s : Rule) : Bool := r.expression == s.expression

def check (r : Rule) (member : Option String) : Check := ⟨r.expression, member, r.message, none⟩

def countDistinct (rules : List Rule) : Nat := (firsts (rules.map (·.expression))).length

end Rule

def namedRules : List (String × String) :=
  [("IsNotNull", "\x7b0\x7d <> NULL"), ("IsNull", "\x7b0\x7d = NULL"),
    ("IsPositive", "\x7b0\x7d > 0"), ("IsNegative", "\x7b0\x7d < 0"), ("IsZero", "\x7b0\x7d = 0"),
    ("IsPositiveOrZero", "\x7b0\x7d >= 0"), ("IsNegativeOrZero", "\x7b0\x7d <= 0"),
    ("IsOdd", "(\x7b0\x7d % 2) <> 0"), ("IsEven", "(\x7b0\x7d % 2) = 0")]

end RuleCheck
