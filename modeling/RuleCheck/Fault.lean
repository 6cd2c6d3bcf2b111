import RuleCheck.Value
import RuleCheck.Text.Quoted

/-!
# Faults

A fault is a mistake in the authored rule: what went wrong and, once it is known, the
expression it went wrong in. Each cause has one wording and one reason, so callers can tell
faults apart without reading the message.
-/

set_option autoImplicit false

namespace RuleCheck

open Text

inductive Reason
  | ok
  | invalidSyntax
  | unexpectedEnd
  | unknownIdentifier
  | ambiguousIdentifier
  | unboundPlaceholder
  | typeMismatch
  | divisionByZero
  | nonBooleanResult
  | internalError
  deriving DecidableEq, Repr

namespace Reason

def all : List Reason :=
  [ok, invalidSyntax, unexpectedEnd, unknownIdentifier, ambiguousIdentifier,
    unboundPlaceholder, typeMismatch, divisionByZero, nonBooleanResult, internalError]

def name : Reason → String
  | ok => "OK"
  | invalidSyntax => "INVALID_SYNTAX"
  | unexpectedEnd => "UNEXPECTED_END"
  | unknownIdentifier => "UNKNOWN_IDENTIFIER"
  | ambiguousIdentifier => "AMBIGUOUS_IDENTIFIER"
  | unboundPlaceholder => "UNBOUND_PLACEHOLDER"
  | typeMismatch => "TYPE_MISMATCH"
  | divisionByZero => "DIVISION_BY_ZERO"
  | nonBooleanResult => "NON_BOOLEAN_RESULT"
  | internalError => "INTERNAL_ERROR"

def code : Reason → Nat
  | ok => 0
  | invalidSyntax => 1
  | unexpectedEnd => 2
  | unknownIdentifier => 3
  | ambiguousIdentifier => 4
  | unboundPlaceholder => 5
  | typeMismatch => 6
  | divisionByZero => 7
  | nonBooleanResult => 8
  | internalError => 9

end Reason

inductive Wanted
  | anything
  | operand
  | null
  | closing
  | nothing
  deriving DecidableEq, Repr

def Wanted.wording : Wanted → String
  | .anything => "Empty expression"
  | .operand => "Expected an operand"
  | .null => "Expected NULL"
  | .closing => "Expected ')'"
  | .nothing => "Unexpected token"

inductive Misspelling
  | openText
  | openName
  | emptyName
  | character (c : Char)
  | token (wanted : Wanted) (found : Option String)
  deriving DecidableEq, Repr

namespace Misspelling

def wording : Misspelling → String
  | openText => "Unterminated string literal"
  | openName => "Unterminated bracketed identifier"
  | emptyName => "Empty bracketed identifier"
  | character c => "Unexpected character " ++ String.ofList (quotedChars [c])
  | token wanted (some text) => wanted.wording ++ ", found " ++ quoted text
  | token wanted none => wanted.wording ++ ", reached end of expression"

def reason : Misspelling → Reason
  | openText => .unexpectedEnd
  | openName => .unexpectedEnd
  | token _ none => .unexpectedEnd
  | _ => .invalidSyntax

end Misspelling

inductive Side
  | left
  | right
  | only
  deriving DecidableEq, Repr

def Side.name : Side → String
  | .left => "LHS"
  | .right => "RHS"
  | .only => "operand"

/-- Operands that an operator, a column or the result cannot take. -/
inductive Unfit
  | noComparison (symbol : String)
  | noArithmetic (symbol : String)
  | numberText (symbol text : String)
  | truthText (symbol text : String)
  | pair (symbol : String) (left right : Kind)
  | notNumeric (symbol : String) (side : Side) (kind : Kind)
  | zeroDivisor (symbol : String)
  | notLogical (connective : String) (kind : Kind)
  | result (kind : Kind)
  | memberType (member type : String)
  | memberValue (member value type : String)
  deriving DecidableEq, Repr

namespace Unfit

def operator (symbol : String) : String := "Operator '" ++ symbol ++ "' "

def wording : Unfit → String
  | noComparison symbol => "Unknown comparison operator '" ++ symbol ++ "'"
  | noArithmetic symbol => "Unknown arithmetic operator '" ++ symbol ++ "'"
  | numberText symbol text =>
    operator symbol ++ "cannot convert string " ++ quoted text ++ " to a number"
  | truthText symbol text =>
    operator symbol ++ "cannot convert string " ++ quoted text ++ " to a boolean"
  | pair symbol left right =>
    operator symbol ++ "cannot compare " ++ left.name ++ " with " ++ right.name
  | notNumeric symbol side kind =>
    operator symbol ++ "requires numeric " ++ side.name ++ ", got " ++ kind.name
  | zeroDivisor symbol => operator symbol ++ "divides by zero"
  | notLogical connective kind =>
    operator connective ++ "requires a boolean operand, got " ++ kind.name
  | result kind => "Expression must evaluate to a boolean, got " ++ kind.name
  | memberType member type => "Member '" ++ member ++ "' has unsupported type " ++ type
  | memberValue member value type =>
    "Member '" ++ member ++ "' value " ++ value ++ " does not fit declared type " ++ type

def reason : Unfit → Reason
  | noComparison _ => .internalError
  | noArithmetic _ => .internalError
  | zeroDivisor _ => .divisionByZero
  | result _ => .nonBooleanResult
  | _ => .typeMismatch

end Unfit

inductive Cause
  | misspelt (mistake : Misspelling) (position : Nat)
  | unknownName (name : String) (allowed : List String)
  | ambiguousName (name : String) (candidates : List String)
  | placeholder
  | unfit (operand : Unfit)
  | foreignNode (kind : String)
  deriving DecidableEq, Repr

def sortedNames (names : List String) : List String := names.mergeSort (· ≤ ·)

namespace Cause

def choice : List String → String
  | [] => ". No eligible members"
  | names => ". Allowed: " ++ ", ".intercalate (sortedNames names)

def wording : Cause → String
  | misspelt mistake position => mistake.wording ++ " at position " ++ toString position
  | unknownName name allowed => "Unknown identifier '" ++ name ++ "'" ++ choice allowed
  | ambiguousName name candidates => "Ambiguous identifier '" ++ name ++ "'" ++ choice candidates
  | placeholder => "Placeholder \x7b0\x7d requires a member name"
  | unfit operand => operand.wording
  | foreignNode kind => "Unknown expression type: " ++ kind

def reason : Cause → Reason
  | misspelt mistake _ => mistake.reason
  | unknownName _ _ => .unknownIdentifier
  | ambiguousName _ _ => .ambiguousIdentifier
  | placeholder => .unboundPlaceholder
  | unfit operand => operand.reason
  | foreignNode _ => .internalError

end Cause

structure Fault where
  cause : Cause
  expression : Option String
  deriving DecidableEq, Repr

namespace Fault

def reason (f : Fault) : Reason := f.cause.reason

def message (f : Fault) : String :=
  match f.expression with
  | some expression => f.cause.wording ++ " (expression: " ++ quoted expression ++ ")"
  | none => f.cause.wording

def attach (expression : String) (f : Fault) : Fault :=
  { f with expression := f.expression <|> some expression }

end Fault

end RuleCheck
