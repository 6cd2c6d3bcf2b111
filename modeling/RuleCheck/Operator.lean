import RuleCheck.Expr
import RuleCheck.Number.Numeral
import RuleCheck.Text.Blank
import RuleCheck.Value.Order

/-!
# Operators

Comparisons take two operands of one kind, and a text beside a number or a truth value is
read as one. Arithmetic takes numbers, and a sum of two texts joins them. Nothing as an
operand makes the result unknown, before any other look at the operands. The connectives
follow the strong three-valued logic, where `none` is the unknown truth value.
-/

set_option autoImplicit false

namespace RuleCheck

open Number Text

abbrev Truth := Option Bool

namespace Truth

def and : Truth → Truth → Truth
  | some false, _ => some false
  | _, some false => some false
  | some true, some true => some true
  | _, _ => none

def or : Truth → Truth → Truth
  | some true, _ => some true
  | _, some true => some true
  | some false, some false => some false
  | _, _ => none

def not : Truth → Truth
  | some b => some !b
  | none => none

end Truth

namespace Value

def ofTruth : Truth → Value
  | some b => bool b
  | none => absent

def readNumber (symbol text : String) : Except Failure Scalar :=
  let cs := trim text.toList
  match readInt? cs, readFloat? cs with
  | some n, _ => .ok (.int n)
  | none, some x => .ok (.float x)
  | none, none => .error (.unfit (.numberText symbol text))

def readTruth (symbol text : String) : Except Failure Bool :=
  let word := String.ofList ((trim text.toList).map Char.toLower)
  if word = "true" then .ok true
  else if word = "false" then .ok false
  else .error (.unfit (.truthText symbol text))

def readBeside (symbol text : String) (kind : Kind) : Except Failure (Option Value) :=
  match kind with
  | .int => return some (ofScalar (← readNumber symbol text))
  | .float => return some (ofScalar (← readNumber symbol text))
  | .bool => return some (bool (← readTruth symbol text))
  | _ => return none

def agree (symbol : String) (a b : Value) : Except Failure (Value × Value) := do
  let refusal : Failure := .unfit (.pair symbol a.kind b.kind)
  if a.kind = b.kind ∨ (a.kind.isNumeric ∧ b.kind.isNumeric) then return (a, b)
  match a.text?, b.text? with
  | some s, none =>
    match ← readBeside symbol s b.kind with
    | some a => return (a, b)
    | none => throw refusal
  | none, some s =>
    match ← readBeside symbol s a.kind with
    | some b => return (a, b)
    | none => throw refusal
  | _, _ => throw refusal

def foldCase : Value → Value → Value × Value
  | a, b =>
    match a.text?, b.text? with
    | some s, some t => (text (fold s), text (fold t))
    | _, _ => (a, b)

def compare (op : Comparison) (keepCase : Bool) (a b : Value) : Except Failure Truth := do
  if a.isNull || b.isNull then return none
  let (a, b) ← agree op.symbol a b
  let (a, b) := if keepCase then (a, b) else foldCase a b
  return some (← compareAs op a b)

def operand (symbol : String) (side : Side) (v : Value) : Except Failure Scalar :=
  match v.number?, v.text? with
  | some x, _ => .ok x
  | none, some s => readNumber symbol s
  | none, none => .error (.unfit (.notNumeric symbol side v.kind))

def combine (op : Arithmetic) (x y : Scalar) : Except Failure Scalar :=
  let divide (f : Scalar → Scalar → Except NumberFault Scalar) : Except Failure Scalar :=
    if y.isZero then .error (.unfit (.zeroDivisor op.symbol)) else (f x y).mapError .number
  match op with
  | .add => (x.add y).mapError .number
  | .sub => (x.sub y).mapError .number
  | .mul => (x.mul y).mapError .number
  | .div => divide Scalar.div
  | .rem => divide Scalar.rem

def operands (symbol : String) (a b : Value) : Except Failure (Scalar × Scalar) := do
  let x ← operand symbol .left a
  let y ← operand symbol .right b
  return (x, y)

def compute (op : Arithmetic) (a b : Value) : Except Failure Value :=
  if a.isNull || b.isNull then return absent
  else
    match op, a.text?, b.text? with
    | .add, some s, some t => return text (s ++ t)
    | op, _, _ => do
      let (x, y) ← operands op.symbol a b
      return ofScalar (← combine op x y)

def signed (op : Sign) (v : Value) : Except Failure Value :=
  if v.isNull then return absent
  else do
    let x ← operand op.symbol .only v
    match op with
    | .minus => return ofScalar x.neg
    | .plus => return if v.number?.isSome then v else ofScalar x

def logical (connective : String) (v : Value) : Except Failure Truth :=
  if v.isNull then .ok none
  else
    match v.truth? with
    | some b => .ok (some b)
    | none => .error (.unfit (.notLogical connective v.kind))

def conjunction (a b : Value) : Except Failure Truth := do
  let x ← logical "AND" a
  let y ← logical "AND" b
  return x.and y

def disjunction (a b : Value) : Except Failure Truth := do
  let x ← logical "OR" a
  let y ← logical "OR" b
  return x.or y

def negation (v : Value) : Except Failure Truth := do
  return (← logical "NOT" v).not

def nullTest (negated : Bool) (v : Value) : Bool := v.isNull != negated

def compareBy (symbol : String) (keepCase : Bool) (a b : Value) : Except Failure Truth :=
  match Comparison.ofSymbol? symbol with
  | some op => compare op keepCase a b
  | none => .error (.unfit (.noComparison symbol))

def computeBy (symbol : String) (a b : Value) : Except Failure Value :=
  match Arithmetic.ofSymbol? symbol with
  | some op => compute op a b
  | none =>
    if a.isNull || b.isNull then return absent
    else do
      let _ ← operands symbol a b
      throw (.unfit (.noArithmetic symbol))

def signedBy (symbol : String) (v : Value) : Except Failure Value :=
  match Sign.ofSymbol? symbol with
  | some op => signed op v
  | none =>
    if v.isNull then return absent
    else do
      let x ← operand symbol .only v
      return if v.number?.isSome then v else ofScalar x

end Value

end RuleCheck
