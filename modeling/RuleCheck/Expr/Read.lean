import RuleCheck.Expr
import RuleCheck.Number.Numeral
import RuleCheck.Token.Scan

/-!
# Reading expressions

An expression is read token by token. What has been read so far is a stack of open frames:
parentheses, connectives and operators that still wait for their right side. A finished
operand closes all frames that bind at least as tightly as the operator that follows it, so
operators of one level group to the left. The levels are, from loose to tight: OR, AND, NOT,
comparisons and tests for nothing, addition, remainder, multiplication, signs. A comparison
has no comparison as an operand unless in parentheses, and NOT opens only where an operand
of a connective may begin.
-/

set_option autoImplicit false

namespace RuleCheck

open Number

inductive Frame
  | paren
  | or (left : Expr)
  | and (left : Expr)
  | not
  | compare (op : Comparison) (left : Expr)
  | add (left : Expr)
  | sub (left : Expr)
  | rem (left : Expr)
  | mul (left : Expr)
  | div (left : Expr)
  | sign (op : Sign)

namespace Frame

def level : Frame → Nat
  | paren => 0
  | or _ => 1
  | and _ => 2
  | not => 3
  | compare _ _ => 4
  | add _ => 5
  | sub _ => 5
  | rem _ => 6
  | mul _ => 7
  | div _ => 7
  | sign _ => 8

def wrap : Frame → Expr → Expr
  | paren, e => e
  | or l, e => .or l e
  | and l, e => .and l e
  | not, e => .not e
  | compare op l, e => .compare op l e
  | add l, e => .compute .add l e
  | sub l, e => .compute .sub l e
  | rem l, e => .compute .rem l e
  | mul l, e => .compute .mul l e
  | div l, e => .compute .div l e
  | sign op, e => .sign op e

def arithmeticLevel : Arithmetic → Nat
  | .add => 5
  | .sub => 5
  | .rem => 6
  | .mul => 7
  | .div => 7

def arithmetic : Arithmetic → Expr → Frame
  | .add, l => add l
  | .sub, l => sub l
  | .rem, l => rem l
  | .mul, l => mul l
  | .div, l => div l

def close (level : Nat) (e : Expr) : List Frame → Expr × List Frame
  | [] => (e, [])
  | f :: stack => if level ≤ f.level then close level (f.wrap e) stack else (e, f :: stack)

def isParen : Frame → Bool
  | paren => true
  | _ => false

end Frame

/-- How far an expression is read: an operand is wanted, or one is held on top of the open
frames, where a test for nothing is an operand of connectives only. -/
inductive Reading
  | wanting (stack : List Frame)
  | holding (e : Expr) (stack : List Frame)
  | tested (e : Expr) (stack : List Frame)
  | afterIs (e : Expr) (stack : List Frame)
  | afterIsNot (e : Expr) (stack : List Frame)

inductive Refusal
  | unwanted (wanted : Wanted)
  | numeral

namespace Reading

def numberValue? (digits : String) : Option Value :=
  let cs := digits.toList
  if cs.any fun c => c == '.' || c == 'e' || c == 'E' then (readFloat? cs).map Value.float
  else (readInt? cs).map Value.int

def admitsNot : List Frame → Bool
  | [] => true
  | f :: _ => f.level ≤ 3

def wantOperand (stack : List Frame) (t : Token) : Except Refusal Reading :=
  match t.lexeme with
  | .number digits =>
    match numberValue? digits with
    | some value => .ok (holding (.literal value) stack)
    | none => .error .numeral
  | .text content => .ok (holding (.literal (.text content)) stack)
  | .name name => .ok (holding (.member name t.position) stack)
  | .keyword .true => .ok (holding (.literal (.bool true)) stack)
  | .keyword .false => .ok (holding (.literal (.bool false)) stack)
  | .keyword .null => .ok (holding (.literal .null) stack)
  | .keyword .not =>
    if admitsNot stack then .ok (wanting (.not :: stack)) else .error (.unwanted .operand)
  | .arithmetic .sub => .ok (wanting (.sign .minus :: stack))
  | .arithmetic .add => .ok (wanting (.sign .plus :: stack))
  | .opening => .ok (wanting (.paren :: stack))
  | _ => .error (.unwanted .operand)

def ending (stack : List Frame) : Wanted :=
  if stack.any Frame.isParen then .closing else .nothing

def joinLeft (level : Nat) (frame : Expr → Frame) (e : Expr) (stack : List Frame) : Reading :=
  let (left, rest) := Frame.close level e stack
  wanting (frame left :: rest)

def closeParen (e : Expr) (stack : List Frame) : Except Refusal Reading :=
  match Frame.close 1 e stack with
  | (inner, .paren :: rest) => .ok (holding inner rest)
  | _ => .error (.unwanted .nothing)

def compareLeft (next : Expr → List Frame → Reading) (e : Expr) (stack : List Frame) :
    Except Refusal Reading :=
  match Frame.close 5 e stack with
  | (_, .compare _ _ :: _) => .error (.unwanted (ending stack))
  | (left, rest) => .ok (next left rest)

def afterTest (e : Expr) (stack : List Frame) (t : Token) : Except Refusal Reading :=
  match t.lexeme with
  | .keyword .and => .ok (joinLeft 2 .and e stack)
  | .keyword .or => .ok (joinLeft 1 .or e stack)
  | .closing => closeParen e stack
  | _ => .error (.unwanted (ending stack))

def afterOperand (e : Expr) (stack : List Frame) (t : Token) : Except Refusal Reading :=
  match t.lexeme with
  | .arithmetic op => .ok (joinLeft (Frame.arithmeticLevel op) (Frame.arithmetic op) e stack)
  | .keyword .mod => .ok (joinLeft 6 .rem e stack)
  | .comparison op => compareLeft (fun left rest => wanting (.compare op left :: rest)) e stack
  | .keyword .is => compareLeft afterIs e stack
  | _ => afterTest e stack t

def step (r : Reading) (t : Token) : Except Refusal Reading :=
  match r with
  | wanting stack => wantOperand stack t
  | holding e stack => afterOperand e stack t
  | tested e stack => afterTest e stack t
  | afterIs e stack =>
    match t.lexeme with
    | .keyword .not => .ok (afterIsNot e stack)
    | .keyword .null => .ok (tested (.isNull false e) stack)
    | _ => .error (.unwanted .null)
  | afterIsNot e stack =>
    match t.lexeme with
    | .keyword .null => .ok (tested (.isNull true e) stack)
    | _ => .error (.unwanted .null)

def closeAll (e : Expr) (stack : List Frame) : Except Wanted Expr :=
  match Frame.close 1 e stack with
  | (whole, []) => .ok whole
  | _ => .error .closing

def finish : Reading → Except Wanted Expr
  | wanting _ => .error .operand
  | holding e stack => closeAll e stack
  | tested e stack => closeAll e stack
  | afterIs _ _ => .error .null
  | afterIsNot _ _ => .error .null

def run (stop : Nat) (r : Reading) : List Token → Except Failure Expr
  | [] => r.finish.mapError fun wanted => .ofCause (.misspelt (.token wanted none) stop)
  | t :: ts =>
    match r.step t with
    | .ok r => run stop r ts
    | .error .numeral => .error .numeral
    | .error (.unwanted wanted) =>
      .error (.ofCause (.misspelt (.token wanted (some t.lexeme.content)) t.position))

end Reading

namespace Expr

def ofTokens (stop : Nat) : List Token → Except Failure Expr
  | [] => .error (.ofCause (.misspelt (.token .anything none) stop))
  | ts => Reading.run stop (.wanting []) ts

def read (source : String) : Except Failure Expr := do
  attaching source (ofTokens source.length (← tokens source))

end Expr

end RuleCheck
