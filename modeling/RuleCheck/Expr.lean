import RuleCheck.Entries
import RuleCheck.Token
import RuleCheck.Value

/-!
# Expressions

The trees that expressions stand for: members and literals, signs, arithmetic, comparisons,
tests for nothing, and the logical connectives. A member keeps the position it was read at.
A node of a kind that is not known here can be held, but not evaluated.
-/

set_option autoImplicit false

namespace RuleCheck

inductive Sign
  | minus
  | plus
  deriving DecidableEq, Repr

namespace Sign

def symbol : Sign → String
  | minus => "-"
  | plus => "+"

def ofSymbol? (symbol : String) : Option Sign :=
  if symbol = "-" then some minus else if symbol = "+" then some plus else none

end Sign

inductive Expr
  | member (name : String) (position : Nat)
  | literal (value : Value)
  | sign (op : Sign) (operand : Expr)
  | compute (op : Arithmetic) (left right : Expr)
  | compare (op : Comparison) (left right : Expr)
  | isNull (negated : Bool) (operand : Expr)
  | not (operand : Expr)
  | and (left right : Expr)
  | or (left right : Expr)
  | foreign (kind : String)

inductive Unbuildable
  | noName
  | sign (symbol : String)
  | operator (symbol : String)
  deriving DecidableEq, Repr

namespace Unbuildable

def validSymbols : List String :=
  (Arithmetic.all.map (·.symbol) ++ Comparison.all.map (·.symbol)).mergeSort (· ≤ ·)

def message : Unbuildable → String
  | noName => "MemberRef: name is required"
  | sign symbol => "UnaryExpr: unknown operator '" ++ symbol ++ "'"
  | operator symbol =>
    "BinaryExpr: unknown operator '" ++ symbol ++ "'. Valid operators: [" ++
      ", ".intercalate (validSymbols.map fun s => "'" ++ s ++ "'") ++ "]"

end Unbuildable

namespace Expr

def member? (name : String) (position : Nat) : Except Unbuildable Expr :=
  if name.isEmpty then .error .noName else .ok (member name position)

def sign? (symbol : String) (operand : Expr) : Except Unbuildable Expr :=
  match Sign.ofSymbol? symbol with
  | some op => .ok (sign op operand)
  | none => .error (.sign symbol)

def binary? (symbol : String) (left right : Expr) : Except Unbuildable Expr :=
  match Arithmetic.ofSymbol? symbol, Comparison.ofSymbol? symbol with
  | some op, _ => .ok (compute op left right)
  | none, some op => .ok (compare op left right)
  | none, none => .error (.operator symbol)

def names : Expr → List String
  | member name _ => [name]
  | literal _ => []
  | sign _ e => e.names
  | compute _ l r => l.names ++ r.names
  | compare _ l r => l.names ++ r.names
  | isNull _ e => e.names
  | not e => e.names
  | and l r => l.names ++ r.names
  | or l r => l.names ++ r.names
  | foreign _ => []

def members (e : Expr) : List String := firsts e.names

end Expr

end RuleCheck
