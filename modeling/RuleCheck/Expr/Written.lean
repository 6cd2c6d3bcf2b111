import RuleCheck.Expr
import RuleCheck.Value.Order
import RuleCheck.Value.Written

/-!
# Written expressions

An expression is shown with every operation in parentheses or under its name. Two
expressions are the same if they have the same shape, positions included, and the same
values as literals.
-/

set_option autoImplicit false

namespace RuleCheck.Expr

open Text

def pairText (name : String) (l r : List Char) : List Char :=
  name.toList ++ '(' :: l ++ ',' :: ' ' :: r ++ [')']

def operationText (symbol : String) (l r : List Char) : List Char :=
  '(' :: l ++ ' ' :: symbol.toList ++ ' ' :: r ++ [')']

def shown? : Expr → Option (List Char)
  | member name _ => some ("Ref(".toList ++ quotedChars name.toList ++ [')'])
  | literal .null => some "NULL".toList
  | literal value => value.shown?.map fun text => "Lit(".toList ++ text ++ [')']
  | sign op e => e.shown?.map fun text => '(' :: op.symbol.toList ++ text ++ [')']
  | compute op l r => do return operationText op.symbol (← l.shown?) (← r.shown?)
  | compare op l r => do return operationText op.symbol (← l.shown?) (← r.shown?)
  | isNull negated e =>
    e.shown?.map fun text =>
      '(' :: text ++ (if negated then " IS NOT NULL)" else " IS NULL)").toList
  | not e => e.shown?.map fun text => "Not(".toList ++ text ++ [')']
  | and l r => do return pairText "And" (← l.shown?) (← r.shown?)
  | or l r => do return pairText "Or" (← l.shown?) (← r.shown?)
  | foreign kind => some ('<' :: kind.toList ++ " object>".toList)

def same : Expr → Expr → Bool
  | member m i, member n j => m == n && i == j
  | literal v, literal w => v.same w
  | sign op e, sign op' e' => op == op' && same e e'
  | compute op l r, compute op' l' r' => op == op' && same l l' && same r r'
  | compare op l r, compare op' l' r' => op == op' && same l l' && same r r'
  | isNull negated e, isNull negated' e' => negated == negated' && same e e'
  | not e, not e' => same e e'
  | and l r, and l' r' => same l l' && same r r'
  | or l r, or l' r' => same l l' && same r r'
  | _, _ => false

end RuleCheck.Expr
