import RuleCheck.Expr.Read

/-!
# The grammar of expressions

Which expression a list of tokens derives. Phrases are counted by levels from loose to tight:
1 for OR, 2 for AND, 3 for NOT, 4 for comparisons and tests for nothing, 5 for sums, 6 for
remainders, 7 for products, 8 for signs and 9 for operands, where a phrase of level 1 in
parentheses is an operand. A whole expression is a phrase of level 1.
-/

set_option autoImplicit false

namespace RuleCheck

inductive Atom : Token → Expr → Prop
  | number {t : Token} {digits : String} {v : Value} (ht : t.lexeme = .number digits)
      (hv : Reading.numberValue? digits = some v) : Atom t (.literal v)
  | text {t : Token} {content : String} (ht : t.lexeme = .text content) :
      Atom t (.literal (.text content))
  | member {t : Token} {name : String} (ht : t.lexeme = .name name) :
      Atom t (.member name t.position)
  | true {t : Token} (ht : t.lexeme = .keyword .true) : Atom t (.literal (.bool true))
  | false {t : Token} (ht : t.lexeme = .keyword .false) : Atom t (.literal (.bool false))
  | null {t : Token} (ht : t.lexeme = .keyword .null) : Atom t (.literal .null)

inductive Joins : Lexeme → Nat → (Expr → Expr → Expr) → Prop
  | or : Joins (.keyword .or) 1 .or
  | and : Joins (.keyword .and) 2 .and
  | add : Joins (.arithmetic .add) 5 (.compute .add)
  | sub : Joins (.arithmetic .sub) 5 (.compute .sub)
  | rem : Joins (.arithmetic .rem) 6 (.compute .rem)
  | mod : Joins (.keyword .mod) 6 (.compute .rem)
  | mul : Joins (.arithmetic .mul) 7 (.compute .mul)
  | div : Joins (.arithmetic .div) 7 (.compute .div)

/-- No such operator stands at the levels of NOT, comparisons and signs. -/
theorem Joins.level {l : Lexeme} {n : Nat} {f : Expr → Expr → Expr} (h : Joins l n f) :
    n = 1 ∨ n = 2 ∨ n = 5 ∨ n = 6 ∨ n = 7 := by
  cases h <;> decide

inductive Signs : Lexeme → Sign → Prop
  | minus : Signs (.arithmetic .sub) .minus
  | plus : Signs (.arithmetic .add) .plus

inductive Derives : Nat → List Token → Expr → Prop
  | tighter {n : Nat} {ts : List Token} {x : Expr} (hx : Derives (n + 1) ts x) : Derives n ts x
  | join {n : Nat} {f : Expr → Expr → Expr} {t : Token} {ls rs : List Token} {x y : Expr}
      (ht : Joins t.lexeme n f) (hx : Derives n ls x) (hy : Derives (n + 1) rs y) :
      Derives n (ls ++ t :: rs) (f x y)
  | not {t : Token} {ts : List Token} {x : Expr} (ht : t.lexeme = .keyword .not)
      (hx : Derives 3 ts x) : Derives 3 (t :: ts) (.not x)
  | compare {op : Comparison} {t : Token} {ls rs : List Token} {x y : Expr}
      (ht : t.lexeme = .comparison op) (hx : Derives 5 ls x) (hy : Derives 5 rs y) :
      Derives 4 (ls ++ t :: rs) (.compare op x y)
  | isNull {t u : Token} {ts : List Token} {x : Expr} (ht : t.lexeme = .keyword .is)
      (hu : u.lexeme = .keyword .null) (hx : Derives 5 ts x) :
      Derives 4 (ts ++ [t, u]) (.isNull false x)
  | isNotNull {t u w : Token} {ts : List Token} {x : Expr} (ht : t.lexeme = .keyword .is)
      (hu : u.lexeme = .keyword .not) (hw : w.lexeme = .keyword .null) (hx : Derives 5 ts x) :
      Derives 4 (ts ++ [t, u, w]) (.isNull true x)
  | sign {op : Sign} {t : Token} {ts : List Token} {x : Expr} (ht : Signs t.lexeme op)
      (hx : Derives 8 ts x) : Derives 8 (t :: ts) (.sign op x)
  | atom {t : Token} {x : Expr} (hx : Atom t x) : Derives 9 [t] x
  | paren {t u : Token} {ts : List Token} {x : Expr} (ht : t.lexeme = .opening)
      (hu : u.lexeme = .closing) (hx : Derives 1 ts x) : Derives 9 (t :: ts ++ [u]) x

namespace Derives

theorem loosen {n m : Nat} {ts : List Token} {x : Expr} (hnm : n ≤ m) (h : Derives m ts x) :
    Derives n ts x := by
  induction hnm with
  | refl => exact h
  | step _ ih => exact ih (tighter h)

theorem ne_nil {n : Nat} {ts : List Token} {x : Expr} (h : Derives n ts x) : ts ≠ [] := by
  induction h with
  | tighter _ ih => exact ih
  | join => simp
  | not => simp
  | compare => simp
  | isNull => simp
  | isNotNull => simp
  | sign => simp
  | atom => simp
  | paren => simp

end Derives

end RuleCheck
