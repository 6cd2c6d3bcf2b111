import RuleCheck.Token
import RuleCheck.Failure
import RuleCheck.Text.Case

/-!
# Comparing values

Two values of one kind are equal or not, and numbers, texts, truth values, dates and lists
are in order: truth values as zero and one, texts by their characters, lists and dates like
words. Values that have no order can still be told apart.
-/

set_option autoImplicit false

namespace RuleCheck

open Number

namespace Comparison

def holds (op : Comparison) : Option Ordering → Bool
  | none => op == ne
  | some o =>
    match op with
    | eq => o == .eq
    | ne => o != .eq
    | lt => o == .lt
    | gt => o == .gt
    | le => o != .gt
    | ge => o != .lt

end Comparison

namespace Value

def scalar? : Value → Option Scalar
  | bool b => some (.int b.toNat)
  | flag b => some (.int b.toNat)
  | v => v.number?

def textOrder (s t : String) : Ordering := compareOfLessAndEq s t

def dateOrder (a b : Nat × Nat × Nat) : Ordering :=
  (compare a.1 b.1).then ((compare a.2.1 b.2.1).then (compare a.2.2 b.2.2))

mutual

def same : Value → Value → Bool
  | null, null => true
  | absent, absent => true
  | action, action => true
  | date y m d, date y' m' d' => dateOrder (y, m, d) (y', m', d') == .eq
  | list xs, list ys => sameEach xs ys
  | a, b =>
    match a.scalar?, b.scalar? with
    | some x, some y =>
      match x.compare? y with
      | .ok o => o == some .eq
      | .error _ => false
    | _, _ =>
      match a.text?, b.text? with
      | some s, some t => s == t
      | _, _ => false

def sameEach : List Value → List Value → Bool
  | [], [] => true
  | x :: xs, y :: ys => same x y && sameEach xs ys
  | _, _ => false

end

mutual

def order? : Value → Value → Except Failure (Option Ordering)
  | date y m d, date y' m' d' => return some (dateOrder (y, m, d) (y', m', d'))
  | list xs, list ys => orderEach? xs ys
  | a, b =>
    match a.scalar?, b.scalar? with
    | some x, some y => (x.compare? y).mapError Failure.number
    | _, _ =>
      match a.text?, b.text? with
      | some s, some t => return some (textOrder s t)
      | _, _ => throw .unordered

def orderEach? : List Value → List Value → Except Failure (Option Ordering)
  | [], [] => return some .eq
  | [], _ :: _ => return some .lt
  | _ :: _, [] => return some .gt
  | x :: xs, y :: ys => if same x y then orderEach? xs ys else order? x y

end

def compareAs (op : Comparison) (a b : Value) : Except Failure Bool :=
  match op with
  | .eq => return same a b
  | .ne => return !same a b
  | op => return op.holds (← order? a b)

end Value

end RuleCheck
