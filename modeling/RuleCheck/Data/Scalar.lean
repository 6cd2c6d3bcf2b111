import RuleCheck.Data.Moment
import RuleCheck.Number.Numeral

/-!
# Scalars in data files

A scalar without quotes may be more than a text: nothing, a truth value, an integer in one
of four bases or in groups of sixty, a number with a point, or a moment. The form alone
decides. What has the form of a number or of a moment but is none is refused.
-/

set_option autoImplicit false

namespace RuleCheck.Data

open Number

inductive Defect
  | unreadable
  | malformed
  | numeral
  | moment
  | other
  deriving DecidableEq, Repr

inductive Scalar
  | value (v : Value)
  | time
  | merging
  | default

namespace Scalar

def trueWords : List String :=
  ["yes", "Yes", "YES", "true", "True", "TRUE", "on", "On", "ON"]

def falseWords : List String :=
  ["no", "No", "NO", "false", "False", "FALSE", "off", "Off", "OFF"]

def nullWords : List String := ["", "~", "null", "Null", "NULL"]

def word? (text : String) : Option Scalar :=
  if nullWords.contains text then some (.value .null)
  else if trueWords.contains text then some (.value (.bool true))
  else if falseWords.contains text then some (.value (.bool false))
  else if text == "<<" then some .merging
  else if text == "=" then some .default
  else none

def isLow (c : Char) : Bool := c == '_'

def isDigitOrLow (c : Char) : Bool := c.isDigit || isLow c

def isHexDigit (c : Char) : Bool :=
  c.isDigit || ('a' ≤ c && c ≤ 'f') || ('A' ≤ c && c ≤ 'F')

def hexValue (c : Char) : Nat :=
  if c.isDigit then c.toNat - 48 else c.toLower.toNat - 87

def inBase (base : Nat) (ds : List Char) : Nat :=
  (ds.filter fun c => !isLow c).foldl (fun n c => base * n + hexValue c) 0

def based? (isDigit : Char → Bool) (base : Nat) (ds : List Char) : Option (Except Defect Nat) :=
  if ds.isEmpty || !ds.all (fun c => isDigit c || isLow c) then none
  else if ds.all isLow then some (.error .numeral)
  else some (.ok (inBase base ds))

def decimal (ds : List Char) : Except Defect Nat :=
  if (ds.filter fun c => !isLow c).length ≤ maxDigits then .ok (inBase 10 ds)
  else .error .numeral

def sixtieth? : List Char → Option Nat
  | [c] => if c.isDigit then some (hexValue c) else none
  | [c, d] =>
    if '0' ≤ c && c ≤ '5' && d.isDigit then some (10 * hexValue c + hexValue d) else none
  | _ => none

/-- The parts between colons. -/
def parts : List Char → List (List Char)
  | [] => [[]]
  | c :: cs =>
    match c == ':', parts cs with
    | true, ps => [] :: ps
    | false, p :: ps => (c :: p) :: ps
    | false, [] => [[c]]

def sixties (first : Nat) (rest : List Nat) : Nat := rest.foldl (fun n d => 60 * n + d) first

def magnitude? : List Char → Option (Except Defect Nat)
  | [] => none
  | ['0'] => some (.ok 0)
  | '0' :: 'b' :: ds => based? (fun c => c == '0' || c == '1') 2 ds
  | '0' :: 'x' :: ds => based? isHexDigit 16 ds
  | '0' :: ds =>
    if ds.all fun c => ('0' ≤ c && c ≤ '7') || isLow c then some (.ok (inBase 8 ds)) else none
  | c :: ds =>
    if !c.isDigit then none
    else
      match parts (c :: ds) with
      | [whole] => if whole.all isDigitOrLow then some (decimal whole) else none
      | whole :: rest =>
        if whole.all isDigitOrLow then
          (rest.mapM sixtieth?).map fun rest => (decimal whole).map (sixties · rest)
        else none
      | [] => none

def int? (cs : List Char) : Option (Except Defect Int) :=
  let (negative, body) := splitSign cs
  (magnitude? body).map fun n => n.map (signed negative)

def isPower : List Char → Bool
  | [] => true
  | e :: s :: ds =>
    (e == 'e' || e == 'E') && (s == '+' || s == '-') && !ds.isEmpty && ds.all Char.isDigit
  | _ => false

def isFraction (cs : List Char) : Bool := isPower (cs.dropWhile isDigitOrLow)

def isDecimal (cs : List Char) : Bool :=
  cs.head?.any Char.isDigit &&
    match cs.dropWhile isDigitOrLow with
    | '.' :: rest => isFraction rest
    | _ => false

def withoutLow (cs : List Char) : List Char := cs.filter fun c => !isLow c

def sixtiesFloat? (cs : List Char) : Option Float := do
  match parts cs with
  | first :: second :: rest =>
    guard (first.head?.any Char.isDigit && first.all isDigitOrLow)
    let last := (second :: rest).getLastD []
    let whole := last.takeWhile (· != '.')
    guard (last.contains '.' && (last.drop (whole.length + 1)).all isDigitOrLow)
    let _ ← (((second :: rest).dropLast) ++ [whole]).mapM sixtieth?
    let floats ← (first :: second :: rest).mapM fun p => readFloat? (withoutLow p)
    return (floats.reverse.foldl (fun (sum, base) d => (sum + d * base, base * 60))
      ((0.0 : Float), (1.0 : Float))).1
  | _ => none

def float? (cs : List Char) : Option Float :=
  let (negative, body) := splitSign cs
  let isSigned := body.length < cs.length
  let number (x : Option Float) : Option Float := x.map fun x => if negative then -x else x
  match body with
  | '.' :: c :: rest =>
    let word := String.ofList (c :: rest)
    if ["inf", "Inf", "INF"].contains word then some (infinity negative)
    else if isSigned then none
    else if ["nan", "NaN", "NAN"].contains word then some nan
    else if c.isDigit && isFraction rest then readFloat? (withoutLow body)
    else none
  | body =>
    if isDecimal body then number (readFloat? (withoutLow body)) else number (sixtiesFloat? body)

def read (text : String) : Except Defect Scalar :=
  let cs := text.toList
  match word? text, float? cs, int? cs, Moment.read? cs with
  | some s, _, _, _ => .ok s
  | none, some x, _, _ => .ok (.value (.float x))
  | none, none, some n, _ => n.map fun n => .value (.int n)
  | none, none, none, some none => .error .moment
  | none, none, none, some (some (.day y m d)) => .ok (.value (.date y m d))
  | none, none, none, some (some .time) => .ok .time
  | none, none, none, none => .ok (.value (.text text))

end Scalar

end RuleCheck.Data
