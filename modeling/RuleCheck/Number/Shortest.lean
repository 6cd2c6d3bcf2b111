import RuleCheck.Number.Binary

/-!
# Shortest decimal numbers

A floating point number is written with the fewest decimal digits that read back as it, and
with the digits nearest to it among those. The digits are found on decimal grids from
coarse to fine: the two points of a grid beside the number are tried against the interval
of all reals that round to it, in whole numbers throughout.
-/

set_option autoImplicit false

namespace RuleCheck.Number

def decimalExponent (num den : Nat) : Int :=
  if den ≤ num then ((Nat.toDigits 10 (num / den)).length : Int) - 1
  else
    let places := (Nat.toDigits 10 (den / num)).length
    if den ≤ num * tenTo (places - 1) then 1 - (places : Int) else -(places : Int)

structure Interval where
  low : Nat
  mid : Nat
  high : Nat
  den : Nat
  closed : Bool

def BinaryFormat.interval (format : BinaryFormat) (size : Magnitude) : Interval :=
  let m := size.significand
  let below := if m = twoTo (format.precision - 1) ∧ format.leastExponent < size.exponent
    then 1 else 2
  let (unit, den) := scale 1 1 (size.exponent - 2)
  ⟨(4 * m - below) * unit, 4 * m * unit, (4 * m + 2) * unit, den, m % 2 = 0⟩

def Interval.inPower (i : Interval) (power : Int) : Interval :=
  if 0 ≤ power then { i with den := i.den * tenTo power.toNat }
  else
    let factor := tenTo (-power).toNat
    { i with low := i.low * factor, mid := i.mid * factor, high := i.high * factor }

def Interval.has (i : Interval) (n : Nat) : Bool :=
  let x := n * i.den
  if i.closed then i.low ≤ x && x ≤ i.high else i.low < x && x < i.high

def Interval.pick? (i : Interval) : Option Nat :=
  let n := i.mid / i.den
  match i.has n, i.has (n + 1) with
  | true, true =>
    let twice := 2 * (i.mid % i.den)
    some (if twice < i.den ∨ (twice = i.den ∧ n % 2 = 0) then n else n + 1)
  | true, false => some n
  | false, true => some (n + 1)
  | false, false => none

def Interval.digits (i : Interval) : (places : Nat) → (power : Int) → Nat × Int
  | 0, power => ((i.inPower power).mid / (i.inPower power).den, power)
  | places + 1, power =>
    match (i.inPower power).pick? with
    | some n => (n, power)
    | none => i.digits places (power - 1)

def BinaryFormat.shortest (format : BinaryFormat) (size : Magnitude) : Nat × Int :=
  let (num, den) := size.fraction
  (format.interval size).digits 17 (decimalExponent num den)

structure Layout where
  leastPositional : Int
  positionalBelow : Int
  exponentWidth : Nat

def zeros (n : Nat) : List Char := List.replicate n '0'

def leadingForm (digits : Nat) (power : Int) : List Char × Int :=
  let ds := Nat.toDigits 10 digits
  let exponent := power + ((ds.length : Int) - 1)
  ((ds.reverse.dropWhile (· == '0')).reverse, exponent)

def Layout.write (layout : Layout) (digits : Nat) (power : Int) : List Char :=
  let (ds, exponent) := leadingForm digits power
  if layout.leastPositional ≤ exponent ∧ exponent < layout.positionalBelow then
    if exponent < 0 then '0' :: '.' :: zeros (-exponent - 1).toNat ++ ds
    else
      let whole := exponent.toNat + 1
      if ds.length ≤ whole then ds ++ zeros (whole - ds.length) ++ ['.', '0']
      else ds.take whole ++ '.' :: ds.drop whole
  else
    let size := Nat.toDigits 10 exponent.natAbs
    let mantissa := match ds with
      | d :: e :: rest => d :: '.' :: e :: rest
      | short => short
    mantissa ++ 'e' :: (if exponent < 0 then '-' else '+') ::
      zeros (layout.exponentWidth - size.length) ++ size

def plainLayout : Layout := ⟨-4, 16, 2⟩

def BinaryFormat.write (format : BinaryFormat) (x : Float) : List Char :=
  match decode x with
  | .nan => ['n', 'a', 'n']
  | .infinite negative => (if negative then ['-'] else []) ++ ['i', 'n', 'f']
  | .finite negative size =>
    let (num, den) := size.fraction
    let body :=
      if num = 0 then ['0', '.', '0']
      else match format.round? num den with
        | none => ['i', 'n', 'f']
        | some size =>
          let (digits, power) := format.shortest size
          plainLayout.write digits power
    (if negative then ['-'] else []) ++ body

def writeFloat (x : Float) : List Char := BinaryFormat.double.write x

end RuleCheck.Number
