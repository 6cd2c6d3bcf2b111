/-!
# Binary floating point numbers

A finite number of a binary format is a whole significand times a power of two. Quotients
of whole numbers are rounded to the nearest number of a format, and a tie goes to the even
significand. Every finite double is a whole multiple of one smallest unit, so doubles and
integers are ordered, and remainders taken, in whole numbers.
-/

set_option autoImplicit false

namespace RuleCheck.Number

def twoTo (n : Nat) : Nat := Nat.pow 2 n

def tenTo (n : Nat) : Nat := Nat.pow 10 n

structure Magnitude where
  significand : Nat
  exponent : Int
  deriving DecidableEq, Repr

structure BinaryFormat where
  precision : Nat
  leastExponent : Int
  greatestExponent : Int

namespace BinaryFormat

def half : BinaryFormat := ⟨11, -24, 5⟩

def single : BinaryFormat := ⟨24, -149, 104⟩

def double : BinaryFormat := ⟨53, -1074, 971⟩

end BinaryFormat

inductive Binary
  | nan
  | infinite (negative : Bool)
  | finite (negative : Bool) (size : Magnitude)
  deriving DecidableEq, Repr

def decode (x : Float) : Binary :=
  let bits := x.toBits.toNat
  let negative := bits / twoTo 63 = 1
  let exponent : Nat := bits / twoTo 52 % twoTo 11
  let fraction : Nat := bits % twoTo 52
  if exponent = 2047 then
    if fraction = 0 then .infinite negative else .nan
  else if exponent = 0 then .finite negative ⟨fraction, -1074⟩
  else .finite negative ⟨twoTo 52 + fraction, (exponent : Int) - 1075⟩

def isNaN (x : Float) : Bool := decode x == .nan

def signBit (negative : Bool) : Nat := if negative then twoTo 63 else 0

def infinity (negative : Bool) : Float :=
  Float.ofBits (UInt64.ofNat (signBit negative + 2047 * twoTo 52))

def encode (negative : Bool) (size : Magnitude) : Float :=
  let body :=
    if size.significand < twoTo 52 then size.significand
    else (size.exponent + 1075).toNat * twoTo 52 + (size.significand - twoTo 52)
  Float.ofBits (UInt64.ofNat (signBit negative + body))

def roundHalfEven (num den : Nat) : Nat :=
  let quotient := num / den
  let twice := 2 * (num % den)
  if twice < den then quotient
  else if den < twice then quotient + 1
  else if quotient % 2 = 0 then quotient
  else quotient + 1

def scale (num den : Nat) (power : Int) : Nat × Nat :=
  if 0 ≤ power then (num <<< power.toNat, den) else (num, den <<< (-power).toNat)

def binaryExponent (num den : Nat) : Int :=
  let guess := (num.log2 : Int) - den.log2
  let (n, d) := scale num den (-guess)
  if n < d then guess - 1 else guess

def BinaryFormat.round? (format : BinaryFormat) (num den : Nat) : Option Magnitude :=
  if num = 0 then some ⟨0, format.leastExponent⟩
  else
    let exponent := max format.leastExponent (binaryExponent num den - (format.precision - 1))
    let (n, d) := scale num den (-exponent)
    let significand := roundHalfEven n d
    let size : Magnitude :=
      if significand = twoTo format.precision then ⟨twoTo (format.precision - 1), exponent + 1⟩
      else ⟨significand, exponent⟩
    if size.exponent ≤ format.greatestExponent then some size else none

def nearest? (negative : Bool) (num den : Nat) : Option Float :=
  (BinaryFormat.double.round? num den).map (encode negative)

def ofInt? (n : Int) : Option Float := nearest? (n < 0) n.natAbs 1

def quotient? (a b : Int) : Option Float :=
  nearest? (decide (a < 0) != decide (b < 0)) a.natAbs b.natAbs

def ofDecimal (negative : Bool) (digits : Nat) (power : Int) : Float :=
  let places := ((Nat.toDigits 10 digits).length : Int) + power
  if digits ≠ 0 ∧ 400 < places then infinity negative
  else if digits = 0 ∨ places < -400 then encode negative ⟨0, -1074⟩
  else
    let num := if 0 ≤ power then digits * tenTo power.toNat else digits
    let den := if 0 ≤ power then 1 else tenTo (-power).toNat
    (nearest? negative num den).getD (infinity negative)

def Magnitude.fraction (size : Magnitude) : Nat × Nat :=
  scale size.significand 1 size.exponent

def BinaryFormat.narrow (format : BinaryFormat) (x : Float) : Float :=
  match decode x with
  | .finite negative size =>
    let (num, den) := size.fraction
    match format.round? num den with
    | none => infinity negative
    | some rounded =>
      let (num, den) := rounded.fraction
      (nearest? negative num den).getD (infinity negative)
  | _ => x

def Magnitude.units (size : Magnitude) : Nat :=
  size.significand <<< (size.exponent + 1074).toNat

inductive Rank
  | below
  | point (units : Int)
  | above
  deriving DecidableEq, Repr

namespace Rank

def lt : Rank → Rank → Bool
  | below, below => false
  | below, _ => true
  | point a, point b => decide (a < b)
  | point _, above => true
  | _, _ => false

def ofInt (n : Int) : Rank := point (n * twoTo 1074)

end Rank

def signed (negative : Bool) (n : Nat) : Int := if negative then -(n : Int) else n

def rank? (x : Float) : Option Rank :=
  match decode x with
  | .nan => none
  | .infinite true => some .below
  | .infinite false => some .above
  | .finite negative size => some (.point (signed negative size.units))

def remainder? (x y : Float) : Option Float :=
  match decode x, decode y with
  | .nan, _ => some x
  | _, .nan => some y
  | .infinite _, _ => none
  | .finite _ _, .infinite _ => some x
  | .finite negative a, .finite _ b => nearest? negative (a.units % b.units) (twoTo 1074)

def toInt? (x : Float) : Option Int :=
  match decode x with
  | .finite negative size =>
    let (num, den) := size.fraction
    if num % den = 0 then some (signed negative (num / den)) else none
  | _ => none

end RuleCheck.Number
