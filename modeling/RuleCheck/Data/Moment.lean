import RuleCheck.Value

/-!
# Moments in data files

A date is written with a four digit year and two digits for the month and the day. With a
time behind it each may also have one digit, and the time may have a fraction of a second
and an offset from universal time. What has one of these forms is a date or a time whether
or not the calendar has it, so one that is not in the calendar is refused and never a text.
-/

set_option autoImplicit false

namespace RuleCheck.Data

inductive Moment
  | day (year month day : Nat)
  | time
  deriving DecidableEq, Repr

namespace Moment

abbrev Read (α : Type) := List Char → Option (α × List Char)

def digits (least most : Nat) : Read Nat := fun cs =>
  let found := (cs.take most).takeWhile Char.isDigit
  if found.length < least then none
  else some (found.foldl (fun n c => 10 * n + (c.toNat - 48)) 0, cs.drop found.length)

def sign (c : Char) : Read Unit
  | [] => none
  | d :: cs => if c == d then some ((), cs) else none

def dayParts (least : Nat) : Read (Nat × Nat × Nat) := fun cs => do
  let (year, cs) ← digits 4 4 cs
  let (_, cs) ← sign '-' cs
  let (month, cs) ← digits least 2 cs
  let (_, cs) ← sign '-' cs
  let (date, cs) ← digits least 2 cs
  return ((year, month, date), cs)

def isGap (c : Char) : Bool := c == ' ' || c == '\t'

def gap : Read Unit
  | 'T' :: cs => some ((), cs)
  | 't' :: cs => some ((), cs)
  | c :: cs => if isGap c then some ((), cs.dropWhile isGap) else none
  | [] => none

def clock : Read (Nat × Nat × Nat) := fun cs => do
  let (hour, cs) ← digits 1 2 cs
  let (_, cs) ← sign ':' cs
  let (minute, cs) ← digits 2 2 cs
  let (_, cs) ← sign ':' cs
  let (second, cs) ← digits 2 2 cs
  return ((hour, minute, second), cs)

def dropFraction : List Char → List Char
  | '.' :: cs => cs.dropWhile Char.isDigit
  | cs => cs

def shift? (cs : List Char) : Option (Nat × Nat) := do
  let (hours, cs) ← digits 1 2 cs
  match cs with
  | [] => return (hours, 0)
  | cs =>
    let (_, cs) ← sign ':' cs
    let (minutes, cs) ← digits 2 2 cs
    guard cs.isEmpty
    return (hours, minutes)

def offset? (cs : List Char) : Option (Nat × Nat) :=
  match cs with
  | [] => some (0, 0)
  | cs =>
    match cs.dropWhile isGap with
    | ['Z'] => some (0, 0)
    | '+' :: cs => shift? cs
    | '-' :: cs => shift? cs
    | _ => none

def isLeap (year : Nat) : Bool := year % 4 == 0 && (year % 100 != 0 || year % 400 == 0)

def monthLength (year month : Nat) : Nat :=
  if month = 2 then if isLeap year then 29 else 28
  else if [4, 6, 9, 11].contains month then 30
  else 31

def isDay (year month date : Nat) : Bool :=
  1 ≤ year && 1 ≤ month && month ≤ 12 && 1 ≤ date && date ≤ monthLength year month

def day? (cs : List Char) : Option (Nat × Nat × Nat) := do
  let (parts, cs) ← dayParts 2 cs
  guard cs.isEmpty
  return parts

def time? (cs : List Char) : Option ((Nat × Nat × Nat) × (Nat × Nat × Nat) × (Nat × Nat)) := do
  let (parts, cs) ← dayParts 1 cs
  let (_, cs) ← gap cs
  let (reading, cs) ← clock cs
  return (parts, reading, ← offset? (dropFraction cs))

def read? (cs : List Char) : Option (Option Moment) :=
  match day? cs with
  | some (year, month, date) =>
    some (if isDay year month date then some (.day year month date) else none)
  | none => (time? cs).map fun ((year, month, date), (hour, minute, second), (hours, minutes)) =>
    if isDay year month date && hour < 24 && minute < 60 && second < 60 &&
        60 * hours + minutes < 24 * 60 then some .time
    else none

end Moment

end RuleCheck.Data
