import RuleCheck.Number.Shortest
import RuleCheck.Value.Order
import RuleCheck.Value.Written

/-!
# Marked texts

A text with marks is filled with arguments, one for each mark. A mark says how its argument
is written: as a text, in quotation marks where it is one, as an integer in some base, as a
number with some decimal places or with some digits and perhaps a power of ten, or as one
character. It may also say how wide the argument is at least, on which side it stands, and what
else is filled in; the width and the number of places may be arguments too. Arguments that are too
few, too many or of the wrong kind do not fit, and then there is no text. A text without arguments
has no marks.
-/

set_option autoImplicit false

namespace RuleCheck

namespace Marked

open Number

structure Mark where
  flags : List Char
  width : Nat
  limit : Option Nat
  kind : Char

namespace Mark

def has (flag : Char) (m : Mark) : Bool := m.flags.contains flag

def isLeft (m : Mark) : Bool := m.has '-'

def fillsZeros (m : Mark) : Bool := m.has '0' && !m.isLeft

end Mark

def flagSigns : List Char := ['-', '0', '+', ' ', '#']

def sizeSigns : List Char := ['h', 'l', 'L']

def greatestWidth : Nat := twoTo 63 - 1

def greatestLimit : Nat := twoTo 31 - 1

def whole? : Value → Option Int
  | .int n => some n
  | .bool b => some b.toNat
  | .derivedInt _ n => some n
  | .enumerated _ _ n => some n
  | _ => none

def takeDigits (greatest : Nat) (cs : List Char) : Option (Nat × List Char) :=
  let n := (cs.takeWhile Char.isDigit).foldl (fun n c => 10 * n + (c.toNat - 48)) 0
  if n ≤ greatest then some (n, cs.dropWhile Char.isDigit) else none

def takeSize (greatest : Nat) (cs : List Char) (arguments : List Value) :
    Option (Int × List Char × List Value) :=
  match cs, arguments with
  | '*' :: cs, v :: arguments => do
    let n ← whole? v
    if n.natAbs ≤ greatest then some (n, cs, arguments) else none
  | '*' :: _, [] => none
  | cs, arguments => (takeDigits greatest cs).map fun (n, cs) => (n, cs, arguments)

def dropSize : List Char → List Char
  | [] => []
  | c :: cs => if sizeSigns.contains c then cs else c :: cs

def mark? (cs : List Char) (arguments : List Value) : Option (Mark × List Char × List Value) := do
  let flags := cs.takeWhile flagSigns.contains
  let (width, rest, arguments) ← takeSize greatestWidth (cs.drop flags.length) arguments
  let flags := if width < 0 then '-' :: flags else flags
  let (limit, rest, arguments) ← match rest with
    | '.' :: rest => (takeSize greatestLimit rest arguments).map fun (n, rest, arguments) =>
        (some n.toNat, rest, arguments)
    | rest => some (none, rest, arguments)
  match dropSize rest with
  | [] => none
  | kind :: rest => return (⟨flags, width.natAbs, limit, kind⟩, rest, arguments)

def zeros (n : Nat) : List Char := List.replicate n '0'

def pad (m : Mark) (text : List Char) : List Char :=
  let missing := List.replicate (m.width - text.length) ' '
  if m.isLeft then text ++ missing else missing ++ text

def signOf (m : Mark) (negative : Bool) : List Char :=
  if negative then ['-']
  else if m.has '+' then ['+']
  else if m.has ' ' then [' ']
  else []

def writeNumber (m : Mark) (negative : Bool) (start digits : List Char) : List Char :=
  let start := signOf m negative ++ start
  if m.fillsZeros then start ++ zeros (m.width - start.length - digits.length) ++ digits
  else pad m (start ++ digits)

def truncated? (v : Value) : Option Int :=
  match v.scalar? with
  | some (.int n) => some n
  | some (.word _ n) => some n
  | some (.float x) => toward x
  | some (.real _ x) => toward x
  | none => none
where
  toward (x : Float) : Option Int :=
    match decode x with
    | .finite negative size =>
      let (num, den) := size.fraction
      some (signed negative (num / den))
    | _ => none

def writeWhole? (m : Mark) (base : Nat) (start : List Char) (v : Value) : Option (List Char) := do
  let n ← truncated? v
  let digits ← if base = 10 then writeInt? n.natAbs else some (Nat.toDigits base n.natAbs)
  let digits := zeros (m.limit.getD 0 - digits.length) ++ digits
  return writeNumber m (n < 0) (if m.has '#' then start else []) digits

def isExact (v : Value) : Bool :=
  match v.scalar? with
  | some (.int _) => true
  | some (.word _ _) => true
  | _ => false

def places (count : Nat) (keepsPoint : Bool) (size : Magnitude) : List Char :=
  let (num, den) := size.fraction
  let digits := Nat.toDigits 10 (roundHalfEven (num * tenTo count) den)
  let digits := zeros (count + 1 - digits.length) ++ digits
  let whole := digits.take (digits.length - count)
  if count = 0 && !keepsPoint then whole else whole ++ '.' :: digits.drop whole.length

def leading (count : Nat) (size : Magnitude) : List Char × Int :=
  let (num, den) := size.fraction
  if num = 0 then (zeros count, 0)
  else
    let power := decimalExponent num den
    let shift := (count : Int) - 1 - power
    let n := roundHalfEven (num * tenTo shift.toNat) (den * tenTo (-shift).toNat)
    if n < tenTo count then (Nat.toDigits 10 n, power)
    else (Nat.toDigits 10 (n / 10), power + 1)

def pointed (before : Nat) (keepsPoint : Bool) (digits : List Char) : List Char :=
  if digits.length ≤ before && !keepsPoint then digits
  else digits.take before ++ '.' :: digits.drop before

def powerText (power : Int) : List Char :=
  let digits := Nat.toDigits 10 power.natAbs
  'e' :: (if power < 0 then '-' else '+') :: (zeros (2 - digits.length) ++ digits)

def scientific (count : Nat) (keepsPoint : Bool) (size : Magnitude) : List Char :=
  let (digits, power) := leading (count + 1) size
  pointed 1 keepsPoint digits ++ powerText power

def dropZeros (digits : List Char) : List Char := (digits.reverse.dropWhile (· == '0')).reverse

def general (count : Nat) (keepsZeros : Bool) (size : Magnitude) : List Char :=
  let count := max count 1
  let (digits, power) := leading count size
  let kept (before : Nat) (digits : List Char) :=
    if keepsZeros then digits else digits.take before ++ dropZeros (digits.drop before)
  if power < -4 || count ≤ power then
    pointed 1 keepsZeros (kept 1 digits) ++ powerText power
  else if power < 0 then
    let digits := '0' :: (zeros (-power - 1).toNat ++ digits)
    pointed 1 keepsZeros (kept 1 digits)
  else
    let before := power.toNat + 1
    pointed before keepsZeros (kept before digits)

def writeFloat? (m : Mark) (write : (count : Nat) → (keeps : Bool) → Magnitude → List Char)
    (v : Value) : Option (List Char) := do
  let x ← (← v.scalar?).float?.toOption
  match decode x with
  | .nan => return writeNumber m false [] "nan".toList
  | .infinite negative => return writeNumber m negative [] "inf".toList
  | .finite negative size =>
    return writeNumber m negative [] (write (m.limit.getD 6) (m.has '#') size)

def cut (m : Mark) (text : List Char) : List Char :=
  match m.limit with
  | some n => text.take n
  | none => text

def characterOf? (n : Int) : Option Char :=
  if 0 ≤ n ∧ n.toNat.isValidChar then some (Char.ofNat n.toNat) else none

def character? (v : Value) : Option Char :=
  match v.text?, v.scalar? with
  | some s, _ =>
    match s.toList with
    | [c] => some c
    | _ => none
  | none, some (.int n) => characterOf? n
  | none, some (.word _ n) => characterOf? n
  | none, _ => none

def writeArgument? (m : Mark) (v : Value) : Option (List Char) :=
  match m.kind with
  | 's' => v.plain?.map fun text => pad m (cut m text)
  | 'r' => v.shown?.map fun text => pad m (cut m text)
  | 'a' => v.shown?.map fun text => pad m (cut m (Text.inAscii text))
  | 'c' => (character? v).map fun c => pad m [c]
  | 'd' => writeWhole? m 10 [] v
  | 'i' => writeWhole? m 10 [] v
  | 'u' => writeWhole? m 10 [] v
  | 'x' => if isExact v then writeWhole? m 16 ['0', 'x'] v else none
  | 'X' => if isExact v then (writeWhole? m 16 ['0', 'x'] v).map (·.map Char.toUpper) else none
  | 'o' => if isExact v then writeWhole? m 8 ['0', 'o'] v else none
  | 'e' => writeFloat? m scientific v
  | 'E' => (writeFloat? m scientific v).map (·.map Char.toUpper)
  | 'f' => writeFloat? m places v
  | 'F' => (writeFloat? m places v).map (·.map Char.toUpper)
  | 'g' => writeFloat? m general v
  | 'G' => (writeFloat? m general v).map (·.map Char.toUpper)
  | _ => none

def fillAll? : (limit : Nat) → List Char → List Value → Option (List Char)
  | 0, _, _ => none
  | limit + 1, cs, arguments => do
    let text := cs.takeWhile (· != '%')
    match cs.dropWhile (· != '%') with
    | [] => if arguments.isEmpty then some text else none
    | _ :: '%' :: rest => return text ++ '%' :: (← fillAll? limit rest arguments)
    | _ :: rest =>
      let (m, rest, arguments) ← mark? rest arguments
      match arguments with
      | [] => none
      | v :: arguments =>
        return text ++ (← writeArgument? m v) ++ (← fillAll? limit rest arguments)

def fill? (text : String) (arguments : List Value) : Option String :=
  match arguments with
  | [] => some text
  | arguments => (fillAll? (text.length + 1) text.toList arguments).map String.ofList

end Marked

end RuleCheck
