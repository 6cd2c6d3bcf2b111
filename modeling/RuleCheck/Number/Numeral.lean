import RuleCheck.Number.Binary
import RuleCheck.Text.Blank
import RuleCheck.Text.Letter

/-!
# Numerals

The texts that stand for integers and for floating point numbers. Digits may be those of
any script, and a single low line may stand between two digits. White space around a
numeral is dropped, except the information separators, which belong to no numeral. An
integer of more than 4300 digits is refused, both read and written.
-/

set_option autoImplicit false

namespace RuleCheck.Number

open RuleCheck.Text

def maxDigits : Nat := 4300

def isPadding (c : Char) : Bool := isSpace c && !(0x1C ≤ c.toNat && c.toNat ≤ 0x1F)

def withoutPadding (cs : List Char) : List Char :=
  ((cs.dropWhile isPadding).reverse.dropWhile isPadding).reverse

def splitSign : List Char → Bool × List Char
  | '-' :: cs => (true, cs)
  | '+' :: cs => (false, cs)
  | cs => (false, cs)

def groupedDigits? : List Char → Option (List Nat)
  | [] => none
  | [c] => (digitValue? c).map ([·])
  | c :: '_' :: cs => do return (← digitValue? c) :: (← groupedDigits? cs)
  | c :: cs => do return (← digitValue? c) :: (← groupedDigits? cs)

def ofPlaces (places : List Nat) : Nat := places.foldl (fun n d => 10 * n + d) 0

def readInt? (cs : List Char) : Option Int := do
  let (negative, body) := splitSign (withoutPadding cs)
  let places ← groupedDigits? body
  guard (places.length ≤ maxDigits)
  return signed negative (ofPlaces places)

def dropLowLines? : List Char → Option (List Char)
  | [] => some []
  | '_' :: _ => none
  | [c] => some [c]
  | c :: '_' :: d :: cs =>
    if (digitValue? c).isSome && (digitValue? d).isSome then
      (dropLowLines? (d :: cs)).map (c :: ·)
    else none
  | c :: cs => (dropLowLines? cs).map (c :: ·)

def takeDigits : List Char → List Nat × List Char
  | [] => ([], [])
  | c :: cs =>
    match digitValue? c with
    | some d => let (ds, rest) := takeDigits cs; (d :: ds, rest)
    | none => ([], c :: cs)

def readPower? : List Char → Option Int
  | [] => some 0
  | c :: cs =>
    if c == 'e' || c == 'E' then
      let (negative, body) := splitSign cs
      match takeDigits body with
      | (d :: ds, []) => some (signed negative (ofPlaces (d :: ds)))
      | _ => none
    else none

def readDecimal? (cs : List Char) : Option (Nat × Int) := do
  let (whole, rest) := takeDigits cs
  let (part, rest) := match rest with
    | '.' :: rest => takeDigits rest
    | rest => ([], rest)
  guard !(whole.isEmpty && part.isEmpty)
  let power ← readPower? rest
  return (ofPlaces (whole ++ part), power - part.length)

def nan : Float := Float.ofBits 0x7FF8000000000000

def readFloat? (cs : List Char) : Option Float := do
  let cs ← dropLowLines? (withoutPadding cs)
  let (negative, body) := splitSign cs
  let word := String.ofList (body.map Char.toLower)
  if word == "inf" || word == "infinity" then return infinity negative
  if word == "nan" then return nan
  let (digits, power) ← readDecimal? body
  return ofDecimal negative digits power

def writeInt? (n : Int) : Option (List Char) :=
  let digits := Nat.toDigits 10 n.natAbs
  if digits.length ≤ maxDigits then some ((if n < 0 then ['-'] else []) ++ digits) else none

end RuleCheck.Number
