import RuleCheck.Value
import RuleCheck.Number.Numeral
import RuleCheck.Number.Shortest
import RuleCheck.Text.Quoted

/-!
# Written values

A value has two texts: the one that shows it in messages, where texts are quoted and fixed
sizes named, and the plain one that it has in a column of texts. An integer of too many
digits has neither.
-/

set_option autoImplicit false

namespace RuleCheck.Value

open Number Text

def truthText : Bool → List Char
  | true => ['T', 'r', 'u', 'e']
  | false => ['F', 'a', 'l', 's', 'e']

def padded (width n : Nat) : List Char :=
  let digits := Nat.toDigits 10 n
  List.replicate (width - digits.length) '0' ++ digits

def sizedText (name : String) (body : List Char) : List Char :=
  "np.".toList ++ name.toList ++ '(' :: body ++ [')']

def commaSeparated : List (List Char) → List Char
  | [] => []
  | [x] => x
  | x :: xs => x ++ ',' :: ' ' :: commaSeparated xs

mutual

def shown? : Value → Option (List Char)
  | null => some "None".toList
  | absent => some "<NA>".toList
  | bool b => some (truthText b)
  | int n => writeInt? n
  | float x => some (writeFloat x)
  | text s => some (quotedChars s.toList)
  | flag b => some ("np.".toList ++ truthText b)
  | word t n => (writeInt? n).map (sizedText t.name)
  | real t x => some (sizedText t.name (t.format.write x))
  | fixedText s => some (sizedText "str_" (quotedChars s.toList))
  | derivedInt _ n => writeInt? n
  | derivedText _ s => some (quotedChars s.toList)
  | enumerated name case n =>
    (writeInt? n).map fun digits =>
      '<' :: name.toList ++ '.' :: case.toList ++ ':' :: ' ' :: digits ++ ['>']
  | date year month day =>
    some ("datetime.date(".toList ++
      commaSeparated ([year, month, day].map (Nat.toDigits 10)) ++ [')'])
  | list items => (shownEach? items).map fun parts => '[' :: commaSeparated parts ++ [']']
  | action => some "<built-in function len>".toList

def shownEach? : List Value → Option (List (List Char))
  | [] => some []
  | v :: vs => do return (← shown? v) :: (← shownEach? vs)

end

def plain? : Value → Option (List Char)
  | text s => some s.toList
  | fixedText s => some s.toList
  | derivedText _ s => some s.toList
  | flag b => some (truthText b)
  | word _ n => writeInt? n
  | real t x => some (t.format.write x)
  | enumerated _ _ n => writeInt? n
  | date year month day =>
    some (padded 4 year ++ '-' :: padded 2 month ++ '-' :: padded 2 day)
  | v => shown? v

end RuleCheck.Value
