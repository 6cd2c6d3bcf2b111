import RuleCheck.Failure
import RuleCheck.Operator
import RuleCheck.Number.Numeral
import RuleCheck.Value.Written

/-!
# Columns

A row holds each member in a typed cell, where nothing is kept as nothing. Truth values
take the numbers zero and one, integers of 64 bits take texts and floating point numbers
that are integers, floating point numbers take texts and all numbers, and texts take
everything in its written form. A text of a class of its own stays what it is.
-/

set_option autoImplicit false

namespace RuleCheck

open Number Text

inductive Column
  | bool (cell : Option Bool)
  | int (cell : Option Int)
  | float (cell : Option Float)
  | text (cell : Option String)
  | derivedText (className content : String)

namespace Column

def typeName : Column → String
  | bool _ => "boolean"
  | int _ => "Int64"
  | float _ => "Float64"
  | text _ => "string"
  | derivedText _ _ => "string"

def value : Column → Value
  | bool (some b) => .bool b
  | int (some n) => .int n
  | float (some x) => .float x
  | text (some s) => .text s
  | derivedText className content => .derivedText className content
  | _ => .absent

inductive Fit
  | fits (column : Column)
  | misfit
  | nested

def empty? : Kind → Option Column
  | .bool => some (bool none)
  | .int => some (int none)
  | .float => some (float none)
  | .string => some (text none)
  | _ => none

def ofOption : Option Column → Fit
  | some column => .fits column
  | none => .misfit

def isTruth : Value → Bool
  | .bool _ => true
  | .flag _ => true
  | _ => false

def isPlainNumber (v : Value) : Bool := v.number?.isSome

def isTable (items : List Value) : Bool :=
  let known := items.filter fun v => !v.isNull
  known.all isTruth || known.all isPlainNumber

def truthOfInt (n : Int) : Option Column :=
  if n = 0 then some (bool (some false))
  else if n = 1 then some (bool (some true))
  else none

def fitBool : Value → Fit
  | .bool b => .fits (bool (some b))
  | .flag b => .fits (bool (some b))
  | .int n => ofOption (truthOfInt n)
  | .derivedInt _ n => ofOption (truthOfInt n)
  | .enumerated _ _ n => ofOption (truthOfInt n)
  | .float x => ofOption ((toInt? x).bind truthOfInt)
  | .list items => if isTable items then .nested else .misfit
  | _ => .misfit

def word64 : WordType := ⟨true, 64⟩

def intIfFits (n : Int) : Option Column :=
  if word64.has n then some (int (some n)) else none

def withoutNul (text : String) : List Char :=
  (text.toList.reverse.dropWhile (· == Char.ofNat 0)).reverse

def fitInt : Value → Option Column
  | .bool b => some (int (some b.toNat))
  | .flag b => some (int (some b.toNat))
  | .int n => intIfFits n
  | .derivedInt _ n => intIfFits n
  | .enumerated _ _ n => intIfFits n
  | .word _ n => intIfFits n
  | .float x => (toInt? x).bind intIfFits
  | .real _ x => (toInt? x).bind intIfFits
  | .text s => (readInt? (withoutNul s)).bind intIfFits
  | .fixedText s => (readInt? (withoutNul s)).bind intIfFits
  | .derivedText _ s => (readInt? (withoutNul s)).bind intIfFits
  | _ => none

def floatOfInt (n : Int) : Option Column := (ofInt? n).map fun x => float (some x)

def floatOfText (text : String) : Option Column :=
  (readFloat? (withoutNul text)).map fun x => float (some x)

def fitFloat : Value → Option Column
  | .bool b => floatOfInt b.toNat
  | .flag b => floatOfInt b.toNat
  | .int n => floatOfInt n
  | .derivedInt _ n => floatOfInt n
  | .enumerated _ _ n => floatOfInt n
  | .word _ n => floatOfInt n
  | .float x => some (float (some x))
  | .real _ x => some (float (some x))
  | .text s => floatOfText s
  | .fixedText s => floatOfText s
  | .derivedText _ s => floatOfText s
  | _ => none

def fitText : Value → Option Column
  | .derivedText className content => some (derivedText className content)
  | v => v.plain?.map fun cs => text (some (String.ofList cs))

def fit? (kind : Kind) (v : Value) : Option Fit :=
  (empty? kind).map fun empty =>
    if v.isNull then .fits empty
    else
      match kind with
      | .bool => fitBool v
      | .int => ofOption (fitInt v)
      | .float => ofOption (fitFloat v)
      | _ => ofOption (fitText v)

def result (v : Value) : Except Failure Truth :=
  match v with
  | .int n => match ofInt? n, truthOfInt n with
    | none, _ => .error (.number .overflow)
    | _, some (bool cell) => .ok cell
    | _, _ => .error .notTruth
  | v =>
    match fit? .bool v with
    | some (.fits (bool cell)) => .ok cell
    | some .nested => .error .nestedValue
    | _ => .error .notTruth

end Column

end RuleCheck
