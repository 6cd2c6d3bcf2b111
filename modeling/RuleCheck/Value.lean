import RuleCheck.Number.Scalar

/-!
# Values

What members hold and expressions compute: nothing, truth values, numbers and texts, each
also in a fixed size or as a value of a class of its own. Dates, lists and functions are
values too, but no operator takes them for a number, a text or a truth value. Every value
belongs to one class and, by what it is, to one kind.
-/

set_option autoImplicit false

namespace RuleCheck

open Number

inductive Kind
  | unknown
  | bool
  | int
  | float
  | string
  | missing
  deriving DecidableEq, Repr

namespace Kind

def all : List Kind := [unknown, bool, int, float, string, missing]

def name : Kind → String
  | unknown => "UNKNOWN"
  | bool => "BOOL"
  | int => "INT"
  | float => "FLOAT"
  | string => "STRING"
  | missing => "MISSING"

def code : Kind → Nat
  | unknown => 0
  | bool => 1
  | int => 2
  | float => 3
  | string => 4
  | missing => 5

def isNumeric : Kind → Bool
  | int => true
  | float => true
  | _ => false

end Kind

inductive Class
  | bool
  | int
  | float
  | text
  | flag
  | word (type : WordType)
  | real (type : RealType)
  | fixedText
  | derived (name : String) (kind : Kind)
  | enumeration (name : String) (kind : Kind)
  | foreign (home name : String)
  | anything
  deriving DecidableEq, Repr

namespace Class

def name : Class → String
  | bool => "bool"
  | int => "int"
  | float => "float"
  | text => "str"
  | flag => "bool"
  | word t => t.name
  | real t => t.name
  | fixedText => "str_"
  | derived name _ => name
  | enumeration name _ => name
  | foreign _ name => name
  | anything => "Any"

def kind : Class → Kind
  | bool => .bool
  | int => .int
  | float => .float
  | text => .string
  | flag => .bool
  | word _ => .int
  | real _ => .float
  | fixedText => .string
  | derived _ kind => kind
  | enumeration _ kind => kind
  | foreign _ _ => .unknown
  | anything => .unknown

def isEnumeration : Class → Bool
  | enumeration _ _ => true
  | _ => false

def home : Class → String
  | flag => "numpy"
  | word _ => "numpy"
  | real _ => "numpy"
  | fixedText => "numpy"
  | foreign home _ => home
  | _ => ""

def shown : Class → String
  | anything => "typing.Any"
  | c =>
    let path := if c.home.isEmpty then c.name else c.home ++ "." ++ c.name
    "<class '" ++ path ++ "'>"

def none : Class := foreign "" "NoneType"

def absent : Class := foreign "" "NAType"

def list : Class := foreign "" "list"

def date : Class := foreign "datetime" "date"

def action : Class := foreign "" "builtin_function_or_method"

end Class

inductive Value
  | null
  | absent
  | bool (b : Bool)
  | int (n : Int)
  | float (x : Float)
  | text (s : String)
  | flag (b : Bool)
  | word (type : WordType) (n : Int)
  | real (type : RealType) (x : Float)
  | fixedText (s : String)
  | derivedInt (name : String) (n : Int)
  | derivedText (name : String) (s : String)
  | enumerated (name case : String) (n : Int)
  | date (year month day : Nat)
  | list (items : List Value)
  | action

namespace Value

def classOf : Value → Class
  | null => .none
  | absent => .absent
  | bool _ => .bool
  | int _ => .int
  | float _ => .float
  | text _ => .text
  | flag _ => .flag
  | word t _ => .word t
  | real t _ => .real t
  | fixedText _ => .fixedText
  | derivedInt name _ => .derived name .int
  | derivedText name _ => .derived name .string
  | enumerated name _ _ => .enumeration name .int
  | date _ _ _ => .date
  | list _ => .list
  | action => .action

def truth? : Value → Option Bool
  | bool b => some b
  | flag b => some b
  | _ => none

def number? : Value → Option Scalar
  | int n => some (.int n)
  | float x => some (.float x)
  | word t n => some (.word t n)
  | real t x => some (.real t x)
  | derivedInt _ n => some (.int n)
  | enumerated _ _ n => some (.int n)
  | _ => none

def text? : Value → Option String
  | text s => some s
  | fixedText s => some s
  | derivedText _ s => some s
  | _ => none

def kind : Value → Kind
  | null => .missing
  | absent => .missing
  | float x => if isNaN x then .missing else .float
  | real _ x => if isNaN x then .missing else .float
  | v => v.classOf.kind

def isNull (v : Value) : Bool := v.kind == .missing

def ofScalar : Scalar → Value
  | .int n => int n
  | .float x => float x
  | .word t n => word t n
  | .real t x => real t x

end Value

end RuleCheck
