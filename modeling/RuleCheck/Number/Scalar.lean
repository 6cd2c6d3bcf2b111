import RuleCheck.Number.Binary

/-!
# Numbers of every size

Whole numbers and doubles of no fixed type mix freely: a whole number beside a double is
converted to it, in comparisons it is compared exactly. Numbers of a fixed size keep their
type: beside a number of no fixed type they prevail, and beside another fixed type the
least type that holds both. Whole numbers of a fixed size wrap around at its ends.
-/

set_option autoImplicit false

namespace RuleCheck.Number

structure WordType where
  isSigned : Bool
  bits : Nat
  deriving DecidableEq, Repr

inductive RealType
  | half
  | single
  | double
  deriving DecidableEq, Repr

namespace WordType

def least (t : WordType) : Int := if t.isSigned then -(twoTo (t.bits - 1)) else 0

def greatest (t : WordType) : Int := (if t.isSigned then twoTo (t.bits - 1) else twoTo t.bits) - 1

def has (t : WordType) (n : Int) : Bool := t.least ≤ n && n ≤ t.greatest

def wrap (t : WordType) (n : Int) : Int := (n - t.least) % twoTo t.bits + t.least

def name (t : WordType) : String :=
  (if t.isSigned then "int" else "uint") ++ toString t.bits

def join? (s t : WordType) : Option WordType :=
  if s.isSigned = t.isSigned then some ⟨s.isSigned, max s.bits t.bits⟩
  else
    let (signed, unsigned) := if s.isSigned then (s, t) else (t, s)
    if unsigned.bits < signed.bits then some signed
    else if unsigned.bits < 64 then some ⟨true, 2 * unsigned.bits⟩
    else none

end WordType

namespace RealType

def format : RealType → BinaryFormat
  | half => .half
  | single => .single
  | double => .double

def bits : RealType → Nat
  | half => 16
  | single => 32
  | double => 64

def name (t : RealType) : String := "float" ++ toString t.bits

def narrow : RealType → Float → Float
  | double, x => x
  | t, x => t.format.narrow x

def join (s t : RealType) : RealType := if s.bits ≤ t.bits then t else s

def holding (t : WordType) : RealType :=
  if t.bits ≤ 8 then half else if t.bits ≤ 16 then single else double

end RealType

inductive Scalar
  | int (n : Int)
  | float (x : Float)
  | word (type : WordType) (n : Int)
  | real (type : RealType) (x : Float)

inductive NumberFault
  | overflow
  | noRemainder
  deriving DecidableEq, Repr

inductive Meeting
  | ints (a b : Int)
  | floats (a b : Float)
  | words (type : WordType) (a b : Int)
  | reals (type : RealType) (a b : Float)

def toFloat (n : Int) : Except NumberFault Float :=
  match ofInt? n with
  | some x => .ok x
  | none => .error .overflow

namespace Scalar

def meet : Scalar → Scalar → Except NumberFault Meeting
  | int a, int b => return .ints a b
  | int a, float y => return .floats (← toFloat a) y
  | float x, int b => return .floats x (← toFloat b)
  | float x, float y => return .floats x y
  | word t a, int b => if t.has b then return .words t a b else throw .overflow
  | int a, word t b => if t.has a then return .words t a b else throw .overflow
  | word _ a, float y => return .reals .double (← toFloat a) y
  | float x, word _ b => return .reals .double x (← toFloat b)
  | word s a, word t b =>
    match s.join? t with
    | some u => return .words u a b
    | none => return .reals .double (← toFloat a) (← toFloat b)
  | real t x, int b => return .reals t x (t.narrow (← toFloat b))
  | int a, real t y => return .reals t (t.narrow (← toFloat a)) y
  | real t x, float y => return .reals t x (t.narrow y)
  | float x, real t y => return .reals t (t.narrow x) y
  | real t x, word s b =>
    let u := t.join (.holding s)
    return .reals u x (u.narrow (← toFloat b))
  | word s a, real t y =>
    let u := t.join (.holding s)
    return .reals u (u.narrow (← toFloat a)) y
  | real s x, real t y => return .reals (s.join t) x y

def combine (whole : Int → Int → Int) (broken : Float → Float → Float) (a b : Scalar) :
    Except NumberFault Scalar := do
  match ← meet a b with
  | .ints a b => return int (whole a b)
  | .floats x y => return float (broken x y)
  | .words t a b => return word t (t.wrap (whole a b))
  | .reals t x y => return real t (t.narrow (broken x y))

def add : Scalar → Scalar → Except NumberFault Scalar := combine (· + ·) (· + ·)

def sub : Scalar → Scalar → Except NumberFault Scalar := combine (· - ·) (· - ·)

def mul : Scalar → Scalar → Except NumberFault Scalar := combine (· * ·) (· * ·)

def div (a b : Scalar) : Except NumberFault Scalar := do
  match ← meet a b with
  | .ints a b =>
    match quotient? a b with
    | some x => return float x
    | none => throw .overflow
  | .floats x y => return float (x / y)
  | .words _ a b => return real .double ((← toFloat a) / (← toFloat b))
  | .reals t x y => return real t (t.narrow (x / y))

def float? : Scalar → Except NumberFault Float
  | int n => toFloat n
  | word _ n => toFloat n
  | float x => return x
  | real _ x => return x

def remainder (a b : Int) : Int :=
  let r : Int := (a.natAbs % b.natAbs : Nat)
  if a < 0 then -r else r

def rem : Scalar → Scalar → Except NumberFault Scalar
  | int a, int b => return int (remainder a b)
  | a, b => do
    match remainder? (← a.float?) (← b.float?) with
    | some x => return float x
    | none => throw .noRemainder

def neg : Scalar → Scalar
  | int n => int (-n)
  | float x => float (-x)
  | word t n => word t (t.wrap (-n))
  | real t x => real t (-x)

def whole? : Scalar → Option Int
  | int n => some n
  | word _ n => some n
  | _ => none

def isZero : Scalar → Bool
  | int n => n == 0
  | word _ n => n == 0
  | float x => rank? x == some (.ofInt 0)
  | real _ x => rank? x == some (.ofInt 0)

def isNaN : Scalar → Bool
  | float x => Number.isNaN x
  | real _ x => Number.isNaN x
  | _ => false

def order? (a b : Option Rank) : Option Ordering :=
  match a, b with
  | some a, some b => some (if a.lt b then .lt else if b.lt a then .gt else .eq)
  | _, _ => none

def compare? (a b : Scalar) : Except NumberFault (Option Ordering) :=
  match a.whole?, b.whole? with
  | some m, some n => return some (compare m n)
  | _, _ =>
    match a, b with
    | int n, float y => return order? (some (.ofInt n)) (rank? y)
    | float x, int n => return order? (rank? x) (some (.ofInt n))
    | a, b => do
      match ← meet a b with
      | .ints m n => return some (compare m n)
      | .words _ m n => return some (compare m n)
      | .floats x y => return order? (rank? x) (rank? y)
      | .reals _ x y => return order? (rank? x) (rank? y)

end Scalar

end RuleCheck.Number
