import RuleCheck.Data.Node
import RuleCheck.Data.Scalar
import RuleCheck.Member.Candidate
import RuleCheck.Text.Ranges

/-!
# Data files

A data file holds a mapping from the names of members to their values. How its content is read is
left open; here files of common forms are read, texts in which only printable characters, tabs and
breaks may stand, and another reader is asked for the rest. Keys that are no texts name no member. A
member that holds a sequence, a mapping or a time of a day is left out, since no rule can use it.
-/

set_option autoImplicit false

namespace RuleCheck.Data

open Text

inductive Datum
  | value (v : Value)
  | other (typeName : String)
  | mapping (entries : List (Option String × Datum))

abbrev Reader := ByteArray → Except Defect Datum

abbrev Build (α : Type) := Except (Nat × Defect) α

def Build.both {α β : Type} (x : Build α) (y : Build β) : Build (α × β) :=
  match x, y with
  | .ok a, .ok b => .ok (a, b)
  | .error (m, d), .error (n, e) => .error (if n < m then (n, e) else (m, d))
  | .error d, .ok _ => .error d
  | .ok _, .error e => .error e

namespace Datum

def value? : Datum → Option Value
  | value v => some v
  | _ => none

def typeName : Datum → String
  | value v => v.classOf.name
  | other name => name
  | mapping _ => "dict"

def ofScalar : Scalar → Except Defect Datum
  | .value v => .ok (value v)
  | .time => .ok (other "datetime")
  | .merging => .error .malformed
  | .default => .error .malformed

def nameOf : Node → Except Defect (Option String)
  | .quoted text => .ok (some text)
  | .plain text => do
    match ← Scalar.read text with
    | .value v => return v.text?
    | .time => return none
    | .default => return some text
    | .merging => throw .malformed
  | .sequence _ => .error .malformed
  | .mapping _ => .error .malformed

mutual

def ofNode (level : Nat) : Node → Build Datum
  | .quoted text => .ok (value (.text text))
  | .plain text => (Scalar.read text >>= ofScalar).mapError (level, ·)
  | .sequence items => (ofItems (level + 1) items).map fun _ => other "list"
  | .mapping entries => (ofEntries (level + 1) entries).map mapping

def ofItems (level : Nat) : List Node → Build (List Datum)
  | [] => .ok []
  | item :: items =>
    ((ofNode level item).both (ofItems level items)).map fun (datum, data) => datum :: data

def ofEntries (level : Nat) : List (Node × Node) → Build (List (Option String × Datum))
  | [] => .ok []
  | (key, node) :: entries =>
    let entry := Build.both ((nameOf key).mapError (level, ·)) (ofNode level node)
    (entry.both (ofEntries level entries)).map fun (entry, entries) => entry :: entries

end

def members (entries : List (Option String × Datum)) : List (String × Value) :=
  let last := entries.foldl (fun found (name, datum) =>
    match name with
    | some name => assign name datum found
    | none => found) []
  last.filterMap fun (name, datum) => datum.value?.map (name, ·)

end Datum

def allowedRanges : Ranges :=
  [(0x9, 0xA), (0xD, 0xD), (0x20, 0x7E), (0x85, 0x85), (0xA0, 0xD7FF), (0xE000, 0xFFFD),
    (0x10000, 0x10FFFF)]

def isAllowed (c : Char) : Bool := allowedRanges.has c.toNat

def unified : List Char → List Char
  | '\r' :: '\n' :: cs => '\n' :: unified cs
  | c :: cs => (if c == '\r' || c == '\u0085' then '\n' else c) :: unified cs
  | [] => []

def unmarked : List Char → List Char
  | '\uFEFF' :: cs => cs
  | cs => cs

mutual

def merges : Node → Bool
  | .quoted _ => false
  | .plain _ => false
  | .sequence items => mergesAny items
  | .mapping entries => mergesEntry entries

def mergesAny : List Node → Bool
  | [] => false
  | item :: items => merges item || mergesAny items

def mergesEntry : List (Node × Node) → Bool
  | [] => false
  | (key, node) :: entries =>
    (match key with
      | .plain "<<" => true
      | _ => false) || merges node || mergesEntry entries

end

def read (beyond : Reader) : Reader := fun bytes =>
  match String.fromUTF8? bytes with
  | none => .error .unreadable
  | some text =>
    let cs := unmarked (unified text.toList)
    if cs.all isAllowed then
      match Node.ofText? cs with
      | some node => if merges node then beyond bytes else (Datum.ofNode 0 node).mapError (·.2)
      | none => beyond bytes
    else .error .malformed

def failureOf (path : String) : Defect → Failure
  | .unreadable => .dataFile path .unreadable
  | .malformed => .dataFile path .unparsable
  | .numeral => .numeral
  | .moment => .moment
  | .other => .brokenData

inductive File
  | missing
  | barred
  | closed
  | content (bytes : ByteArray)

def recordName : String := "Record"

def load (reader : Reader) (path : String) : File → Except Failure Candidate
  | .missing => .error (.dataFile path .missing)
  | .barred => .error .barredPath
  | .closed => .error (.dataFile path .unreadable)
  | .content bytes =>
    match reader bytes with
    | .error defect => .error (failureOf path defect)
    | .ok (.mapping entries) => .ok (.mapping recordName (Datum.members entries))
    | .ok datum => .error (.dataFile path (.shape datum.typeName))

end RuleCheck.Data
