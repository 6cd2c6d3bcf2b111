import RuleCheck.Column
import RuleCheck.Entries
import RuleCheck.Member.Hint
import RuleCheck.Text.Case

/-!
# Rows

The members that an expression is evaluated with form one row of typed columns, beside them
a cell for the result. An identifier is the column of just that name, or else the only
column whose name differs from it in case alone. A member that the expression does not use
cannot spoil the row: if its value does not fit its declared type, the column takes the type
of the value or is left out.
-/

set_option autoImplicit false

namespace RuleCheck

open Text

def resultName : String := "_is_valid"

structure Binding where
  name : String
  declared : Hint
  value : Value

namespace Binding

def kind (b : Binding) : Kind := b.declared.kind

def typeName (b : Binding) : String :=
  match b.declared.class? with
  | some c => c.name
  | none => b.declared.shown

def misfit (b : Binding) : Failure :=
  match b.value.shown? with
  | some text => .unfit (.memberValue b.name (String.ofList text) b.typeName)
  | none => .longInteger

def column (b : Binding) : Except Failure Column :=
  match Column.fit? b.kind b.value with
  | none => .error (.unfit (.memberType b.name b.declared.shown))
  | some (.fits column) => .ok column
  | some .misfit => .error b.misfit
  | some .nested => .error .nestedValue

def retyped (b : Binding) : Binding := { b with declared := .single b.value.classOf }

def firstFit : List Binding → Except Failure (Option Column)
  | [] => .ok none
  | b :: bs =>
    if b.kind = .unknown then firstFit bs
    else
      match b.column with
      | .ok column => .ok (some column)
      | .error (.fault _) => firstFit bs
      | .error failure => .error failure

def looseColumn (b : Binding) : Except Failure (Option Column) := firstFit [b, b.retyped]

end Binding

structure Row where
  columns : List (String × Column)
  result : Option Truth
  keepCase : Bool

namespace Row

def isUsed (used : Option (List String)) (name : String) : Bool :=
  match used with
  | none => true
  | some names => names.any fun n => fold n == fold name

def addBinding (used : Option (List String)) (columns : List (String × Column)) (b : Binding) :
    Except Failure (List (String × Column)) :=
  if b.name = resultName then .ok columns
  else if isUsed used b.name then do return assign b.name (← b.column) columns
  else do
    match ← b.looseColumn with
    | some column => return assign b.name column columns
    | none => return columns

def ofBindings (bindings : List Binding) (keepCase : Bool) (used : Option (List String)) :
    Except Failure Row := do
  return ⟨← bindings.foldlM (addBinding used) [], none, keepCase⟩

def names (r : Row) : List String := entryNames r.columns

def resolve (r : Row) (name : String) : Except Failure String :=
  if name ∈ r.names ∧ name ≠ resultName then .ok name
  else
    match r.names.filter fun n => fold n == fold name with
    | [found] => .ok found
    | [] => .error (.ofCause (.unknownName name r.names))
    | several => .error (.ofCause (.ambiguousName name several))

def get (r : Row) (name : String) : Except Failure Value := do
  let found ← r.resolve name
  match r.columns.lookup found with
  | some column => return column.value
  | none => throw (.ofCause (.unknownName name r.names))

def store (r : Row) (v : Value) : Except Failure Row := do
  return { r with result := some (← Column.result v) }

def verdict (r : Row) : Except Failure Bool :=
  match r.result with
  | some truth => .ok (truth.getD false)
  | none => .error .noResult

def cells (r : Row) : List (String × Column) :=
  r.columns ++ (r.result.map fun truth => (resultName, Column.bool truth)).toList

def cellValue (column : Column) : Value :=
  match column.value with
  | .absent => .null
  | v => v

def entries (r : Row) : List (String × Value) :=
  r.cells.map fun (name, column) => (name, cellValue column)

def entryText? (entry : String × Value) : Option (List Char) :=
  entry.2.shown?.map fun text => quotedChars entry.1.toList ++ ':' :: ' ' :: text

def shown? (r : Row) : Option (List Char) :=
  (r.entries.mapM entryText?).map fun parts =>
    "EvaluationContext(\x7b".toList ++ Value.commaSeparated parts ++ ['}', ')']

def ofTable (rows : Nat) : Except Failure Row :=
  if rows = 1 then .ok ⟨[], none, false⟩ else .error (.rowCount rows)

end Row

end RuleCheck
