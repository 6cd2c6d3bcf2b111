import RuleCheck.Member.Declared
import RuleCheck.Row

/-!
# Members of a class

What is known of the public members of a class: their types without the choice of nothing,
and whether they can be changed. The fields of a record come first, then all other declared
members, then computed ones, where a computed member takes the place of a declared one of
its name. A rule may use a member that can be changed and holds truth values, numbers or
texts, but no case of an enumeration.
-/

set_option autoImplicit false

namespace RuleCheck

open Text Notes

structure Descriptor where
  name : String
  declared : Hint
  readOnly : Bool
  nullable : Bool

namespace Descriptor

def kind (d : Descriptor) : Kind := d.declared.kind

def isEnumeration (d : Descriptor) : Bool :=
  match d.declared.class? with
  | some c => c.isEnumeration
  | none => false

def isEligible (d : Descriptor) : Bool :=
  !d.readOnly && !d.isEnumeration && d.kind != .unknown

end Descriptor

def isPublic (name : String) : Bool :=
  match name.toList with
  | [] => false
  | c :: _ => c != '_'

namespace Hierarchy

abbrev Members := List (String × Descriptor)

def declaredMember? (name : String) (hint : Hint) (readOnly : Bool) : Option Descriptor :=
  match hint with
  | .shared (some _) => none
  | .final inner =>
    let (declared, nullable) := (inner.getD (.single .anything)).unwrap
    some ⟨name, declared, true, nullable⟩
  | hint =>
    let (declared, nullable) := hint.unwrap
    some ⟨name, declared, readOnly, nullable⟩

def addDeclared (readOnly : Bool) (members : Members) (entry : String × Hint) : Members :=
  if (members.lookup entry.1).isSome || !isPublic entry.1 then members
  else
    match declaredMember? entry.1 entry.2 readOnly with
    | some d => assign entry.1 d members
    | none => members

def recordHints (h : Hierarchy) (hints : Hints) : Hints :=
  h.fields.types.map fun (name, held) => (name, (hints.lookup name).getD held)

def propertiesOf (h : Hierarchy) : List (String × Property) :=
  h.layers.flatMap fun layer => layer.computed.filter fun entry => isPublic entry.1

def addComputed (h : Hierarchy) (members : Members) (entry : String × Property) :
    Except Failure Members := do
  let (declared, nullable) := (← h.propertyHint entry.2).unwrap
  return assign entry.1 ⟨entry.1, declared, !entry.2.hasSetter, nullable⟩ members

def members (h : Hierarchy) : Except Failure (List Descriptor) := do
  let hints ← h.hints
  let fields := (h.recordHints hints).foldl (addDeclared h.isFrozen) []
  let declared := hints.foldl (addDeclared h.isNamedTuple) fields
  let all ← h.propertiesOf.foldlM h.addComputed declared
  return all.map Prod.snd

end Hierarchy

end RuleCheck
