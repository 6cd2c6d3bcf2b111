import RuleCheck.Member.Descriptor

/-!
# Candidates

What a rule is checked against: a mapping from names to values, or an object of a class. A
mapping has a member for each public name, of the type of its value. An object has the
members of its class and beside them its own public attributes that hold no function. Values
are read anew each time: a computed member, a place of a tuple and a slot come before an attribute
of their name, an attribute before the constant of the class, and what was never set is nothing.
-/

set_option autoImplicit false

namespace RuleCheck

/-- A mapping, or an object with its own attributes, what is stored for its computed members and in
its slots, and the items that it has as a tuple. -/
inductive Candidate
  | mapping (title : String) (entries : List (String × Value))
  | object (hierarchy : Hierarchy) (attributes stored : List (String × Value)) (items : List Value)

def describeValue (name : String) (v : Value) : Descriptor :=
  match v with
  | .null => ⟨name, .single .text, false, true⟩
  | v => ⟨name, .single v.classOf, false, false⟩

def Value.isFunction : Value → Bool
  | .action => true
  | _ => false

namespace Candidate

def ofPairs (title : String) (pairs : List (Value × Value)) : Candidate :=
  mapping title (pairs.foldl (fun entries (key, v) =>
    match key.text? with
    | some name => assign name v entries
    | none => entries) [])

def ofClass (h : Hierarchy) (attributes stored : List (String × Value)) (items : List Value) :
    Candidate := object h (tabled attributes) stored items

def typeName : Candidate → String
  | mapping title _ => title
  | object h _ _ _ => h.name

def members : Candidate → Except Failure (List Descriptor)
  | mapping _ entries =>
    .ok ((entries.filter fun entry => isPublic entry.1).map fun (name, v) => describeValue name v)
  | object h attributes _ _ => do
    let declared ← h.members
    let known := declared.map (·.name)
    let own := attributes.filter fun (name, v) =>
      isPublic name && !known.contains name && !v.isFunction
    return declared ++ own.map fun (name, v) => describeValue name v

def read (candidate : Candidate) (name : String) : Value :=
  match candidate with
  | mapping _ entries => (entries.lookup name).getD .null
  | object h attributes stored items =>
    match h.attribute? name, attributes.lookup name with
    | some (.computed p), _ => if p.getter.isSome then (stored.lookup name).getD p.value else .null
    | some (.item place), _ => items.getD place .null
    | some .slot, _ => (stored.lookup name).getD .null
    | _, some v => v
    | some (.constant v), none => v
    | some _, none => .action
    | none, none => .null

def bind (candidate : Candidate) (d : Descriptor) : Binding :=
  ⟨d.name, d.declared, candidate.read d.name⟩

def bindings (candidate : Candidate) (given : Option (List Descriptor)) :
    Except Failure (List Binding) := do
  let members ← match given with
    | some members => pure members
    | none => candidate.members
  return (members.filter Descriptor.isEligible).map candidate.bind

def isProtected (h : Hierarchy) (name : String) : Bool :=
  h.layers.getLast?.any (·.style == .frozenRecord) || h.fields.guarded.contains name

def isFixed (h : Hierarchy) : Bool := h.layers.all fun layer => layer.isNamedTuple || layer.isSlotted

def set (candidate : Candidate) (name : String) (v : Value) : Except Failure Candidate :=
  match candidate with
  | mapping title entries => .ok (mapping title (assign name v entries))
  | object h attributes stored items =>
    if isProtected h name then .error .frozen
    else
      match h.attribute? name with
      | some (.item _) => .error .settled
      | some .slot => .ok (object h attributes (assign name v stored) items)
      | some (.computed p) =>
        if p.hasSetter then .ok (object h attributes (assign name v stored) items)
        else .error .settled
      | _ =>
        if isFixed h then .error .settled else .ok (object h (assign name v attributes) stored items)

def setKey (candidate : Candidate) (key v : Value) : Except Failure Candidate :=
  match key.text? with
  | some name => candidate.set name v
  | none => .ok candidate

def delete (candidate : Candidate) (name : String) : Except Failure Candidate :=
  match candidate with
  | mapping title entries =>
    if (entries.lookup name).isSome then .ok (mapping title (withdraw name entries))
    else .error .absentKey
  | object h attributes stored items =>
    if isProtected h name then .error .frozen
    else
      match h.attribute? name with
      | some (.item _) => .error .settled
      | some (.computed _) => .error .settled
      | some .slot =>
        if (stored.lookup name).isSome then .ok (object h attributes (withdraw name stored) items)
        else .error .settled
      | _ =>
        if (attributes.lookup name).isSome then
          .ok (object h (withdraw name attributes) stored items)
        else .error .settled

end Candidate

end RuleCheck
