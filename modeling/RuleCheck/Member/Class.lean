import RuleCheck.Entries
import RuleCheck.Member.Scope

/-!
# Classes of candidates

A class has a table of its annotations and one of what it defines: members that it computes,
functions, constants, the places of a tuple, slots, and anything else. Classes come in four styles:
plain ones, records with or without the right to change them, and tuples with names. A hierarchy
lists the layers of a class in the order of its look-up, from the last one on, and says what the
class is as a record.

An annotation is a text or the thing that it was evaluated to when the class was made. The names
of a text are those of the module of the class and those that the class itself defines.
-/

set_option autoImplicit false

namespace RuleCheck

inductive Style
  | plain
  | record
  | frozenRecord
  | namedTuple
  deriving DecidableEq, Repr

namespace Style

def isRecord : Style → Bool
  | record => true
  | frozenRecord => true
  | _ => false

end Style

/-- A function that computes a member, with its names and those of the function that it wraps. -/
structure Getter where
  annotations : List (String × Hint)
  globals : Scope
  wrapped : Scope

structure Property where
  getter : Option Getter
  value : Value
  hasSetter : Bool

inductive Attribute
  | computed (p : Property)
  | method
  | constant (value : Value)
  | item (place : Nat)
  | slot
  | other (meaning : Meaning)

namespace Attribute

def meaning : Attribute → Meaning
  | computed _ => .hint (.other "property" [])
  | method => .hint (.other "function" [])
  | constant value => .hint (.ofValue value)
  | item _ => .hint (.other "tuplegetter" [])
  | slot => .hint (.other "member" [])
  | other meaning => meaning

end Attribute

structure Layer where
  name : String
  style : Style
  isSlotted : Bool
  globals : Scope
  annotations : List (String × Hint)
  attributes : List (String × Attribute)
  nodup_annotations : (entryNames annotations).Nodup := by decide
  nodup_attributes : (entryNames attributes).Nodup := by decide

/-- What a class is as a record: its fields with the types that they are held with, and the names
that the frozen records among its layers keep from being changed. -/
structure Fields where
  types : List (String × Hint)
  guarded : List String
  nodup_types : (entryNames types).Nodup := by decide

structure Hierarchy where
  resolver : Resolver
  layers : List Layer
  fields : Fields

namespace Layer

def last? {α : Type} (p : α → Bool) (xs : List α) : Option α := xs.reverse.find? p

def attribute? (layer : Layer) (name : String) : Option Attribute := layer.attributes.lookup name

def property? (layer : Layer) (name : String) : Option Property :=
  match layer.attribute? name with
  | some (.computed p) => some p
  | _ => none

def computed (layer : Layer) : List (String × Property) :=
  layer.attributes.filterMap fun entry =>
    match entry.2 with
    | .computed p => some (entry.1, p)
    | _ => none

def own (layer : Layer) : Scope := layer.attributes.map fun entry => (entry.1, entry.2.meaning)

end Layer

namespace Hierarchy

def name (h : Hierarchy) : String := (h.layers.getLast?.map (·.name)).getD ""

def attribute? (h : Hierarchy) (name : String) : Option Attribute :=
  h.layers.reverse.findSome? fun layer => layer.attribute? name

def isNamedTuple (h : Hierarchy) : Bool := h.layers.any fun layer => layer.style == .namedTuple

def isFrozen (h : Hierarchy) : Bool :=
  match Layer.last? (·.style.isRecord) h.layers with
  | some layer => layer.style == .frozenRecord
  | none => false

end Hierarchy

end RuleCheck
