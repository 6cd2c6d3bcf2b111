import RuleCheck.Failure
import RuleCheck.Member.Class

/-!
# Declared types of a class

The types that a class declares for its members, from its base on. At first all are resolved
at once, the names that quoted parts refer to included, where the names of the module come before
those of the class. If one of them cannot be resolved, they are taken one by one instead, and the
names of the class come first: what cannot be evaluated is dropped, a redeclared member moves to
its new place, and quoted parts are left alone. The types of a function are told in the same way.
-/

set_option autoImplicit false

namespace RuleCheck

namespace Hint

def asReference : Hint → Hint
  | unread text => forward text
  | hint => hint

def resolve (r : Resolver) (names : Names) : (depth : Nat) → (seen : List String) →
    (isWhole : Bool) → Hint → Except AnnotationFault Hint
  | 0, _, _, _ => .error .other
  | depth + 1, seen, isWhole, h =>
    match h with
    | forward text =>
      if seen.contains text then .ok (forward text)
      else do
        let found ← r.refer names text
        match if isWhole then found.asWhole? else found.asArgument? with
        | some found => resolve r names depth (text :: seen) isWhole found
        | none => throw .unresolved
    | choice barred parts => do
      let resolved ← parts.mapM (resolve r names depth seen false)
      if beqEach resolved parts then return choice barred parts
      match resolved.mapM asArgument? with
      | some parts => return ofParts barred parts
      | none => throw .unresolved
    | final (some h) => do return final (some (← resolve r names depth seen false h))
    | shared (some h) => do return shared (some (← resolve r names depth seen false h))
    | annotated h => resolve r names depth seen true h
    | generic base arguments => do
      return generic base (← (arguments.map asReference).mapM (resolve r names depth seen false))
    | other title parts => do return other title (← parts.mapM (resolve r names depth seen false))
    | h => return h

def isText : Hint → Bool
  | unread _ => true
  | _ => false

end Hint

/-- Annotations that stand together, of a class or of a function, with the names that they look up
where all types are resolved at once and where they are taken one by one. -/
structure Notes where
  joint : Names
  alone : Names
  ofClass : Bool
  entries : List (String × Hint)

namespace Notes

open Hint

def resolvedIn (notes : Notes) (r : Resolver) (names : Names) (held : Hint) :
    Except AnnotationFault Hint :=
  held.asType.resolve r names r.depth [] (notes.ofClass && held.isText)

def alone? (notes : Notes) (r : Resolver) : Hint → Except AnnotationFault (Option Hint)
  | nothing => .ok none
  | unread text =>
    match r.evaluate notes.alone text with
    | .ok nothing => .ok none
    | .ok h => .ok (some h)
    | .error .other => .error .other
    | .error _ => .ok none
  | h => .ok (some h)

abbrev Hints := List (String × Hint)

def declarations (sections : List Notes) : List (Notes × String × Hint) :=
  sections.flatMap fun notes => notes.entries.map fun entry => (notes, entry)

def jointHints (r : Resolver) (sections : List Notes) : Except AnnotationFault Hints :=
  (declarations sections).foldlM (fun hints (notes, name, held) => do
    return assign name (← notes.resolvedIn r notes.joint held) hints) []

def separateHints (r : Resolver) (sections : List Notes) : Except AnnotationFault Hints :=
  (declarations sections).foldlM (fun hints (notes, name, held) => do
    match ← notes.alone? r held with
    | some hint => return assign name hint (withdraw name hints)
    | none => return withdraw name hints) []

def hints (r : Resolver) (sections : List Notes) : Except AnnotationFault Hints :=
  match jointHints r sections with
  | .error .unresolved => separateHints r sections
  | found => found

end Notes

namespace Layer

def isNamedTuple (layer : Layer) : Bool := layer.style == .namedTuple

def held (layer : Layer) : List (String × Hint) :=
  if layer.isNamedTuple then layer.annotations.map fun entry => (entry.1, entry.2.asType)
  else layer.annotations

def notes (layer : Layer) : Notes :=
  ⟨⟨layer.globals, layer.own⟩, ⟨layer.own, layer.globals⟩, true, layer.held⟩

end Layer

namespace Getter

def notes (g : Getter) : Notes :=
  ⟨⟨g.wrapped, g.wrapped⟩, ⟨g.globals, g.globals⟩, false, g.annotations⟩

def hint (g : Getter) (r : Resolver) : Except AnnotationFault Hint := do
  return ((← Notes.hints r [g.notes]).lookup "return").getD (.single .anything)

end Getter

namespace Hierarchy

open Notes (Hints)

def failureOf : AnnotationFault → Failure
  | .unreadable => .unreadableType
  | _ => .brokenType

def sections (h : Hierarchy) : List Notes := h.layers.map Layer.notes

def hints (h : Hierarchy) : Except Failure Hints :=
  (Notes.hints h.resolver h.sections).mapError failureOf

def propertyHint (h : Hierarchy) (p : Property) : Except Failure Hint :=
  match p.getter with
  | some g => (g.hint h.resolver).mapError failureOf
  | none => .ok (.single .anything)

end Hierarchy

end RuleCheck
