import RuleCheck.Member.Declared
import RuleCheck.Token.Scan

/-!
# Chains of classes

In a chain every class builds on the one before it. What such a class is as a record follows from its
layers. A record has its annotations as fields, and under other names those of the record before it.
An annotation may also mark something that all objects share, or that is only handed over when an
object is made: this is no field, but hides the one of its name. A frozen record guards its fields.
-/

set_option autoImplicit false

namespace RuleCheck

open Text

namespace Chain

structure RecordField where
  held : Hint
  isPseudo : Bool

def isPseudo : Meaning → Bool
  | .hint (.shared _) => true
  | .hint (.other title _) => title == "dataclasses.InitVar" || title == "dataclasses.KW_ONLY"
  | _ => false

def namesPseudo (globals : Scope) (text : String) : Bool :=
  let (first, rest) := front Lexeme.isWordPart (trimLeft text.toList)
  let word := globals.lookup (String.ofList first)
  match trimLeft rest with
  | '.' :: rest =>
    let (second, _) := front Lexeme.isWordPart (trimLeft rest)
    if second.isEmpty then word.any isPseudo
    else
      match word with
      | some (.family title members) =>
        (title == "typing" || title == "dataclasses") &&
          (members.lookup (String.ofList second)).any isPseudo
      | _ => false
  | _ => word.any isPseudo

def isPseudoField (globals : Scope) (held : Hint) : Bool :=
  match held with
  | .unread text => namesPseudo globals text
  | held => isPseudo (.hint held)

def recordField (layer : Layer) (held : Hint) : RecordField :=
  ⟨held, isPseudoField layer.globals held⟩

def recordEntries (layer : Layer) : List (String × Hint) :=
  if layer.style.isRecord then layer.held else []

def addFields (fields : List (String × RecordField)) (layer : Layer) :
    List (String × RecordField) :=
  (recordEntries layer).foldl (fun fields entry =>
    assign entry.1 (recordField layer entry.2) fields) fields

def recordFields (layers : List Layer) : List (String × RecordField) := layers.foldl addFields []

def types (layers : List Layer) : List (String × Hint) :=
  ((recordFields layers).filter fun entry => !entry.2.isPseudo).map fun (name, f) => (name, f.held)

def frozenParts (layers : List Layer) : List (List Layer) :=
  ((List.range layers.length).map fun n => layers.take (n + 1)).filter fun part =>
    (part.getLast?.map (·.style)) == some .frozenRecord

def guarded (layers : List Layer) : List String :=
  (frozenParts layers).flatMap fun part => entryNames (types part)

theorem nodup_recordFields (layers : List Layer) : (entryNames (recordFields layers)).Nodup := by
  refine List.foldlRecOn (motive := fun fields : List (String × RecordField) =>
    (entryNames fields).Nodup) _ _ List.nodup_nil fun fields hfields layer _ => ?_
  exact List.foldlRecOn (motive := fun fields : List (String × RecordField) =>
    (entryNames fields).Nodup) _ _ hfields fun _ h _ _ => nodup_entryNames_assign _ _ h

theorem nodup_types (layers : List Layer) : (entryNames (types layers)).Nodup := by
  rw [types, entryNames, List.map_map]
  exact (nodup_recordFields layers).sublist (List.filter_sublist.map _)

def fields (layers : List Layer) : Fields := ⟨types layers, guarded layers, nodup_types layers⟩

end Chain

def Hierarchy.ofChain (r : Resolver) (layers : List Layer) : Hierarchy :=
  ⟨r, layers, Chain.fields layers⟩

end RuleCheck
