import RuleCheck.Member.Chain
import RuleCheck.Proofs.Member.Described

/-!
# Fields in a chain

The last record that annotates a name says what field it is, or that it is none. One more annotation
in a layer changes the field of its own name alone.
-/

set_option autoImplicit false

namespace RuleCheck.Chain

open Layer

theorem nodup_recordEntries (layer : Layer) : (entryNames (recordEntries layer)).Nodup := by
  rw [recordEntries]
  split
  · exact layer.nodup_held
  · exact List.nodup_nil

def recordField? (name : String) (layer : Layer) : Option RecordField :=
  ((recordEntries layer).lookup name).map (recordField layer)

theorem lookup_recordFields (layers : List Layer) (name : String) :
    (recordFields layers).lookup name = layers.reverse.findSome? (recordField? name) := by
  have hlayer (layer : Layer) :
      last? (fun entry : Layer × String × Hint => entry.2.1 == name)
        ((recordEntries layer).map fun entry => (layer, entry)) =
        ((recordEntries layer).lookup name).map fun held => (layer, name, held) := by
    rw [last?_map]
    show (last? (fun entry => entry.1 == name) (recordEntries layer)).map _ = _
    rw [last?_eq_lookup (nodup_recordEntries layer), Option.map_map]
    rfl
  -- The folds over the layers and over the entries of each are one fold over all entries.
  have hfold : recordFields layers =
      (layers.flatMap fun layer => (recordEntries layer).map fun entry => (layer, entry)).foldl
        (fun fields entry => assign entry.2.1 (recordField entry.1 entry.2.2) fields) [] := by
    rw [List.foldl_flatMap]
    simp only [List.foldl_map]
    rfl
  rw [hfold, lookup_foldl (fun entry : Layer × String × Hint => entry.2.1)
    (fun entry => recordField entry.1 entry.2.2) (fun _ _ => rfl), last?_flatMap]
  simp only [hlayer]
  rw [List.map_findSome?]
  congr 1
  funext layer
  show (((recordEntries layer).lookup name).map fun held => (layer, name, held)).map _ = _
  rw [Option.map_map]
  rfl

theorem lookup_types (layers : List Layer) (name : String) : (types layers).lookup name =
    ((layers.reverse.findSome? (recordField? name)).filter fun f => !f.isPseudo).map (·.held) := by
  rw [types, lookup_map_entry (fun _ (f : RecordField) => f.held),
    lookup_filter (q := fun f : RecordField => !f.isPseudo) (nodup_recordFields layers),
    lookup_recordFields]

/-- A field is held with the annotation of some layer. -/
theorem exists_held_of_lookup_types {layers : List Layer} {name : String} {held : Hint}
    (h : (types layers).lookup name = some held) : ∃ layer ∈ layers, (name, held) ∈ layer.held := by
  rw [lookup_types] at h
  obtain ⟨f, hfield, rfl⟩ := Option.map_eq_some_iff.1 h
  obtain ⟨layer, hlayer, hmap⟩ :=
    List.exists_of_findSome?_eq_some (Option.filter_eq_some_iff.1 hfield).1
  obtain ⟨held, hlookup, rfl⟩ := Option.map_eq_some_iff.1 hmap
  have hmem := mem_of_lookup hlookup
  unfold recordEntries at hmem
  split at hmem
  · exact ⟨layer, List.mem_reverse.1 hlayer, hmem⟩
  · cases hmem

/-- Two layers that hold the same under a name make the same field of it. -/
theorem lookup_types_congr {before behind : List Layer} {layer layer' : Layer} {name : String}
    (hfield : recordField? name layer' = recordField? name layer) :
    (types (before ++ layer' :: behind)).lookup name =
      (types (before ++ layer :: behind)).lookup name := by
  rw [lookup_types, lookup_types]
  simp [List.findSome?_cons, hfield]

end RuleCheck.Chain
