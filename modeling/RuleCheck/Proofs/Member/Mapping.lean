import RuleCheck.Member.Candidate
import RuleCheck.Proofs.Row.Fitting

/-!
# Mappings as candidates

The members of a mapping are its entries with public names and values that a rule may use.
Where all of these fit a column, they form one row, and an entry is what a name stands for
if the name is its own, or if no other of these entries has the name but for its case.
-/

set_option autoImplicit false

namespace RuleCheck

open Text

def entryBinding (entry : String × Value) : Binding :=
  ⟨entry.1, (describeValue entry.1 entry.2).declared, entry.2⟩

def isUsable (entry : String × Value) : Bool :=
  isPublic entry.1 && (describeValue entry.1 entry.2).isEligible

theorem name_describeValue (name : String) (v : Value) : (describeValue name v).name = name := by
  cases v <;> rfl

theorem ne_resultName_of_isPublic {name : String} (h : isPublic name = true) :
    name ≠ resultName := by
  rintro rfl
  exact absurd h (by decide)

section

variable {entries : List (String × Value)}

theorem bindings_mapping (title : String) (h : (entryNames entries).Nodup) :
    (Candidate.mapping title entries).bindings none =
      .ok ((entries.filter isUsable).map entryBinding) := by
  -- With names of their own, what is read under a name is the value of its entry.
  have hbind : ∀ entry ∈ entries.filter isUsable,
      (Candidate.mapping title entries).bind (describeValue entry.1 entry.2) =
        entryBinding entry := by
    intro entry hentry
    have hread : (Candidate.mapping title entries).read entry.1 = entry.2 := by
      rw [Candidate.read, lookup_of_mem h (List.mem_of_mem_filter hentry)]
      rfl
    rw [Candidate.bind, name_describeValue, hread]
    rfl
  have hmembers : (((entries.filter fun entry => isPublic entry.1).map fun entry =>
      describeValue entry.1 entry.2).filter Descriptor.isEligible) =
        (entries.filter isUsable).map fun entry => describeValue entry.1 entry.2 := by
    rw [List.filter_map, List.filter_filter]
    congr 2
    funext entry
    exact Bool.and_comm _ _
  show Except.ok ((((entries.filter fun entry => isPublic entry.1).map fun entry =>
    describeValue entry.1 entry.2).filter Descriptor.isEligible).map _) = _
  rw [hmembers, List.map_map]
  exact congrArg Except.ok (List.map_congr_left hbind)

/-- Entries with names of their own, where each that a rule may use fits a column. -/
structure Wellformed (entries : List (String × Value)) : Prop where
  names : (entryNames entries).Nodup
  fits : ∀ entry ∈ entries, isUsable entry = true → ∃ c, (entryBinding entry).column = .ok c

instance (entries : List (String × Value)) : Decidable (Wellformed entries) :=
  have hfits (entry : String × Value) : (entryBinding entry).column.isOk = true ↔
      ∃ c, (entryBinding entry).column = .ok c := by
    cases (entryBinding entry).column <;> simp [Except.isOk, Except.toBool]
  decidable_of_iff ((entryNames entries).Nodup ∧ ∀ entry ∈ entries, isUsable entry = true →
      (entryBinding entry).column.isOk = true)
    ⟨fun h => ⟨h.1, fun entry hmem huse => (hfits entry).1 (h.2 entry hmem huse)⟩,
      fun h => ⟨h.names, fun entry hmem huse => (hfits entry).2 (h.fits entry hmem huse)⟩⟩

namespace Wellformed

theorem fits_members (h : Wellformed entries) :
    ∀ b ∈ (entries.filter isUsable).map entryBinding, b.Fits := by
  intro b hb
  obtain ⟨entry, hentry, rfl⟩ := List.mem_map.1 hb
  obtain ⟨hmem, husable⟩ := List.mem_filter.1 hentry
  exact ⟨ne_resultName_of_isPublic (Bool.and_eq_true_iff.1 husable).1, h.fits entry hmem husable⟩

theorem nodup_members (h : Wellformed entries) :
    (((entries.filter isUsable).map entryBinding).map Binding.name).Nodup := by
  rw [List.map_map]
  exact h.names.sublist (List.filter_sublist.map _)

end Wellformed

end

def entriesRow (entries : List (String × Value)) (keepCase : Bool) : Row :=
  ⟨columnsOf ((entries.filter isUsable).map entryBinding), none, keepCase⟩

def Alone (entries : List (String × Value)) (name : String) : Prop :=
  ∀ entry ∈ entries, isUsable entry = true → fold entry.1 = fold name → entry.1 = name

instance (entries : List (String × Value)) (name : String) : Decidable (Alone entries name) :=
  inferInstanceAs (Decidable (∀ entry ∈ entries, _ → _ → _))

section

variable {entries : List (String × Value)} {keepCase : Bool} {name : String} {v : Value}
  {c : Column}

theorem ofBindings_entries (h : Wellformed entries) (used : Option (List String)) :
    Row.ofBindings ((entries.filter isUsable).map entryBinding) keepCase used =
      .ok (entriesRow entries keepCase) :=
  Row.ofBindings_of_fits h.fits_members h.nodup_members

theorem names_entriesRow (h : Wellformed entries) :
    (entriesRow entries keepCase).names = (entries.filter isUsable).map Prod.fst := by
  rw [Row.names, entriesRow, entryNames_columnsOf h.fits_members, List.map_map]
  rfl

theorem lookup_entriesRow (h : Wellformed entries) (hmem : (name, v) ∈ entries)
    (husable : isUsable (name, v) = true) (hc : (entryBinding (name, v)).column = .ok c) :
    (entriesRow entries keepCase).columns.lookup name = some c := by
  have hnames : (entryNames (columnsOf ((entries.filter isUsable).map entryBinding))).Nodup := by
    rw [entryNames_columnsOf h.fits_members]
    exact h.nodup_members
  have hbinding : entryBinding (name, v) ∈ (entries.filter isUsable).map entryBinding :=
    List.mem_map_of_mem (List.mem_filter.2 ⟨hmem, husable⟩)
  exact lookup_of_mem hnames (mem_columnsOf hbinding hc)

/-- A name in some case stands for an entry if it is the name of the entry itself, or if the
entry stands alone. -/
theorem resolve_entriesRow {spelling : String} (h : Wellformed entries)
    (hmem : (name, v) ∈ entries) (husable : isUsable (name, v) = true)
    (hfold : fold spelling = fold name) (htold : spelling = name ∨ Alone entries name) :
    (entriesRow entries keepCase).resolve spelling = .ok name := by
  have hfound : name ∈ (entriesRow entries keepCase).names := by
    rw [names_entriesRow h]
    exact List.mem_map_of_mem (List.mem_filter.2 ⟨hmem, husable⟩)
  rcases htold with rfl | halone
  · exact Row.resolve_of_mem hfound (ne_resultName_of_isPublic (Bool.and_eq_true_iff.1 husable).1)
  · have hnames : (entriesRow entries keepCase).names.Nodup := by
      rw [names_entriesRow h]
      exact h.names.sublist (List.filter_sublist.map _)
    refine Row.resolve_of_only hnames hfound hfold fun n hn hsame => ?_
    rw [names_entriesRow h] at hn
    obtain ⟨entry, hentry, rfl⟩ := List.mem_map.1 hn
    obtain ⟨hentry, huse⟩ := List.mem_filter.1 hentry
    exact halone entry hentry huse hsame

end

def Value.integer? : Value → Option Int
  | int n => some n
  | word _ n => some n
  | derivedInt _ n => some n
  | _ => none

section

variable {name : String} {v : Value} {n : Int}

theorem isEligible_of_integer? (h : v.integer? = some n) :
    (describeValue name v).isEligible = true := by
  cases v with
  | int => rfl
  | word => rfl
  | derivedInt => rfl
  | _ => cases h

theorem fit?_of_integer? (h : v.integer? = some n) :
    Column.fit? (entryBinding (name, v)).kind v = some (Column.ofOption (Column.intIfFits n)) := by
  cases v with
  | int =>
    cases h
    rfl
  | word =>
    cases h
    rfl
  | derivedInt =>
    cases h
    rfl
  | _ => cases h

theorem column_of_integer? (h : v.integer? = some n) (hn : Column.word64.has n = true) :
    (entryBinding (name, v)).column = .ok (.int (some n)) := by
  have hcell : Column.intIfFits n = some (.int (some n)) := if_pos hn
  rw [Binding.column, show (entryBinding (name, v)).value = v from rfl, fit?_of_integer? h, hcell]
  rfl

end

def Comparison.relates (op : Comparison) (m n : Int) : Bool :=
  match op with
  | eq => m = n
  | ne => m ≠ n
  | lt => m < n
  | gt => n < m
  | le => m ≤ n
  | ge => n ≤ m

theorem Comparison.holds_compare (op : Comparison) (m n : Int) :
    op.holds (some (compare m n)) = op.relates m n := by
  rw [Bool.eq_iff_iff]
  cases op <;> simp [holds, relates, Int.compare_eq_lt, Int.compare_eq_gt]

theorem Value.compare_ints (op : Comparison) (keepCase : Bool) (m n : Int) :
    Value.compare op keepCase (.int m) (.int n) = .ok (some (op.relates m n)) := by
  rw [← op.holds_compare]
  cases op <;> cases keepCase <;> rfl

end RuleCheck
