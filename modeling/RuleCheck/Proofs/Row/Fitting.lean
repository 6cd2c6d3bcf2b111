import Mathlib.Data.List.Nodup
import RuleCheck.Proofs.Row.Used

/-!
# Members that fit

Where all members have names of their own and values that fit their declared types, the row
consists of their columns, whatever an expression uses of them. A name that is no column's
stands for a column just if that is the only one whose name differs from it in case alone.
-/

set_option autoImplicit false

namespace RuleCheck

open Text

section

variable {α : Type} {name : String} {x : α} {entries : List (String × α)}

theorem lookup_of_mem (h : (entryNames entries).Nodup) (hmem : (name, x) ∈ entries) :
    entries.lookup name = some x := by
  induction entries with
  | nil => cases hmem
  | cons entry rest ih =>
    obtain ⟨habsent, hrest⟩ := List.nodup_cons.1 h
    rcases List.mem_cons.1 hmem with rfl | hmem
    · exact List.lookup_cons_self
    · have hne : (name == entry.1) = false :=
        beq_eq_false_iff_ne.2 fun hname => habsent (hname ▸ List.mem_map_of_mem hmem)
      rw [List.lookup_cons, hne]
      exact ih hrest hmem

theorem mem_of_lookup (h : entries.lookup name = some x) : (name, x) ∈ entries := by
  obtain ⟨before, behind, rfl, -⟩ := List.lookup_eq_some_iff.1 h
  exact List.mem_append_right before List.mem_cons_self

/-- What is put under a name goes behind all other names before it. -/
theorem assign_append (h : name ∉ entryNames entries) (more : List (String × α)) :
    assign name x (entries ++ more) = entries ++ assign name x more := by
  induction entries with
  | nil => rfl
  | cons entry rest ih =>
    rw [entryNames, List.map_cons, List.mem_cons, not_or] at h
    rw [List.cons_append, assign, if_neg (Ne.symm h.1), ih h.2]
    rfl

theorem assign_of_not_mem (h : name ∉ entryNames entries) :
    assign name x entries = entries ++ [(name, x)] := by
  have happ := assign_append (x := x) h []
  rwa [List.append_nil] at happ

end

/-- A value that fits its declared type goes into the column of that type. -/
theorem Binding.looseColumn_of_column {b : Binding} {c : Column} (h : b.column = .ok c) :
    b.looseColumn = .ok (some c) := by
  have hkind : b.kind ≠ .unknown := by
    intro hkind
    rw [column, hkind] at h
    cases h
  rw [looseColumn, firstFit, if_neg hkind, h]

def Binding.Fits (b : Binding) : Prop := b.name ≠ resultName ∧ ∃ c, b.column = .ok c

def columnsOf (bindings : List Binding) : List (String × Column) :=
  bindings.filterMap fun b => b.column.toOption.map fun c => (b.name, c)

section

variable {bindings : List Binding} {b : Binding} {c : Column}

theorem columnsOf_cons (h : b.column = .ok c) (bindings : List Binding) :
    columnsOf (b :: bindings) = (b.name, c) :: columnsOf bindings := by
  simp [columnsOf, h, Except.toOption]

theorem mem_columnsOf (hb : b ∈ bindings) (h : b.column = .ok c) :
    (b.name, c) ∈ columnsOf bindings :=
  List.mem_filterMap.2 ⟨b, hb, by simp [h, Except.toOption]⟩

theorem entryNames_columnsOf (h : ∀ b ∈ bindings, b.Fits) :
    entryNames (columnsOf bindings) = bindings.map Binding.name := by
  induction bindings with
  | nil => rfl
  | cons b rest ih =>
    obtain ⟨hb, hrest⟩ := List.forall_mem_cons.1 h
    obtain ⟨c, hc⟩ := hb.2
    rw [columnsOf_cons hc, List.map_cons, ← ih hrest]
    rfl

namespace Row

variable {used : Option (List String)} {columns : List (String × Column)} {keepCase : Bool}

theorem addBinding_of_fits (hname : b.name ≠ resultName) (hc : b.column = .ok c) :
    addBinding used columns b = .ok (assign b.name c columns) := by
  cases hused : isUsed used b.name with
  | true => exact addBinding_of_column hname hused hc
  | false =>
    rw [addBinding, if_neg hname, hused, Binding.looseColumn_of_column hc]
    rfl

/-- Further members that fit are put behind the columns that are there. -/
theorem foldlM_of_fits (h : ∀ b ∈ bindings, b.Fits)
    (hnames : (entryNames columns ++ bindings.map Binding.name).Nodup) :
    bindings.foldlM (addBinding used) columns = .ok (columns ++ columnsOf bindings) := by
  induction bindings generalizing columns with
  | nil => exact congrArg Except.ok (List.append_nil columns).symm
  | cons b rest ih =>
    obtain ⟨hb, hrest⟩ := List.forall_mem_cons.1 h
    obtain ⟨hname, c, hc⟩ := hb
    -- A new name goes behind the others, so the columns keep the order of the members.
    have hnew : b.name ∉ entryNames columns := fun hmem =>
      (List.nodup_append.1 hnames).2.2 _ hmem _ List.mem_cons_self rfl
    have hmore : (entryNames (columns ++ [(b.name, c)]) ++ rest.map Binding.name).Nodup := by
      rw [entryNames, List.map_append, List.append_assoc]
      exact hnames
    have hfold := ih hrest hmore
    rw [← List.append_cons] at hfold
    rw [List.foldlM_cons, addBinding_of_fits hname hc, assign_of_not_mem hnew, columnsOf_cons hc]
    exact hfold

theorem ofBindings_of_fits (h : ∀ b ∈ bindings, b.Fits)
    (hnames : (bindings.map Binding.name).Nodup) :
    ofBindings bindings keepCase used = .ok ⟨columnsOf bindings, none, keepCase⟩ := by
  have hfold : bindings.foldlM (addBinding used) [] = .ok (columnsOf bindings) :=
    foldlM_of_fits h hnames
  rw [ofBindings, hfold]
  rfl

variable {row : Row} {name found : String}

theorem resolve_of_mem (h : name ∈ row.names) (hname : name ≠ resultName) :
    row.resolve name = .ok name := if_pos ⟨h, hname⟩

/-- A name stands for the only column whose name differs from it in case at most. -/
theorem resolve_of_only (hnames : row.names.Nodup) (hfound : found ∈ row.names)
    (hfold : fold name = fold found)
    (honly : ∀ n ∈ row.names, fold n = fold found → n = found) :
    row.resolve name = .ok found := by
  by_cases hname : name ∈ row.names ∧ name ≠ resultName
  · rw [← honly name hname.1 hfold]
    exact if_pos hname
  · have hcandidates : (row.names.filter fun n => fold n == fold name) = [found] := by
      have hsame : ∀ n ∈ row.names, (fold n == fold name) = (n == found) := fun n hn => by
        rw [hfold, Bool.eq_iff_iff, beq_iff_eq, beq_iff_eq]
        exact ⟨honly n hn, congrArg fold⟩
      rw [List.filter_congr hsame, List.filter_beq, List.count_eq_one_of_mem hnames hfound]
      rfl
    rw [resolve, if_neg hname, hcandidates]

end Row

end

end RuleCheck
