import RuleCheck.Proofs.Row.Fitting

/-!
# Rows of members with names of their own

Where every member has a name of its own, each of them either is left out of the row or has a
column that depends on it alone, and the columns are in the order of the members. So another
order of the members gives the same columns in another order, and no identifier can tell.
-/

set_option autoImplicit false

namespace RuleCheck

open Text

def Binding.cell (used : Option (List String)) (b : Binding) : Except Failure (Option Column) :=
  if b.name = resultName then .ok none
  else if Row.isUsed used b.name then b.column.map some
  else b.looseColumn

def Binding.entry? (used : Option (List String)) (b : Binding) : Option (String × Column) :=
  match b.cell used with
  | .ok c => c.map fun c => (b.name, c)
  | .error _ => none

theorem Binding.name_of_entry {used : Option (List String)} {b : Binding}
    {entry : String × Column} (h : b.entry? used = some entry) : entry.1 = b.name := by
  unfold entry? at h
  split at h
  · obtain ⟨c, -, rfl⟩ := Option.map_eq_some_iff.1 h
    rfl
  · cases h

namespace Row

variable {used : Option (List String)} {bindings bindings' : List Binding} {b : Binding}
  {columns columns' : List (String × Column)} {keepCase : Bool} {row row' : Row}
  {name found : String}

theorem addBinding_eq : addBinding used columns b =
    (b.cell used).map fun c => c.elim columns fun c => assign b.name c columns := by
  unfold addBinding Binding.cell
  split
  · rfl
  · split
    · cases b.column <;> rfl
    · cases b.looseColumn with
      | error f => rfl
      | ok c => cases c <;> rfl

theorem append_of_addBinding (hnew : b.name ∉ entryNames columns)
    (h : addBinding used columns b = .ok columns') :
    columns' = columns ++ (b.entry? used).toList := by
  rw [addBinding_eq] at h
  unfold Binding.entry?
  cases hcell : b.cell used with
  | error f =>
    rw [hcell] at h
    cases h
  | ok c =>
    rw [hcell] at h
    cases h
    cases c with
    | none => exact (List.append_nil _).symm
    | some c => exact assign_of_not_mem hnew

theorem append_of_foldlM (hnames : (entryNames columns ++ bindings.map Binding.name).Nodup)
    (h : bindings.foldlM (addBinding used) columns = .ok columns') :
    columns' = columns ++ bindings.filterMap (Binding.entry? used) := by
  induction bindings generalizing columns with
  | nil =>
    cases h
    exact (List.append_nil _).symm
  | cons b rest ih =>
    rw [List.foldlM_cons] at h
    obtain ⟨next, hadd, h⟩ := exists_of_bind_eq_ok h
    have hnew : b.name ∉ entryNames columns := fun hmem =>
      (List.nodup_append.1 hnames).2.2 _ hmem _ List.mem_cons_self rfl
    have hnext := append_of_addBinding hnew hadd
    -- The names behind are new to the row with the column of this member, if it has one.
    have hmore : (entryNames next ++ rest.map Binding.name).Nodup := by
      refine hnames.sublist ?_
      rw [hnext, entryNames, List.map_append, List.append_assoc]
      refine (List.Sublist.refl _).append ?_
      cases hentry : b.entry? used with
      | none => exact List.sublist_cons_self _ _
      | some entry =>
        rw [List.map_cons, ← Binding.name_of_entry hentry]
        exact List.Sublist.refl _
    rw [ih hmore h, hnext, List.append_assoc, List.filterMap_cons]
    cases b.entry? used <;> rfl

/-- The columns of a row are those of its members, where each member has a name of its own. -/
theorem columns_of_ofBindings (hnames : (bindings.map Binding.name).Nodup)
    (h : ofBindings bindings keepCase used = .ok row) :
    row.columns = bindings.filterMap (Binding.entry? used) := by
  obtain ⟨columns, hfold, hrow⟩ := exists_of_bind_eq_ok h
  cases hrow
  have happend : columns = [] ++ bindings.filterMap (Binding.entry? used) :=
    append_of_foldlM hnames hfold
  exact happend

theorem names_sublist (hnames : (bindings.map Binding.name).Nodup)
    (h : ofBindings bindings keepCase used = .ok row) :
    row.names.Sublist (bindings.map Binding.name) := by
  rw [names, columns_of_ofBindings hnames h]
  clear hnames h
  induction bindings with
  | nil => exact List.Sublist.refl _
  | cons b rest ih =>
    rw [List.filterMap_cons]
    cases hentry : b.entry? used with
    | none => exact ih.cons b.name
    | some entry =>
      rw [entryNames, List.map_cons, List.map_cons, Binding.name_of_entry hentry]
      exact ih.cons_cons b.name

/-- Each member has its own column in the row, or none if it is left out. -/
theorem cell_eq_lookup (hnames : (bindings.map Binding.name).Nodup)
    (h : ofBindings bindings keepCase used = .ok row) (hb : b ∈ bindings) :
    b.cell used = .ok (row.columns.lookup b.name) := by
  have hcolumns := columns_of_ofBindings hnames h
  obtain ⟨c, hc⟩ : ∃ c, b.cell used = .ok c := by
    have hadded : ∃ next, addBinding used [] b = .ok next :=
      exists_addBinding.2 (exists_ofBindings.1 ⟨row, h⟩ b hb)
    obtain ⟨next, hadd⟩ := hadded
    rw [addBinding_eq] at hadd
    cases hcell : b.cell used with
    | ok c => exact ⟨c, rfl⟩
    | error f =>
      rw [hcell] at hadd
      cases hadd
  rw [hc]
  cases c with
  | some c =>
    have hmem : (b.name, c) ∈ row.columns := by
      rw [hcolumns]
      exact List.mem_filterMap.2 ⟨b, hb, by rw [Binding.entry?, hc]; rfl⟩
    have hdistinct : row.names.Nodup := hnames.sublist (names_sublist hnames h)
    rw [lookup_of_mem hdistinct hmem]
  | none =>
    refine congrArg Except.ok (List.lookup_eq_none_iff.2 fun entry hentry => bne_iff_ne.2 ?_).symm
    intro hname
    -- Only the member itself could have a column of its name.
    rw [hcolumns] at hentry
    obtain ⟨other, hother, hentry⟩ := List.mem_filterMap.1 hentry
    have hsame : other = b := List.inj_on_of_nodup_map hnames hother hb
      ((Binding.name_of_entry hentry).symm.trans hname.symm)
    rw [hsame, Binding.entry?, hc] at hentry
    cases hentry

structure Shuffled (row row' : Row) : Prop where
  columns : row.columns.Perm row'.columns
  names : row.names.Nodup
  keepCase : row.keepCase = row'.keepCase

theorem exists_shuffled (hnames : (bindings.map Binding.name).Nodup)
    (hperm : bindings.Perm bindings') (h : ofBindings bindings keepCase used = .ok row) :
    ∃ row', ofBindings bindings' keepCase used = .ok row' ∧ Shuffled row row' := by
  have hrow' : ∃ row', ofBindings bindings' keepCase used = .ok row' :=
    exists_ofBindings.2 fun b hb => exists_ofBindings.1 ⟨row, h⟩ b (hperm.mem_iff.2 hb)
  obtain ⟨row', hrow'⟩ := hrow'
  have hnames' : (bindings'.map Binding.name).Nodup := (hperm.map Binding.name).nodup_iff.1 hnames
  refine ⟨row', hrow', ?_, hnames.sublist (names_sublist hnames h), ?_⟩
  · rw [columns_of_ofBindings hnames h, columns_of_ofBindings hnames' hrow']
    exact hperm.filterMap _
  · obtain ⟨columns, -, hrow⟩ := exists_of_bind_eq_ok h
    obtain ⟨columns', -, hrow'⟩ := exists_of_bind_eq_ok hrow'
    cases hrow
    cases hrow'
    rfl

namespace Shuffled

theorem perm_names (h : Shuffled row row') : row.names.Perm row'.names := h.columns.map Prod.fst

theorem lookup (h : Shuffled row row') (name : String) :
    row.columns.lookup name = row'.columns.lookup name := by
  have hnames' : row'.names.Nodup := h.perm_names.nodup_iff.1 h.names
  refine Option.ext fun c => ?_
  constructor
  · intro hc
    exact lookup_of_mem hnames' (h.columns.mem_iff.1 (mem_of_lookup hc))
  · intro hc
    exact lookup_of_mem h.names (h.columns.mem_iff.2 (mem_of_lookup hc))

theorem resolve (h : Shuffled row row') (hfound : row.resolve name = .ok found) :
    row'.resolve name = .ok found := by
  have hmem : name ∈ row.names ↔ name ∈ row'.names := h.perm_names.mem_iff
  unfold Row.resolve at hfound ⊢
  split at hfound
  · rename_i hname
    rw [if_pos ⟨hmem.1 hname.1, hname.2⟩]
    exact hfound
  · rename_i hname
    rw [if_neg fun hname' => hname ⟨hmem.2 hname'.1, hname'.2⟩]
    have hcandidates := h.perm_names.filter fun n => fold n == fold name
    split at hfound
    · rename_i only honly
      rw [honly] at hcandidates
      rw [hcandidates.singleton_eq.symm]
      exact hfound
    · cases hfound
    · cases hfound

theorem get_eq (h : Shuffled row row') (hfound : row.resolve name = .ok found) :
    row.get name = row'.get name := by
  obtain ⟨c, hc, hget⟩ := exists_get hfound
  rw [hget, get_of_lookup (h.resolve hfound) (h.lookup found ▸ hc)]

end Shuffled

end Row

end RuleCheck
