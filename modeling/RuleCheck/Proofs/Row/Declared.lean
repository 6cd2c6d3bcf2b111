import RuleCheck.Proofs.Row.Cell
import RuleCheck.Proofs.Row.Used
import RuleCheck.Proofs.Value.Sorted

/-!
# Declared kinds

A column that an expression uses holds values of the kind that its member is declared to
have. Where several members have one name, the last of them counts. So what an identifier
stands for has a sort that can be told from the declarations alone.
-/

set_option autoImplicit false

namespace RuleCheck

open Number Text

namespace Column

def kind : Column → Kind
  | bool _ => .bool
  | int _ => .int
  | float _ => .float
  | text _ => .string
  | derivedText _ _ => .string

/-- A value that fits into a column of a kind is of that kind there. -/
theorem kind_of_fit {k : Kind} {v : Value} {c : Column} (h : fit? k v = some (.fits c)) :
    c.kind = k := by
  cases takes_of_fit h with
  | empty _ hempty => cases k <;> cases hempty <;> rfl
  | _ => rfl

theorem inhabits_value {floats : Bool} {c : Column} {s : ValueSort} (hs : c.kind.sort? = some s)
    (hfloats : floats = true ∨ ∀ x, c.value ≠ .float x) : Inhabits floats c.value s := by
  cases c with
  | bool cell =>
    cases hs
    cases cell with
    | none => exact .absent _
    | some b => exact .bool b
  | int cell =>
    cases hs
    cases cell with
    | none => exact .absent _
    | some n => exact .int n
  | float cell =>
    cases hs
    cases cell with
    | none => exact .absent _
    | some x =>
      rcases hfloats with hfloats | hne
      · exact .float x hfloats
      · exact absurd rfl (hne x)
  | text cell =>
    cases hs
    cases cell with
    | none => exact .absent _
    | some t => exact .text t
  | derivedText className t =>
    cases hs
    exact .derivedText className t

end Column

theorem Binding.kind_column {b : Binding} {c : Column} (h : b.column = .ok c) :
    c.kind = b.kind := Column.kind_of_fit (Binding.fit_of_column h)

def declaredKind? (bindings : List Binding) (name : String) : Option Kind :=
  (bindings.reverse.find? fun b => b.name = name).map Binding.kind

theorem declaredKind?_append_self (bindings : List Binding) (b : Binding) :
    declaredKind? (bindings ++ [b]) b.name = some b.kind := by
  simp [declaredKind?]

theorem declaredKind?_append_ne {bindings : List Binding} {b : Binding} {name : String}
    (h : b.name ≠ name) : declaredKind? (bindings ++ [b]) name = declaredKind? bindings name := by
  simp [declaredKind?, h]

namespace Row

structure Declared (used : Option (List String)) (bindings : List Binding)
    (columns : List (String × Column)) : Prop where
  reserved : resultName ∉ entryNames columns
  kind : ∀ name c, isUsed used name = true → columns.lookup name = some c →
    declaredKind? bindings name = some c.kind

variable {used : Option (List String)} {bindings : List Binding}
  {columns columns' : List (String × Column)} {b : Binding}

theorem Declared.assign (h : Declared used bindings columns) (hb : b.name ≠ resultName)
    {c : Column} (hc : isUsed used b.name = true → c.kind = b.kind) :
    Declared used (bindings ++ [b]) (assign b.name c columns) := by
  constructor
  · intro hmem
    rcases mem_entryNames_assign.1 hmem with hname | hmem
    · exact hb hname.symm
    · exact h.reserved hmem
  · intro name d hused hd
    by_cases hname : b.name = name
    · subst hname
      rw [lookup_assign_self] at hd
      cases hd
      rw [declaredKind?_append_self, hc hused]
    · rw [lookup_assign_ne (Ne.symm hname)] at hd
      rw [declaredKind?_append_ne hname]
      exact h.kind name d hused hd

theorem Declared.skip (h : Declared used bindings columns)
    (hb : b.name = resultName ∨ isUsed used b.name = false) :
    Declared used (bindings ++ [b]) columns := by
  refine ⟨h.reserved, ?_⟩
  intro name c hused hc
  have hname : b.name ≠ name := by
    rintro rfl
    rcases hb with hb | hb
    · obtain ⟨entry, hentry, hentryname⟩ := List.lookup_isSome_iff.1 (Option.isSome_of_eq_some hc)
      have hmem : entry.1 ∈ entryNames columns := List.mem_map_of_mem hentry
      rw [← beq_iff_eq.1 hentryname, hb] at hmem
      exact h.reserved hmem
    · rw [hb] at hused
      cases hused
  rw [declaredKind?_append_ne hname]
  exact h.kind name c hused hc

/-- One more member leaves the used columns of the declared kinds. -/
theorem declared_addBinding (h : Declared used bindings columns)
    (hadd : addBinding used columns b = .ok columns') :
    Declared used (bindings ++ [b]) columns' := by
  rcases addBinding_cases hadd with ⟨hb, rfl⟩ | ⟨c, hname, hc, -, rfl⟩
  · exact h.skip hb
  · exact h.assign hname fun hused => Binding.kind_column (hc hused)

theorem declared_foldlM {more : List Binding} (h : Declared used bindings columns)
    (hfold : more.foldlM (addBinding used) columns = .ok columns') :
    Declared used (bindings ++ more) columns' := by
  induction more generalizing bindings columns with
  | nil =>
    cases hfold
    rw [List.append_nil]
    exact h
  | cons b more ih =>
    rw [List.foldlM_cons] at hfold
    obtain ⟨next, hadd, hmore⟩ := exists_of_bind_eq_ok hfold
    rw [List.append_cons]
    exact ih (declared_addBinding h hadd) hmore

theorem declared_ofBindings {keepCase : Bool} {row : Row}
    (hrow : ofBindings bindings keepCase used = .ok row) :
    Declared used bindings row.columns := by
  obtain ⟨columns, hfold, hcolumns⟩ := exists_of_bind_eq_ok hrow
  cases hcolumns
  have hnone : Declared used [] [] := ⟨List.not_mem_nil, fun _ _ _ h => by cases h⟩
  exact declared_foldlM hnone hfold

def sort? (row : Row) (bindings : List Binding) (name : String) : Option ValueSort :=
  match row.resolve name with
  | .ok found => (declaredKind? bindings found).bind Kind.sort?
  | .error _ => none

theorem exists_resolve_of_sort {row : Row} {name : String} {s : ValueSort}
    (h : row.sort? bindings name = some s) :
    ∃ found, row.resolve name = .ok found ∧
      (declaredKind? bindings found).bind Kind.sort? = some s := by
  unfold sort? at h
  split at h
  · exact ⟨_, ‹_›, h⟩
  · cases h

theorem exists_get_of_sort {keepCase floats : Bool} {row : Row} {names : List String}
    {name : String} {s : ValueSort} (hrow : ofBindings bindings keepCase (some names) = .ok row)
    (hname : name ∈ names) (hs : row.sort? bindings name = some s)
    (hfloats : floats = true ∨ ∀ x, row.get name ≠ .ok (.float x)) :
    ∃ v, row.get name = .ok v ∧ Inhabits floats v s := by
  obtain ⟨found, hfound, hsort⟩ := exists_resolve_of_sort hs
  obtain ⟨c, hc, hget⟩ := exists_get hfound
  have hused : isUsed (some names) found = true :=
    List.any_eq_true.2 ⟨name, hname, beq_iff_eq.2 (resolve_spec hfound).2.symm⟩
  have hkind := (declared_ofBindings hrow).kind found c hused hc
  rw [hkind] at hsort
  refine ⟨c.value, hget, Column.inhabits_value hsort ?_⟩
  rcases hfloats with hfloats | hne
  · exact .inl hfloats
  · exact .inr fun x hx => hne x (hx ▸ hget)

end Row

end RuleCheck
