import RuleCheck.Proofs.Alike
import RuleCheck.Row

/-!
# Members that are used

Members are put into a row one after another, and each of them concerns the column of its own
name only. So what a row holds of some used names can be told from the members of these names
alone, and an identifier stands for the same column whatever other members there are. Only
the names that are offered for an unknown one depend on all of them.
-/

set_option autoImplicit false

namespace RuleCheck

open Text

def seen {α : Type} (p : String → Bool) (entries : List (String × α)) : List (String × α) :=
  entries.filter fun entry => p entry.1

section

variable {α : Type} {p : String → Bool} {name : String}

theorem seen_cons_of_pos {entry : String × α} (h : p entry.1 = true)
    (entries : List (String × α)) : seen p (entry :: entries) = entry :: seen p entries := by
  simp [seen, h]

theorem seen_cons_of_neg {entry : String × α} (h : p entry.1 = false)
    (entries : List (String × α)) : seen p (entry :: entries) = seen p entries := by
  simp [seen, h]

theorem entryNames_seen (entries : List (String × α)) :
    entryNames (seen p entries) = (entryNames entries).filter p := by
  simp only [seen, entryNames, List.filter_map]
  rfl

theorem lookup_seen (h : p name = true) (entries : List (String × α)) :
    (seen p entries).lookup name = entries.lookup name := by
  induction entries with
  | nil => rfl
  | cons entry rest ih =>
    by_cases hname : name = entry.1
    · subst hname
      rw [seen_cons_of_pos h, List.lookup_cons_self, List.lookup_cons_self]
    · have hne : (name == entry.1) = false := beq_eq_false_iff_ne.2 hname
      cases hp : p entry.1 with
      | true => rw [seen_cons_of_pos hp, List.lookup_cons, List.lookup_cons, hne, ih]
      | false => rw [seen_cons_of_neg hp, List.lookup_cons, hne, ih]

theorem seen_assign (x : α) (entries : List (String × α)) :
    seen p (assign name x entries) =
      if p name then assign name x (seen p entries) else seen p entries := by
  induction entries with
  | nil => cases h : p name <;> simp [seen, assign, h]
  | cons entry rest ih =>
    obtain ⟨n, y⟩ := entry
    rw [assign]
    split
    · rename_i hname
      subst hname
      cases h : p n with
      | true => simp [seen_cons_of_pos, h, assign]
      | false => simp [seen_cons_of_neg, h]
    · rename_i hname
      cases hn : p n with
      | true =>
        rw [seen_cons_of_pos hn, seen_cons_of_pos hn, ih]
        split <;> simp [assign, hname]
      | false => rw [seen_cons_of_neg hn, seen_cons_of_neg hn, ih]

end

namespace Binding

def Fills (b : Binding) (c : Column) : Prop := ∃ k, Column.fit? k b.value = some (.fits c)

variable {b : Binding} {c : Column}

theorem fit_of_column (h : b.column = .ok c) : Column.fit? b.kind b.value = some (.fits c) := by
  unfold column at h
  split at h
  · cases h
  · cases h
    assumption
  · unfold misfit at h
    split at h <;> cases h
  · cases h

theorem exists_column_of_firstFit {candidates : List Binding}
    (h : firstFit candidates = .ok (some c)) : ∃ b ∈ candidates, b.column = .ok c := by
  induction candidates with
  | nil => cases h
  | cons b rest ih =>
    have behind (h : firstFit rest = .ok (some c)) : ∃ b' ∈ b :: rest, b'.column = .ok c := by
      obtain ⟨b', hb', hc⟩ := ih h
      exact ⟨b', List.mem_cons_of_mem b hb', hc⟩
    rw [firstFit] at h
    split at h
    · exact behind h
    · split at h
      · cases h
        exact ⟨b, List.mem_cons_self, ‹_›⟩
      · exact behind h
      · cases h

/-- Another type than the declared one leaves the value as it is. -/
theorem fills_of_loose (h : b.looseColumn = .ok (some c)) : b.Fills c := by
  obtain ⟨b', hb', hc⟩ := exists_column_of_firstFit h
  rcases List.mem_cons.1 hb' with rfl | hb'
  · exact ⟨_, fit_of_column hc⟩
  · cases List.mem_singleton.1 hb'
    exact ⟨_, fit_of_column (b := b.retyped) hc⟩

end Binding

namespace Row

variable {used : Option (List String)} {bindings : List Binding} {b : Binding}
  {columns columns' : List (String × Column)} {p : String → Bool} {keepCase : Bool}

/-- A member is left out, or gets a column of its name that takes its value, which is the declared
one if the member is used. -/
theorem addBinding_cases (h : addBinding used columns b = .ok columns') :
    ((b.name = resultName ∨ isUsed used b.name = false) ∧ columns' = columns) ∨
      ∃ c, b.name ≠ resultName ∧ (isUsed used b.name = true → b.column = .ok c) ∧ b.Fills c ∧
        columns' = assign b.name c columns := by
  unfold addBinding at h
  by_cases hname : b.name = resultName
  · rw [if_pos hname] at h
    cases h
    exact .inl ⟨.inl hname, rfl⟩
  rw [if_neg hname] at h
  by_cases hused : isUsed used b.name = true
  · rw [if_pos hused] at h
    obtain ⟨c, hc, h⟩ := exists_of_bind_eq_ok h
    cases h
    exact .inr ⟨c, hname, fun _ => hc, ⟨_, Binding.fit_of_column hc⟩, rfl⟩
  · rw [if_neg hused] at h
    obtain ⟨loose, hloose, h⟩ := exists_of_bind_eq_ok h
    cases loose with
    | none =>
      cases h
      exact .inl ⟨.inr (Bool.not_eq_true _ ▸ hused), rfl⟩
    | some c =>
      cases h
      exact .inr ⟨c, hname, fun hb => absurd hb hused, Binding.fills_of_loose hloose, rfl⟩

theorem addBinding_result (hname : b.name = resultName) :
    addBinding used columns b = .ok columns := if_pos hname

theorem addBinding_of_column {c : Column} (hname : b.name ≠ resultName)
    (hused : isUsed used b.name = true) (hc : b.column = .ok c) :
    addBinding used columns b = .ok (assign b.name c columns) := by
  rw [addBinding, if_neg hname, if_pos hused, hc]
  rfl

theorem addBinding_of_unused (hname : b.name ≠ resultName) (hused : isUsed used b.name = false) :
    addBinding used columns b = (do
      match ← b.looseColumn with
      | some column => return assign b.name column columns
      | none => return columns) := by
  rw [addBinding, if_neg hname, hused]
  rfl

structure Placed (used : Option (List String)) (b : Binding) : Prop where
  strict : b.name ≠ resultName → isUsed used b.name = true → ∃ c, b.column = .ok c
  loose : b.name ≠ resultName → isUsed used b.name = false → ∃ c, b.looseColumn = .ok c

theorem exists_addBinding :
    (∃ columns', addBinding used columns b = .ok columns') ↔ Placed used b := by
  by_cases hname : b.name = resultName
  · have hplaced : Placed used b :=
      ⟨fun hne => absurd hname hne, fun hne => absurd hname hne⟩
    exact ⟨fun _ => hplaced, fun _ => ⟨columns, addBinding_result hname⟩⟩
  cases hused : isUsed used b.name with
  | true =>
    constructor
    · rintro ⟨columns', h⟩
      refine ⟨fun _ _ => ?_, fun _ hb => absurd (hused.symm.trans hb) nofun⟩
      rw [addBinding, if_neg hname, if_pos hused] at h
      obtain ⟨c, hc, -⟩ := exists_of_bind_eq_ok h
      exact ⟨c, hc⟩
    · intro h
      obtain ⟨c, hc⟩ := h.strict hname hused
      exact ⟨_, addBinding_of_column hname hused hc⟩
  | false =>
    have hadd : addBinding used columns b = _ := addBinding_of_unused hname hused
    constructor
    · rintro ⟨columns', h⟩
      refine ⟨fun _ hb => absurd (hused.symm.trans hb) nofun, fun _ _ => ?_⟩
      rw [hadd] at h
      obtain ⟨c, hc, -⟩ := exists_of_bind_eq_ok h
      exact ⟨c, hc⟩
    · intro h
      obtain ⟨c, hc⟩ := h.loose hname hused
      rw [hadd, hc]
      cases c with
      | none => exact ⟨columns, rfl⟩
      | some c => exact ⟨assign b.name c columns, rfl⟩

theorem exists_ofBindings :
    (∃ row, ofBindings bindings keepCase used = .ok row) ↔ ∀ b ∈ bindings, Placed used b := by
  have folded (columns : List (String × Column)) :
      (∃ columns', bindings.foldlM (addBinding used) columns = .ok columns') ↔
        ∀ b ∈ bindings, Placed used b := by
    induction bindings generalizing columns with
    | nil => exact ⟨fun _ => List.forall_mem_nil _, fun _ => ⟨columns, rfl⟩⟩
    | cons b rest ih =>
      rw [List.forall_mem_cons]
      constructor
      · rintro ⟨columns', h⟩
        rw [List.foldlM_cons] at h
        obtain ⟨next, hadd, h⟩ := exists_of_bind_eq_ok h
        exact ⟨exists_addBinding.1 ⟨next, hadd⟩, (ih next).1 ⟨columns', h⟩⟩
      · rintro ⟨hb, hrest⟩
        have hadded : ∃ next, addBinding used columns b = .ok next := exists_addBinding.2 hb
        obtain ⟨next, hadd⟩ := hadded
        obtain ⟨columns', h⟩ := (ih next).2 hrest
        exact ⟨columns', by rw [List.foldlM_cons, hadd]; exact h⟩
  rw [← folded []]
  constructor
  · rintro ⟨row, h⟩
    obtain ⟨columns, hfold, -⟩ := exists_of_bind_eq_ok h
    exact ⟨columns, hfold⟩
  · rintro ⟨columns, h⟩
    exact ⟨⟨columns, none, keepCase⟩, by rw [ofBindings, h]; rfl⟩

theorem exists_fills {row : Row} {name : String} {c : Column}
    (hrow : ofBindings bindings keepCase used = .ok row) (hc : row.columns.lookup name = some c) :
    ∃ b ∈ bindings, b.name = name ∧ b.Fills c := by
  have folded (more : List Binding) (columns columns' : List (String × Column))
      (hmore : more ⊆ bindings)
      (h : ∀ n d, columns.lookup n = some d → ∃ b ∈ bindings, b.name = n ∧ b.Fills d)
      (hfold : more.foldlM (addBinding used) columns = .ok columns') :
      ∀ n d, columns'.lookup n = some d → ∃ b ∈ bindings, b.name = n ∧ b.Fills d := by
    induction more generalizing columns with
    | nil =>
      cases hfold
      exact h
    | cons b rest ih =>
      obtain ⟨hb, hrest⟩ := List.cons_subset.1 hmore
      rw [List.foldlM_cons] at hfold
      obtain ⟨next, hadd, hfold⟩ := exists_of_bind_eq_ok hfold
      refine ih next hrest ?_ hfold
      intro n d hd
      rcases addBinding_cases hadd with ⟨-, rfl⟩ | ⟨c, -, -, hfills, rfl⟩
      · exact h n d hd
      · by_cases hn : n = b.name
        · subst hn
          rw [lookup_assign_self] at hd
          cases hd
          exact ⟨b, hb, rfl, hfills⟩
        · rw [lookup_assign_ne hn] at hd
          exact h n d hd
  obtain ⟨columns, hfold, hcolumns⟩ := exists_of_bind_eq_ok hrow
  cases hcolumns
  exact folded bindings [] columns (List.Subset.refl _) (fun _ _ h => by cases h) hfold name c hc

/-- One more member is seen as if all members had to have their declared types, or not seen. -/
theorem seen_addBinding (hp : ∀ name, p name = true → isUsed used name = true)
    (h : addBinding used columns b = .ok columns') :
    (p b.name = true → addBinding none (seen p columns) b = .ok (seen p columns')) ∧
      (p b.name = false → seen p columns' = seen p columns) := by
  rcases addBinding_cases h with ⟨hb, rfl⟩ | ⟨c, hname, hc, -, rfl⟩
  · refine ⟨fun hseen => ?_, fun _ => rfl⟩
    rcases hb with hb | hb
    · exact addBinding_result hb
    · rw [hp _ hseen] at hb
      cases hb
  · rw [seen_assign]
    refine ⟨fun hseen => ?_, fun hseen => if_neg (by simp [hseen])⟩
    rw [if_pos hseen]
    exact addBinding_of_column hname rfl (hc (hp _ hseen))

theorem seen_foldlM (hp : ∀ name, p name = true → isUsed used name = true)
    (h : bindings.foldlM (addBinding used) columns = .ok columns') :
    (bindings.filter fun b => p b.name).foldlM (addBinding none) (seen p columns) =
      .ok (seen p columns') := by
  induction bindings generalizing columns with
  | nil =>
    cases h
    rfl
  | cons b rest ih =>
    rw [List.foldlM_cons] at h
    obtain ⟨next, hadd, hrest⟩ := exists_of_bind_eq_ok h
    -- A member that is not seen leaves what is seen of the columns as it is.
    obtain ⟨hseen, hunseen⟩ := seen_addBinding hp hadd
    have hmore := ih hrest
    cases hb : p b.name with
    | true =>
      rw [List.filter_cons, if_pos hb, List.foldlM_cons, hseen hb]
      exact hmore
    | false =>
      rw [List.filter_cons, if_neg (by simp [hb]), ← hunseen hb]
      exact hmore

/-- What a row holds of some used names is the row of the members of these names alone. -/
theorem ofBindings_seen {row : Row} (hp : ∀ name, p name = true → isUsed used name = true)
    (h : ofBindings bindings keepCase used = .ok row) :
    ofBindings (bindings.filter fun b => p b.name) keepCase none =
      .ok { row with columns := seen p row.columns } := by
  obtain ⟨columns, hfold, hrow⟩ := exists_of_bind_eq_ok h
  cases hrow
  rw [ofBindings, show ([] : List (String × Column)) = seen p [] from rfl, seen_foldlM hp hfold]
  rfl

structure SameSeen (p : String → Bool) (row row' : Row) : Prop where
  columns : seen p row.columns = seen p row'.columns
  keepCase : row.keepCase = row'.keepCase

/-- Rows hold the same of the used names that the members agree on. -/
theorem sameSeen_ofBindings {used' : Option (List String)} {bindings' : List Binding}
    {row row' : Row} (hp : ∀ name, p name = true → isUsed used name = true)
    (hp' : ∀ name, p name = true → isUsed used' name = true)
    (hrow : ofBindings bindings keepCase used = .ok row)
    (hrow' : ofBindings bindings' keepCase used' = .ok row')
    (h : (bindings.filter fun b => p b.name) = bindings'.filter fun b => p b.name) :
    SameSeen p row row' := by
  have hseen := ofBindings_seen hp hrow
  rw [h, ofBindings_seen hp' hrow'] at hseen
  have hsame := Except.ok.inj hseen
  exact ⟨(congrArg Row.columns hsame).symm, (congrArg Row.keepCase hsame).symm⟩

/-- An identifier stands for a column whose name differs from it in case at most. -/
theorem resolve_spec {row : Row} {name found : String} (h : row.resolve name = .ok found) :
    found ∈ row.names ∧ fold found = fold name := by
  unfold resolve at h
  split at h
  · cases h
    exact ⟨(‹_ ∧ _› : _ ∧ _).1, rfl⟩
  · split at h
    · rename_i hfilter
      cases h
      have hmem : found ∈ row.names.filter fun n => fold n == fold name := by
        rw [hfilter]
        exact List.mem_singleton_self _
      obtain ⟨hfound, hfold⟩ := List.mem_filter.1 hmem
      exact ⟨hfound, beq_iff_eq.1 hfold⟩
    · cases h
    · cases h

theorem get_of_lookup {row : Row} {name found : String} {c : Column}
    (h : row.resolve name = .ok found) (hc : row.columns.lookup found = some c) :
    row.get name = .ok c.value := by
  simp only [get, h, bind, Except.bind, hc]
  rfl

theorem exists_get {row : Row} {name found : String} (h : row.resolve name = .ok found) :
    ∃ c, row.columns.lookup found = some c ∧ row.get name = .ok c.value := by
  obtain ⟨c, hc⟩ := exists_lookup_of_mem (resolve_spec h).1
  exact ⟨c, hc, get_of_lookup h hc⟩

namespace SameSeen

variable {row row' : Row} {name : String}

theorem lookup (h : SameSeen p row row') (hname : p name = true) :
    row.columns.lookup name = row'.columns.lookup name := by
  rw [← lookup_seen hname, h.columns, lookup_seen hname]

theorem mem_names (h : SameSeen p row row') (hname : p name = true) :
    name ∈ row.names ↔ name ∈ row'.names := by
  have hnames : row.names.filter p = row'.names.filter p := by
    rw [names, names, ← entryNames_seen, h.columns, entryNames_seen]
  have hmem (row : Row) : name ∈ row.names ↔ name ∈ row.names.filter p := by
    rw [List.mem_filter]
    exact ⟨fun hrow => ⟨hrow, hname⟩, And.left⟩
  rw [hmem row, hnames, ← hmem row']

/-- The columns whose names differ from a name in case alone are the same. -/
theorem candidates (h : SameSeen p row row') (hp : ∀ n, fold n = fold name → p n = true) :
    (row.names.filter fun n => fold n == fold name) =
      row'.names.filter fun n => fold n == fold name := by
  have hnames : row.names.filter p = row'.names.filter p := by
    rw [names, names, ← entryNames_seen, h.columns, entryNames_seen]
  have hfold (ns : List String) : (ns.filter fun n => fold n == fold name) =
      (ns.filter p).filter fun n => fold n == fold name := by
    rw [List.filter_filter]
    refine List.filter_congr fun n _ => ?_
    cases hn : fold n == fold name with
    | true => rw [hp n (beq_iff_eq.1 hn), Bool.true_and]
    | false => rw [Bool.false_and]
  rw [hfold, hnames, ← hfold]

theorem resolve (h : SameSeen p row row') (hp : ∀ n, fold n = fold name → p n = true) :
    SameBut (row.resolve name) (row'.resolve name) := by
  have hmem := h.mem_names (hp name rfl)
  unfold Row.resolve
  rw [h.candidates hp]
  by_cases hname : name ∈ row.names ∧ name ≠ resultName
  · rw [if_pos hname, if_pos ⟨hmem.1 hname.1, hname.2⟩]
    exact .refl _
  · rw [if_neg hname, if_neg fun hname' => hname ⟨hmem.2 hname'.1, hname'.2⟩]
    split <;> rfl

theorem get (h : SameSeen p row row') (hp : ∀ n, fold n = fold name → p n = true) :
    SameBut (row.get name) (row'.get name) := by
  refine (h.resolve hp).bind fun found hfound => ?_
  rw [h.lookup (hp found (resolve_spec hfound).2)]
  split <;> rfl

end SameSeen

end Row

end RuleCheck
