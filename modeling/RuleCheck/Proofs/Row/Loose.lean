import RuleCheck.Proofs.Row.Fitting

/-!
# Members that can be left out

A member that an expression does not use takes the type of its value or is left out of the row,
with two exceptions: a list that reads as a table of truth values, and a value that does not fit
and is too long for the message that says so. A row fails over the first member that is held to
its declared type and does not fit, or that is one of these exceptions.
-/

set_option autoImplicit false

namespace RuleCheck

open Text

def Binding.Typed (b : Binding) : Prop := (Column.empty? b.kind).isSome = true

instance (b : Binding) : Decidable b.Typed := inferInstanceAs (Decidable (_ = true))

inductive Binding.Spills (b : Binding) : Failure → Prop
  | longInteger (hfit : Column.fit? b.kind b.value = some .misfit) (hlong : b.value.shown? = none) :
      Spills b .longInteger
  | nestedValue {items : List Value} (hkind : b.kind = .bool) (hvalue : b.value = .list items)
      (htable : Column.isTable items = true) : Spills b .nestedValue

namespace Column

theorem ofOption_ne_nested (o : Option Column) : ofOption o ≠ .nested := by
  cases o <;> exact nofun

theorem fitBool_eq_nested {v : Value} (h : fitBool v = .nested) :
    ∃ items, v = .list items ∧ isTable items = true := by
  cases v with
  | list items =>
    refine ⟨items, rfl, ?_⟩
    by_cases htable : isTable items = true
    · exact htable
    · simp only [fitBool, htable] at h
      cases h
  | int n => exact absurd h (ofOption_ne_nested _)
  | derivedInt name n => exact absurd h (ofOption_ne_nested _)
  | enumerated name case n => exact absurd h (ofOption_ne_nested _)
  | float x => exact absurd h (ofOption_ne_nested _)
  | _ => cases h

theorem fit?_eq_nested {k : Kind} {v : Value} :
    fit? k v = some .nested ↔ k = .bool ∧ ∃ items, v = .list items ∧ isTable items = true := by
  constructor
  · intro h
    obtain ⟨empty, hempty, hfit⟩ := Option.map_eq_some_iff.1 h
    split at hfit
    · cases hfit
    · cases k with
      | bool => exact ⟨rfl, fitBool_eq_nested hfit⟩
      | unknown => cases hempty
      | missing => cases hempty
      | _ => exact absurd hfit (ofOption_ne_nested _)
  · rintro ⟨rfl, items, rfl, htable⟩
    have hfit : fitBool (.list items) = .nested := by simp only [fitBool, htable, if_true]
    exact congrArg some hfit

theorem typed_classOf (v : Value) :
    v.classOf.kind = .unknown ∨ (empty? v.classOf.kind).isSome = true := by
  cases v with
  | null => exact .inl rfl
  | absent => exact .inl rfl
  | date year month day => exact .inl rfl
  | list items => exact .inl rfl
  | action => exact .inl rfl
  | _ => exact .inr rfl

end Column

namespace Binding

variable {b : Binding} {f : Failure}

theorem Typed.kind_ne_unknown (hb : b.Typed) : b.kind ≠ .unknown := by
  intro hkind
  rw [Typed, hkind] at hb
  cases hb

theorem Typed.exists_fit (hb : b.Typed) : ∃ fit, Column.fit? b.kind b.value = some fit := by
  have hfit : (Column.fit? b.kind b.value).isSome = true := Option.isSome_map.trans hb
  exact Option.isSome_iff_exists.1 hfit

/-- The value of a member whose column is at fault is not too long to be shown. -/
theorem exists_shown_of_fault (hb : b.Typed) {fault : Fault}
    (h : b.column = .error (.fault fault)) : ∃ text, b.value.shown? = some text := by
  obtain ⟨fit, hfit⟩ := hb.exists_fit
  cases hshown : b.value.shown? with
  | some text => exact ⟨text, rfl⟩
  | none => cases fit <;> simp only [column, hfit, misfit, hshown] at h <;> cases h

/-- What spills is what the strict column fails over otherwise than by a fault. -/
theorem spills_iff (hb : b.Typed) :
    b.Spills f ↔ b.column = .error f ∧ ∀ fault, f ≠ .fault fault := by
  constructor
  · intro h
    cases h with
    | longInteger hfit hlong =>
      refine ⟨by simp only [column, hfit, misfit, hlong], fun fault h => ?_⟩
      cases h
    | nestedValue hkind hvalue htable =>
      have hfit := Column.fit?_eq_nested.2 ⟨hkind, _, hvalue, htable⟩
      refine ⟨by simp only [column, hfit], fun fault h => ?_⟩
      cases h
  · rintro ⟨h, hfault⟩
    obtain ⟨fit, hfit⟩ := hb.exists_fit
    cases fit with
    | fits c =>
      simp only [column, hfit] at h
      cases h
    | misfit =>
      cases hshown : b.value.shown? with
      | none =>
        simp only [column, hfit, misfit, hshown] at h
        cases h
        exact .longInteger hfit hshown
      | some text =>
        simp only [column, hfit, misfit, hshown] at h
        cases h
        exact absurd rfl (hfault _)
    | nested =>
      simp only [column, hfit] at h
      cases h
      obtain ⟨hkind, items, hvalue, htable⟩ := Column.fit?_eq_nested.1 hfit
      exact .nestedValue hkind hvalue htable

theorem firstFit_of_column {c : Column} (hkind : b.kind ≠ .unknown) (h : b.column = .ok c)
    (rest : List Binding) : firstFit (b :: rest) = .ok (some c) := by
  rw [firstFit, if_neg hkind, h]

theorem firstFit_of_fault {fault : Fault} (hkind : b.kind ≠ .unknown)
    (h : b.column = .error (.fault fault)) (rest : List Binding) :
    firstFit (b :: rest) = firstFit rest := by
  rw [firstFit, if_neg hkind, h]

theorem firstFit_of_failure (hkind : b.kind ≠ .unknown) (h : b.column = .error f)
    (hfault : ∀ fault, f ≠ .fault fault) (rest : List Binding) :
    firstFit (b :: rest) = .error f := by
  rw [firstFit, if_neg hkind, h]
  cases f with
  | fault fault => exact absurd rfl (hfault fault)
  | _ => rfl

/-- With the type of its own value a member at fault can be dealt with. -/
theorem exists_firstFit_retyped (hb : b.Typed) {fault : Fault}
    (h : b.column = .error (.fault fault)) : ∃ c, firstFit [b.retyped] = .ok c := by
  by_cases hkind : b.retyped.kind = .unknown
  · exact ⟨none, by rw [firstFit, if_pos hkind, firstFit]⟩
  have htyped : b.retyped.Typed := (Column.typed_classOf b.value).resolve_left hkind
  cases hcolumn : b.retyped.column with
  | ok c => exact ⟨some c, firstFit_of_column hkind hcolumn []⟩
  | error g =>
    by_cases hfault : ∃ fault, g = .fault fault
    · obtain ⟨fault, rfl⟩ := hfault
      exact ⟨none, firstFit_of_fault hkind hcolumn []⟩
    · have hspills := (spills_iff htyped).2 ⟨hcolumn, fun fault hg => hfault ⟨fault, hg⟩⟩
      cases hspills with
      | longInteger _ hlong =>
        obtain ⟨text, hshown⟩ := exists_shown_of_fault hb h
        cases hlong.symm.trans hshown
      | nestedValue hbool hvalue _ =>
        have hclass : b.value.classOf.kind = .bool := hbool
        rw [show b.value = .list _ from hvalue] at hclass
        cases hclass

/-- A member that is not held to its declared type fails only if its value spills. -/
theorem looseColumn_eq_error (hb : b.Typed) : b.looseColumn = .error f ↔ b.Spills f := by
  rw [spills_iff hb, looseColumn]
  have hkind := hb.kind_ne_unknown
  cases hcolumn : b.column with
  | ok c =>
    rw [firstFit_of_column hkind hcolumn]
    constructor
    · intro h
      cases h
    · rintro ⟨h, -⟩
      cases h
  | error g =>
    by_cases hfault : ∃ fault, g = .fault fault
    · obtain ⟨fault, rfl⟩ := hfault
      obtain ⟨c, hc⟩ := exists_firstFit_retyped hb hcolumn
      rw [firstFit_of_fault hkind hcolumn, hc]
      constructor
      · intro h
        cases h
      · rintro ⟨h, hnone⟩
        exact absurd (Except.error.inj h).symm (hnone fault)
    · have hnone : ∀ fault, g ≠ .fault fault := fun fault hg => hfault ⟨fault, hg⟩
      rw [firstFit_of_failure hkind hcolumn hnone]
      constructor
      · rintro ⟨⟩
        exact ⟨rfl, hnone⟩
      · rintro ⟨h, -⟩
        rw [Except.error.inj h]

end Binding

namespace Row

inductive Spoils (used : Option (List String)) (b : Binding) : Failure → Prop
  | strict {f : Failure} (hname : b.name ≠ resultName) (hused : isUsed used b.name = true)
      (h : b.column = .error f) : Spoils used b f
  | loose {f : Failure} (hname : b.name ≠ resultName) (hused : isUsed used b.name = false)
      (h : b.Spills f) : Spoils used b f

variable {used : Option (List String)} {bindings : List Binding} {b : Binding}
  {columns : List (String × Column)} {keepCase : Bool} {f : Failure}

theorem addBinding_eq_error (hb : b.Typed) :
    addBinding used columns b = .error f ↔ Spoils used b f := by
  by_cases hname : b.name = resultName
  · rw [addBinding_result hname]
    refine ⟨nofun, fun h => ?_⟩
    cases h with
    | strict hne => exact absurd hname hne
    | loose hne => exact absurd hname hne
  cases hused : isUsed used b.name with
  | true =>
    rw [addBinding, if_neg hname, if_pos hused]
    constructor
    · intro h
      cases hcolumn : b.column with
      | ok c =>
        rw [hcolumn] at h
        cases h
      | error g =>
        rw [hcolumn] at h
        cases h
        exact .strict hname hused hcolumn
    · intro h
      cases h with
      | strict _ _ hcolumn =>
        rw [hcolumn]
        rfl
      | loose _ hunused => cases hused.symm.trans hunused
  | false =>
    rw [addBinding_of_unused hname hused]
    constructor
    · intro h
      cases hloose : b.looseColumn with
      | ok c =>
        rw [hloose] at h
        cases c <;> cases h
      | error g =>
        rw [hloose] at h
        cases h
        exact .loose hname hused ((Binding.looseColumn_eq_error hb).1 hloose)
    · intro h
      cases h with
      | strict _ hstrict => cases hused.symm.trans hstrict
      | loose _ _ hspills =>
        rw [(Binding.looseColumn_eq_error hb).2 hspills]
        rfl

theorem placed_iff (hb : b.Typed) : Placed used b ↔ ∀ f, ¬ Spoils used b f := by
  have hadded : (∃ columns, addBinding used [] b = .ok columns) ↔ Placed used b :=
    exists_addBinding
  rw [← hadded]
  constructor
  · rintro ⟨columns, hadd⟩ f hspoils
    cases hadd.symm.trans ((addBinding_eq_error hb).2 hspoils)
  · intro h
    cases hadd : addBinding used [] b with
    | ok columns => exact ⟨columns, rfl⟩
    | error f => exact absurd ((addBinding_eq_error hb).1 hadd) (h f)

theorem exists_ofBindings_iff (htyped : ∀ b ∈ bindings, b.Typed) :
    (∃ row, ofBindings bindings keepCase used = .ok row) ↔
      ∀ b ∈ bindings, ∀ f, ¬ Spoils used b f := by
  rw [exists_ofBindings]
  exact forall₂_congr fun b hb => placed_iff (htyped b hb)

theorem exists_spoils_of_foldlM (htyped : ∀ b ∈ bindings, b.Typed)
    (h : bindings.foldlM (addBinding used) columns = .error f) :
    ∃ b ∈ bindings, Spoils used b f := by
  induction bindings generalizing columns with
  | nil => cases h
  | cons b rest ih =>
    obtain ⟨hb, hrest⟩ := List.forall_mem_cons.1 htyped
    rw [List.foldlM_cons] at h
    cases hadd : addBinding used columns b with
    | error g =>
      rw [hadd] at h
      cases h
      exact ⟨b, List.mem_cons_self, (addBinding_eq_error hb).1 hadd⟩
    | ok next =>
      rw [hadd] at h
      obtain ⟨c, hc, hspoils⟩ := ih hrest h
      exact ⟨c, List.mem_cons_of_mem b hc, hspoils⟩

theorem exists_spoils_of_error (htyped : ∀ b ∈ bindings, b.Typed)
    (h : ofBindings bindings keepCase used = .error f) : ∃ b ∈ bindings, Spoils used b f := by
  rw [ofBindings] at h
  cases hfold : bindings.foldlM (addBinding used) [] with
  | error g =>
    rw [hfold] at h
    cases h
    exact exists_spoils_of_foldlM htyped hfold
  | ok columns =>
    rw [hfold] at h
    cases h

end Row

end RuleCheck
