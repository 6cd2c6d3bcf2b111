import RuleCheck.Member.Chain
import RuleCheck.Member.Meaning
import RuleCheck.Proofs.Member.Table

/-!
# What decides a member

Of all that a hierarchy says of a public name one definition decides its member. A computed
one comes before all annotations, that of the most derived layer that has one. Without any the
annotation of the most derived layer decides, or the type that a record holds its field with.
-/

set_option autoImplicit false

namespace RuleCheck

open Layer

namespace Layer

variable {layer : Layer} {name : String} {p : Property}

theorem property?_eq_some_iff :
    layer.property? name = some p ↔ layer.attribute? name = some (.computed p) := by
  unfold property?
  split
  · next q hq => rw [hq, Option.some.injEq, Option.some.injEq, Attribute.computed.injEq]
  · next hother => exact ⟨nofun, fun h => absurd h (hother p)⟩

theorem mem_computed {entry : String × Property} :
    entry ∈ layer.computed ↔ (entry.1, Attribute.computed entry.2) ∈ layer.attributes := by
  obtain ⟨name, p⟩ := entry
  rw [computed, List.mem_filterMap]
  constructor
  · rintro ⟨⟨n, definition⟩, hmem, hfound⟩
    cases definition with
    | computed q =>
      cases hfound
      exact hmem
    | _ => cases hfound
  · exact fun hmem => ⟨_, hmem, rfl⟩

theorem nodup_computed (layer : Layer) : (entryNames layer.computed).Nodup := by
  have hnames := List.pairwise_map.1 layer.nodup_attributes
  refine List.pairwise_map.2 (hnames.filterMap _ fun a b hne c hc d hd => ?_)
  obtain ⟨n, definition⟩ := a
  obtain ⟨m, definition'⟩ := b
  cases definition with
  | computed p =>
    cases definition' with
    | computed q =>
      cases hc
      cases hd
      exact hne
    | _ => cases hd
  | _ => cases hc

/-- The computed members of a layer are what it computes under their names. -/
theorem lookup_computed : layer.computed.lookup name = layer.property? name := by
  ext p
  rw [property?_eq_some_iff]
  constructor
  · exact fun hp => lookup_of_mem layer.nodup_attributes (mem_computed.1 (mem_of_lookup hp))
  · exact fun hp => lookup_of_mem layer.nodup_computed (mem_computed.2 (mem_of_lookup hp))

theorem nodup_held (layer : Layer) : (entryNames layer.held).Nodup := by
  rw [held]
  split
  · rw [entryNames, List.map_map]
    exact layer.nodup_annotations
  · exact layer.nodup_annotations

end Layer

namespace Property

def descriptor (p : Property) (name : String) (hint : Hint) : Descriptor :=
  ⟨name, hint.unwrap.1, !p.hasSetter, hint.unwrap.2⟩

end Property

namespace Notes

variable {r : Resolver} {notes : Notes} {held : Hint} {fault : AnnotationFault}

theorem eq_other_of_alone? (halone : notes.alone? r held = .error fault) : fault = .other := by
  unfold alone? at halone
  split at halone
  · cases halone
  · split at halone
    · cases halone
    · cases halone
    · exact (Except.error.inj halone).symm
    · cases halone
  · cases halone

theorem mem_declarations {sections : List Notes} {entry : Notes × String × Hint} :
    entry ∈ declarations sections ↔ entry.1 ∈ sections ∧ entry.2 ∈ entry.1.entries := by
  rw [declarations, List.mem_flatMap]
  constructor
  · rintro ⟨notes, hnotes, hentry⟩
    obtain ⟨entry', hentry', rfl⟩ := List.mem_map.1 hentry
    exact ⟨hnotes, hentry'⟩
  · exact fun h => ⟨entry.1, h.1, List.mem_map.2 ⟨entry.2, h.2, rfl⟩⟩

/-- Types are told one by one unless evaluating some annotation ends in a graver fault. -/
theorem exists_alone?_eq_error {sections : List Notes}
    (hhints : separateHints r sections = .error fault) :
    ∃ notes ∈ sections, ∃ entry ∈ notes.entries, notes.alone? r entry.2 = .error fault := by
  obtain ⟨⟨notes, name, held⟩, hmem, found, hstep⟩ := exists_of_foldlM_eq_error hhints
  obtain ⟨hnotes, hentry⟩ := mem_declarations.1 hmem
  refine ⟨notes, hnotes, (name, held), hentry, ?_⟩
  cases halone : notes.alone? r held with
  | error fault' =>
    simp only [halone] at hstep
    exact congrArg Except.error (Except.error.inj hstep)
  | ok hint? =>
    simp only [halone] at hstep
    cases hint? <;> cases hstep

end Notes

namespace Hierarchy

open Notes (Hints)

def mostDerived? {α : Type} (h : Hierarchy) (said? : Layer → Option α) : Option α :=
  h.layers.reverse.findSome? said?

def property? (h : Hierarchy) (name : String) : Option Property :=
  h.mostDerived? fun layer => layer.property? name

def annotation? (h : Hierarchy) (name : String) : Option (Layer × Hint) :=
  h.mostDerived? fun layer => (layer.held.lookup name).map (layer, ·)

def hint? (h : Hierarchy) (layer : Layer) (held : Hint) : Option Hint :=
  match Notes.jointHints h.resolver h.sections with
  | .ok _ => (layer.notes.resolvedIn h.resolver layer.notes.joint held).toOption
  | .error _ => (layer.notes.alone? h.resolver held).toOption.join

def declaredHint? (h : Hierarchy) (name : String) : Option Hint :=
  (h.annotation? name).bind fun (layer, held) => h.hint? layer held

def annotated? (h : Hierarchy) (name : String) : Option (Hint × Bool) :=
  match h.fields.types.lookup name with
  | some held => some ((h.declaredHint? name).getD held, h.isFrozen)
  | none => (h.declaredHint? name).map (·, h.isNamedTuple)

def describe? (h : Hierarchy) (name : String) : Option Descriptor :=
  if isPublic name then
    match h.property? name with
    | some p => (h.propertyHint p).toOption.map (p.descriptor name)
    | none => (h.annotated? name).bind fun (hint, readOnly) => declaredMember? name hint readOnly
  else none

variable {h : Hierarchy} {name : String} {hints : Hints} {members : Members}

theorem map_mostDerived? {α β : Type} (f : α → β) (said? : Layer → Option α) :
    (h.mostDerived? said?).map f = h.mostDerived? fun layer => (said? layer).map f :=
  List.map_findSome? ..

theorem last?_propertiesOf : last? (fun entry => entry.1 == name) h.propertiesOf =
    (if isPublic name then h.property? name else none).map (name, ·) := by
  have hlayer (layer : Layer) :
      last? (fun entry => entry.1 == name) (layer.computed.filter fun entry => isPublic entry.1) =
        if isPublic name then (layer.property? name).map (name, ·) else none := by
    rw [last?_eq_lookup (layer.nodup_computed.sublist (List.filter_sublist.map _)),
      lookup_filter_name, lookup_computed]
    split <;> rfl
  rw [propertiesOf, last?_flatMap]
  simp only [hlayer]
  split
  · exact (map_mostDerived? _ _).symm
  · exact List.findSome?_eq_none_iff.2 fun _ _ => rfl

theorem last?_declarations :
    last? (fun entry => entry.2.1 == name) (Notes.declarations h.sections) =
      (h.annotation? name).map fun (layer, held) => (layer.notes, name, held) := by
  have hlayer (layer : Layer) :
      last? (fun entry : Notes × String × Hint => entry.2.1 == name)
        (layer.notes.entries.map fun entry => (layer.notes, entry)) =
        (layer.held.lookup name).map fun held => (layer.notes, name, held) := by
    rw [last?_map]
    show (last? (fun entry => entry.1 == name) layer.held).map _ = _
    rw [last?_eq_lookup layer.nodup_held, Option.map_map]
    rfl
  rw [Notes.declarations, sections, List.flatMap_map, last?_flatMap, annotation?, map_mostDerived?]
  simp only [hlayer, Option.map_map]
  rfl

theorem lookup_jointHints (hhints : Notes.jointHints h.resolver h.sections = .ok hints) :
    hints.lookup name = (h.annotation? name).bind fun (layer, held) =>
      (layer.notes.resolvedIn h.resolver layer.notes.joint held).toOption := by
  rw [lookup_foldlM (fun entry : Notes × String × Hint => entry.2.1)
    (fun entry => (entry.1.resolvedIn h.resolver entry.1.joint entry.2.2).map some) ?_ hhints,
    last?_declarations]
  · cases h.annotation? name with
    | none => rfl
    | some entry =>
      obtain ⟨layer, held⟩ := entry
      show ((layer.notes.resolvedIn h.resolver layer.notes.joint held).map some).toOption.join =
        (layer.notes.resolvedIn h.resolver layer.notes.joint held).toOption
      cases layer.notes.resolvedIn h.resolver layer.notes.joint held <;> rfl
  · rintro entries ⟨notes, n, held⟩ entries' hstep
    obtain ⟨hint, hhint, hassign⟩ := exists_of_bind_eq_ok hstep
    obtain rfl : assign n hint entries = entries' := Except.ok.inj hassign
    exact ⟨some hint, congrArg (Except.map some) hhint, fun n => lookup_assign n hint entries⟩

theorem lookup_separateHints (hhints : Notes.separateHints h.resolver h.sections = .ok hints) :
    hints.lookup name = (h.annotation? name).bind fun (layer, held) =>
      (layer.notes.alone? h.resolver held).toOption.join := by
  rw [lookup_foldlM (fun entry : Notes × String × Hint => entry.2.1)
    (fun entry => entry.1.alone? h.resolver entry.2.2) ?_ hhints, last?_declarations]
  · cases h.annotation? name <;> rfl
  · rintro entries ⟨notes, n, held⟩ entries' hstep
    obtain ⟨hint, hhint, hstep⟩ := exists_of_bind_eq_ok hstep
    refine ⟨hint, hhint, fun m => ?_⟩
    cases hint with
    | none =>
      obtain rfl : withdraw n entries = entries' := Except.ok.inj hstep
      split
      · next hm => rw [hm, lookup_withdraw_self]
      · next hm => exact lookup_withdraw_ne hm entries
    | some hint =>
      obtain rfl : assign n hint (withdraw n entries) = entries' := Except.ok.inj hstep
      rw [lookup_assign]
      split
      · rfl
      · next hm => exact lookup_withdraw_ne hm entries

theorem hints_cases (hhints : h.hints = .ok hints) :
    Notes.jointHints h.resolver h.sections = .ok hints ∨
      Notes.jointHints h.resolver h.sections = .error .unresolved ∧
        Notes.separateHints h.resolver h.sections = .ok hints := by
  have hfound : Notes.hints h.resolver h.sections = .ok hints := by
    rw [Hierarchy.hints] at hhints
    cases hfound : Notes.hints h.resolver h.sections with
    | ok found => exact congrArg Except.ok (Except.ok.inj (hfound ▸ hhints))
    | error fault => cases hfound ▸ hhints
  unfold Notes.hints at hfound
  split at hfound
  · next hjoint => exact .inr ⟨hjoint, hfound⟩
  · exact .inl hfound

theorem lookup_hints (hhints : h.hints = .ok hints) :
    hints.lookup name = h.declaredHint? name := by
  unfold declaredHint? hint?
  rcases hints_cases hhints with hjoint | ⟨hjoint, hseparate⟩
  · rw [hjoint]
    exact lookup_jointHints hjoint
  · rw [hjoint]
    exact lookup_separateHints hseparate

theorem nodup_hints (hhints : h.hints = .ok hints) : (entryNames hints).Nodup := by
  rcases hints_cases hhints with hjoint | ⟨-, hseparate⟩
  · refine foldlM_invariant (P := fun hints : Hints => (entryNames hints).Nodup) (c := []) ?_
      List.nodup_nil hjoint
    rintro entries ⟨notes, n, held⟩ entries' hnodup hstep
    obtain ⟨hint, -, hassign⟩ := exists_of_bind_eq_ok hstep
    obtain rfl : assign n hint entries = entries' := Except.ok.inj hassign
    exact nodup_entryNames_assign _ _ hnodup
  · refine foldlM_invariant (P := fun hints : Hints => (entryNames hints).Nodup) (c := []) ?_
      List.nodup_nil hseparate
    rintro entries ⟨notes, n, held⟩ entries' hnodup hstep
    obtain ⟨hint, -, hstep⟩ := exists_of_bind_eq_ok hstep
    have hrest : (entryNames (withdraw n entries)).Nodup := nodup_entryNames_withdraw hnodup
    cases hint with
    | none => exact Except.ok.inj hstep ▸ hrest
    | some hint => exact Except.ok.inj hstep ▸ nodup_entryNames_assign _ _ hrest

/-- A field of a record has its declared type, or the one it is held with. -/
theorem lookup_recordHints : (h.recordHints hints).lookup name =
    (h.fields.types.lookup name).map fun held => (hints.lookup name).getD held :=
  lookup_map_entry (fun name held => (hints.lookup name).getD held) h.fields.types

theorem nodup_recordHints : (entryNames (h.recordHints hints)).Nodup := by
  rw [recordHints, entryNames, List.map_map]
  exact h.fields.nodup_types

section

variable {hint : Hint} {readOnly : Bool} {d : Descriptor}

theorem name_declaredMember? (hd : declaredMember? name hint readOnly = some d) :
    d.name = name := by
  unfold declaredMember? at hd
  split at hd
  · cases hd
  · exact Option.some.inj hd ▸ rfl
  · exact Option.some.inj hd ▸ rfl

/-- Whether a type gives a member does not depend on whether that could be changed. -/
theorem declaredMember?_eq_none (readOnly' : Bool)
    (hnone : declaredMember? name hint readOnly = none) :
    declaredMember? name hint readOnly' = none := by
  unfold declaredMember? at hnone ⊢
  split at hnone
  · rfl
  · cases hnone
  · cases hnone

/-- A member stays if it is there, and else gets what its type gives it. -/
theorem lookup_addDeclared (n : String) : (addDeclared readOnly members (name, hint)).lookup n =
    (members.lookup n).or
      (if n = name ∧ isPublic n = true then declaredMember? n hint readOnly else none) := by
  unfold addDeclared
  by_cases hn : n = name
  · subst hn
    cases hlookup : members.lookup n with
    | some d => simp [hlookup]
    | none =>
      cases hpublic : isPublic n with
      | false => simp [hlookup]
      | true => cases declaredMember? n hint readOnly <;> simp [hlookup, lookup_assign]
  · have hother : ¬ (n = name ∧ isPublic n = true) := fun h => hn h.1
    rw [if_neg hother, Option.or_none]
    split
    · rfl
    · cases declaredMember? name hint readOnly <;> simp [lookup_assign, hn]

theorem lookup_declared (hnodup : (entryNames hints).Nodup) (n : String) :
    (hints.foldl (addDeclared readOnly) members).lookup n =
      (members.lookup n).or (if isPublic n then (hints.lookup n).bind
        fun hint => declaredMember? n hint readOnly else none) := by
  induction hints generalizing members with
  | nil => simp
  | cons entry rest ih =>
    obtain ⟨m, hint⟩ := entry
    obtain ⟨hnew, hrest⟩ := List.nodup_cons.1 hnodup
    rw [List.foldl_cons, ih hrest, lookup_addDeclared, Option.or_assoc, List.lookup_cons]
    by_cases hn : n = m
    · subst hn
      have habsent : rest.lookup n = none := by
        rw [List.lookup_eq_none_iff]
        exact fun entry hentry => bne_iff_ne.2 fun hname =>
          hnew (List.mem_map.2 ⟨entry, hentry, hname.symm⟩)
      cases isPublic n <;> simp [habsent]
    · rw [if_neg (fun h => hn h.1), Option.none_or, beq_false_of_ne hn]

theorem keyed_addDeclared (hmembers : Keyed Descriptor.name members) (entry : String × Hint) :
    Keyed Descriptor.name (addDeclared readOnly members entry) := by
  unfold addDeclared
  split
  · exact hmembers
  · cases hd : declaredMember? entry.1 entry.2 readOnly with
    | none => exact hmembers
    | some d => exact hmembers.assign (name_declaredMember? hd)

end

theorem exists_propertyHint_iff (members : Members) {entry : String × Property} :
    (∃ members', h.addComputed members entry = .ok members') ↔
      ∃ hint, h.propertyHint entry.2 = .ok hint := by
  constructor
  · rintro ⟨members', hadd⟩
    obtain ⟨hint, hhint, -⟩ := exists_of_bind_eq_ok hadd
    exact ⟨hint, hhint⟩
  · rintro ⟨hint, hhint⟩
    refine ⟨assign entry.1 (entry.2.descriptor entry.1 hint) members, ?_⟩
    rw [addComputed, hhint]
    rfl

/-- All computed members can be added just if each of their types can be told. -/
theorem exists_foldlM_addComputed_iff (members : Members) {entries : List (String × Property)} :
    (∃ all, entries.foldlM h.addComputed members = .ok all) ↔
      ∀ entry ∈ entries, ∃ hint, h.propertyHint entry.2 = .ok hint := by
  induction entries generalizing members with
  | nil => exact ⟨fun _ => nofun, fun _ => ⟨members, rfl⟩⟩
  | cons entry rest ih =>
    rw [List.forall_mem_cons, ← exists_propertyHint_iff members]
    constructor
    · rintro ⟨all, hall⟩
      rw [List.foldlM_cons] at hall
      obtain ⟨middle, hadd, hall⟩ := exists_of_bind_eq_ok hall
      exact ⟨⟨middle, hadd⟩, (ih middle).1 ⟨all, hall⟩⟩
    · rintro ⟨⟨middle, hadd⟩, hrest⟩
      obtain ⟨all, hall⟩ := (ih middle).2 hrest
      exact ⟨all, by rw [List.foldlM_cons, hadd]; exact hall⟩

theorem lookup_computed {all : Members} (hall : h.propertiesOf.foldlM h.addComputed members =
    .ok all) : all.lookup name = match (if isPublic name then h.property? name else none) with
      | some p => (h.propertyHint p).toOption.map (p.descriptor name)
      | none => members.lookup name := by
  rw [lookup_foldlM (fun entry => entry.1) (fun entry =>
    (h.propertyHint entry.2).map fun hint => some (entry.2.descriptor entry.1 hint)) ?_ hall,
    last?_propertiesOf]
  · cases (if isPublic name then h.property? name else none) with
    | none => rfl
    | some p =>
      show ((h.propertyHint p).map fun hint => some (p.descriptor name hint)).toOption.join =
          (h.propertyHint p).toOption.map (p.descriptor name)
      cases h.propertyHint p <;> rfl
  · rintro members ⟨n, p⟩ members' hstep
    obtain ⟨hint, hhint, hassign⟩ := exists_of_bind_eq_ok hstep
    obtain rfl : assign n (p.descriptor n hint) members = members' := Except.ok.inj hassign
    exact ⟨some (p.descriptor n hint), congrArg (Except.map _) hhint,
      fun m => lookup_assign m _ members⟩

theorem keyed_computed {all : Members} (hmembers : Keyed Descriptor.name members)
    (hall : h.propertiesOf.foldlM h.addComputed members = .ok all) :
    Keyed Descriptor.name all := by
  refine foldlM_invariant (P := Keyed Descriptor.name) ?_ hmembers hall
  rintro members ⟨n, p⟩ members' hmembers hstep
  obtain ⟨hint, -, hassign⟩ := exists_of_bind_eq_ok hstep
  obtain rfl : assign n (p.descriptor n hint) members = members' := Except.ok.inj hassign
  exact hmembers.assign rfl

def declaredMembers (h : Hierarchy) (hints : Hints) : Members :=
  hints.foldl (addDeclared h.isNamedTuple) ((h.recordHints hints).foldl (addDeclared h.isFrozen) [])

theorem keyed_declaredMembers : Keyed Descriptor.name (h.declaredMembers hints) := by
  have hfields : Keyed Descriptor.name ((h.recordHints hints).foldl (addDeclared h.isFrozen) []) :=
    List.foldlRecOn _ _ Keyed.nil fun _ hkeyed entry _ => keyed_addDeclared hkeyed entry
  exact List.foldlRecOn _ _ hfields fun _ hkeyed entry _ => keyed_addDeclared hkeyed entry

theorem lookup_declaredMembers (hhints : h.hints = .ok hints) :
    (h.declaredMembers hints).lookup name = if isPublic name then
      (h.annotated? name).bind fun (hint, readOnly) => declaredMember? name hint readOnly
    else none := by
  rw [declaredMembers, lookup_declared (nodup_hints hhints), lookup_declared nodup_recordHints,
    lookup_recordHints, lookup_hints hhints, annotated?]
  cases isPublic name with
  | false => rfl
  | true =>
    cases h.fields.types.lookup name with
    | none => cases h.declaredHint? name <;> rfl
    | some held =>
      -- A declared type that gives no member as a field of a record gives none later either.
      cases h.declaredHint? name with
      | none => simp
      | some hint =>
        cases hfield : declaredMember? name hint h.isFrozen with
        | some d => simp [hfield]
        | none => simp [hfield, declaredMember?_eq_none h.isNamedTuple hfield]

theorem exists_members_iff : (∃ ds, h.members = .ok ds) ↔ (∃ hints, h.hints = .ok hints) ∧
    ∀ entry ∈ h.propertiesOf, ∃ hint, h.propertyHint entry.2 = .ok hint := by
  constructor
  · rintro ⟨ds, hds⟩
    obtain ⟨hints, hhints, hmembers⟩ := exists_of_bind_eq_ok hds
    obtain ⟨all, hall, -⟩ := exists_of_bind_eq_ok hmembers
    exact ⟨⟨hints, hhints⟩, (exists_foldlM_addComputed_iff _).1 ⟨all, hall⟩⟩
  · rintro ⟨⟨hints, hhints⟩, hproperties⟩
    obtain ⟨all, hall⟩ := (exists_foldlM_addComputed_iff (h.declaredMembers hints)).2 hproperties
    refine ⟨all.map Prod.snd, ?_⟩
    rw [members, hhints]
    show (h.propertiesOf.foldlM h.addComputed (h.declaredMembers hints) >>= _) = _
    rw [hall]
    rfl

/-- The members of a class are those that its names are described by. -/
theorem mem_members_iff {ds : List Descriptor} (hds : h.members = .ok ds) {d : Descriptor} :
    d ∈ ds ↔ h.describe? d.name = some d := by
  obtain ⟨hints, hhints, hmembers⟩ := exists_of_bind_eq_ok hds
  obtain ⟨all, hall, hmembers⟩ := exists_of_bind_eq_ok hmembers
  obtain rfl : all.map Prod.snd = ds := Except.ok.inj hmembers
  have hlookup : all.lookup d.name = h.describe? d.name := by
    rw [lookup_computed hall, describe?]
    show (match (if isPublic d.name then h.property? d.name else none) with
      | some p => (h.propertyHint p).toOption.map (p.descriptor d.name)
      | none => (h.declaredMembers hints).lookup d.name) = _
    rw [lookup_declaredMembers hhints]
    cases isPublic d.name <;> rfl
  rw [(keyed_computed keyed_declaredMembers hall).mem_iff, hlookup]

theorem property?_eq_some_iff {p : Property} :
    h.property? name = some p ↔ ∃ before layer behind, h.layers = before ++ layer :: behind ∧
      layer.attribute? name = some (.computed p) ∧
        ∀ derived ∈ behind, ∀ q, derived.attribute? name ≠ some (.computed q) := by
  have hlayer : ∀ derived : Layer, derived.property? name = none ↔
      ∀ q, derived.attribute? name ≠ some (.computed q) := by
    intro derived
    rw [Option.eq_none_iff_forall_ne_some]
    exact forall_congr' fun q => not_congr Layer.property?_eq_some_iff
  rw [property?, mostDerived?, List.findSome?_eq_some_iff]
  constructor
  · rintro ⟨behind, layer, before, hlayers, hfound, hnone⟩
    refine ⟨before.reverse, layer, behind.reverse, ?_, Layer.property?_eq_some_iff.1 hfound, ?_⟩
    · rw [← List.reverse_reverse h.layers, hlayers]
      simp
    · exact fun derived hderived => (hlayer derived).1 (hnone derived (List.mem_reverse.1 hderived))
  · rintro ⟨before, layer, behind, hlayers, hattribute, hnone⟩
    refine ⟨behind.reverse, layer, before.reverse, by simp [hlayers],
      Layer.property?_eq_some_iff.2 hattribute, ?_⟩
    exact fun derived hderived => (hlayer derived).2 (hnone derived (List.mem_reverse.1 hderived))

theorem property?_eq_none_iff : h.property? name = none ↔
    ∀ layer ∈ h.layers, ∀ p, layer.attribute? name ≠ some (.computed p) := by
  rw [property?, mostDerived?, List.findSome?_eq_none_iff]
  constructor
  · intro hnone layer hlayer p hp
    cases (hnone layer (List.mem_reverse.2 hlayer)).symm.trans (Layer.property?_eq_some_iff.2 hp)
  · intro hnone layer hlayer
    rw [Option.eq_none_iff_forall_ne_some]
    exact fun p hp => hnone layer (List.mem_reverse.1 hlayer) p (Layer.property?_eq_some_iff.1 hp)

/-- A computed member that look-up finds is the one of the most derived layer. -/
theorem property?_of_attribute? {p : Property} (hp : h.attribute? name = some (.computed p)) :
    h.property? name = some p := by
  obtain ⟨behind, layer, before, hlayers, hlayer, hnone⟩ := List.findSome?_eq_some_iff.1 hp
  refine property?_eq_some_iff.2 ⟨before.reverse, layer, behind.reverse, ?_, hlayer, ?_⟩
  · rw [← List.reverse_reverse h.layers, hlayers]
    simp
  · intro derived hderived q hq
    cases (hnone derived (List.mem_reverse.1 hderived)).symm.trans hq

section

variable {ds : List Descriptor} {p : Property}

theorem mem_members_of_property? (hds : h.members = .ok ds) (hpublic : isPublic name = true)
    (hp : h.property? name = some p) : ∃ hint, h.propertyHint p = .ok hint ∧
      ∀ d, d ∈ ds ∧ d.name = name ↔ d = p.descriptor name hint := by
  have hlast : last? (fun entry => entry.1 == name) h.propertiesOf = some (name, p) := by
    rw [last?_propertiesOf, if_pos hpublic, hp]
    rfl
  have hmem : (name, p) ∈ h.propertiesOf :=
    List.mem_reverse.1 (List.mem_of_find?_eq_some hlast)
  obtain ⟨hint, hhint⟩ := (exists_members_iff.1 ⟨ds, hds⟩).2 _ hmem
  have hdescribe : h.describe? name = some (p.descriptor name hint) := by
    simp [describe?, hpublic, hp, hhint, Except.toOption]
  refine ⟨hint, hhint, fun d => ⟨?_, ?_⟩⟩
  · rintro ⟨hd, rfl⟩
    rw [mem_members_iff hds, hdescribe] at hd
    exact (Option.some.inj hd).symm
  · rintro rfl
    exact ⟨(mem_members_iff hds).2 hdescribe, rfl⟩

theorem describe?_eq_some_iff {d : Descriptor} (hnone : h.property? name = none) :
    h.describe? name = some d ↔ isPublic name = true ∧ ∃ hint readOnly,
      h.annotated? name = some (hint, readOnly) ∧ declaredMember? name hint readOnly = some d := by
  rw [describe?, hnone]
  cases isPublic name with
  | false => exact ⟨nofun, fun h => nomatch h.1⟩
  | true =>
    constructor
    · intro hd
      obtain ⟨⟨hint, readOnly⟩, hannotated, hmember⟩ := Option.bind_eq_some_iff.1 hd
      exact ⟨rfl, hint, readOnly, hannotated, hmember⟩
    · rintro ⟨-, hint, readOnly, hannotated, hmember⟩
      exact Option.bind_eq_some_iff.2 ⟨(hint, readOnly), hannotated, hmember⟩

theorem mem_members_of_annotated (hds : h.members = .ok ds) (hpublic : isPublic name = true)
    (hnone : h.property? name = none) (d : Descriptor) : d ∈ ds ∧ d.name = name ↔
      ∃ hint readOnly, h.annotated? name = some (hint, readOnly) ∧
        declaredMember? name hint readOnly = some d := by
  constructor
  · rintro ⟨hd, rfl⟩
    exact ((describe?_eq_some_iff hnone).1 ((mem_members_iff hds).1 hd)).2
  · rintro ⟨hint, readOnly, hannotated, hmember⟩
    obtain rfl := name_declaredMember? hmember
    refine ⟨(mem_members_iff hds).2 ?_, rfl⟩
    exact (describe?_eq_some_iff hnone).2 ⟨hpublic, hint, readOnly, hannotated, hmember⟩

end

/-- If look-up finds a computed member under a name, then it is the member of that name. The
computed member of the most derived layer that has one is the member even if look-up finds
something else, and only without any does the annotation decide. -/
theorem members_decided {ds : List Descriptor} (hds : h.members = .ok ds)
    (hpublic : isPublic name = true) :
    (∀ p, h.attribute? name = some (.computed p) → ∃ layer ∈ h.layers,
      layer.attribute? name = some (.computed p) ∧ ∃ hint, h.propertyHint p = .ok hint ∧
        ∀ d, d ∈ ds ∧ d.name = name ↔ d = p.descriptor name hint) ∧
    (∀ before layer behind p, h.layers = before ++ layer :: behind →
      layer.attribute? name = some (.computed p) →
      (∀ derived ∈ behind, ∀ q, derived.attribute? name ≠ some (.computed q)) →
      ∃ hint, h.propertyHint p = .ok hint ∧
        ∀ d, d ∈ ds ∧ d.name = name ↔ d = p.descriptor name hint) ∧
    ((∀ layer ∈ h.layers, ∀ p, layer.attribute? name ≠ some (.computed p)) →
      ∀ d, d ∈ ds ∧ d.name = name ↔ ∃ hint readOnly,
        h.annotated? name = some (hint, readOnly) ∧
          declaredMember? name hint readOnly = some d) := by
  refine ⟨?_, ?_, ?_⟩
  · intro p hp
    have hproperty := property?_of_attribute? hp
    obtain ⟨before, layer, behind, hlayers, hattribute, -⟩ := property?_eq_some_iff.1 hproperty
    have hmem : layer ∈ h.layers := hlayers ▸ List.mem_append_right _ List.mem_cons_self
    exact ⟨layer, hmem, hattribute, mem_members_of_property? hds hpublic hproperty⟩
  · intro before layer behind p hlayers hattribute hnone
    have hproperty := property?_eq_some_iff.2 ⟨before, layer, behind, hlayers, hattribute, hnone⟩
    exact mem_members_of_property? hds hpublic hproperty
  · exact fun hnone => mem_members_of_annotated hds hpublic (property?_eq_none_iff.2 hnone)

def plainResolver : Resolver := .plain [] (fun _ => .error .unreadable) 9

/-- A plain class over two frozen records, of which look-up finds the fields of the first. -/
def severalBases : Hierarchy :=
  ⟨plainResolver, [⟨"D", .frozenRecord, false, .standard, [("y", .unread "int")], [], by decide,
      by decide⟩, ⟨"A", .frozenRecord, false, .standard, [("x", .unread "int")], [], by decide,
      by decide⟩, ⟨"C", .plain, false, .standard, [], [], by decide, by decide⟩],
    ⟨[("x", .unread "int")], ["x", "y"], by decide⟩⟩

example : severalBases.members =
    .ok [⟨"x", .single .int, true, false⟩, ⟨"y", .single .int, false, false⟩] := rfl

def staleProperty : Property :=
  ⟨some ⟨[("return", .single .int)], .standard, .standard⟩, .int 1, false⟩

def ownProperty : Property :=
  ⟨some ⟨[("return", .unread "Optional[float]")], .standard, .standard⟩, .null, true⟩

def staleBase : Layer :=
  ⟨"A", .plain, false, .standard, [("z", .unread "bool")],
    [("x", .computed staleProperty), ("y", .computed ownProperty)], by decide, by decide⟩

def staleDerived : Layer :=
  ⟨"B", .plain, false, .standard, [("x", .single .text)], [("x", .constant (.text "s"))], by decide,
    by decide⟩

def stale : Hierarchy := .ofChain plainResolver [staleBase, staleDerived]

def staleMembers : List Descriptor :=
  [⟨"z", .single .bool, false, false⟩, ⟨"x", .single .int, true, false⟩,
    ⟨"y", .single .float, false, true⟩]

theorem members_decided_apply :
    (∃ layer ∈ stale.layers, layer.attribute? "y" = some (.computed ownProperty) ∧
      ∃ hint, stale.propertyHint ownProperty = .ok hint ∧
        ∀ d, d ∈ staleMembers ∧ d.name = "y" ↔ d = ownProperty.descriptor "y" hint) ∧
    (∃ hint, stale.propertyHint staleProperty = .ok hint ∧
      ∀ d, d ∈ staleMembers ∧ d.name = "x" ↔ d = staleProperty.descriptor "x" hint) ∧
    (∀ d, d ∈ staleMembers ∧ d.name = "z" ↔ ∃ hint readOnly,
      stale.annotated? "z" = some (hint, readOnly) ∧
        declaredMember? "z" hint readOnly = some d) := by
  have hmembers : stale.members = .ok staleMembers := rfl
  refine ⟨(members_decided hmembers rfl).1 ownProperty rfl, ?_, ?_⟩
  · refine (members_decided hmembers rfl).2.1 [] staleBase [staleDerived] staleProperty rfl rfl ?_
    intro derived hderived q hq
    obtain rfl := List.mem_singleton.1 hderived
    have hconstant : staleDerived.attribute? "x" = some (.constant (.text "s")) := rfl
    cases hconstant.symm.trans hq
  · refine (members_decided hmembers rfl).2.2 ?_
    intro layer hlayer p hp
    have hnone : ∀ layer ∈ stale.layers, layer.attribute? "z" = none := by
      rintro layer (_ | ⟨_, _ | ⟨_, ⟨⟩⟩⟩) <;> rfl
    cases (hnone layer hlayer).symm.trans hp

/-- Look-up finds a text that the derived class annotates, and yet the member is the computed
one of its base, an integer that can not be changed. -/
theorem members_stale : stale.attribute? "x" = some (.constant (.text "s")) ∧
    stale.annotated? "x" = some (.single .text, false) ∧ stale.members = .ok staleMembers ∧
    (⟨"x", .single .int, true, false⟩ : Descriptor) ∈ staleMembers :=
  ⟨rfl, rfl, rfl, .tail _ (.head _)⟩

end Hierarchy

end RuleCheck
