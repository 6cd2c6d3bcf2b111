import RuleCheck.Proofs.Member.Chain
import RuleCheck.Proofs.Member.Closed

/-!
# One more annotation

One annotation that does not resolve is enough for all types of a class to be taken one by
one, and the names of the class then come before those of its module. The member it declares is of no
use to rules. The others stay as they were if their names stand for the same and nothing is left to
resolve in their types, and else they lose what resolving all types at once does.
-/

set_option autoImplicit false

namespace RuleCheck

open Layer

namespace Hint

variable {r : Resolver} {names names' : Names} {held : Hint}

def Agrees (r : Resolver) (names names' : Names) (held : Hint) : Prop :=
  ∀ text, held = unread text → names.Agree (r.uses text) (r.usesInside text) names'

theorem Agrees.written (h : held.Agrees r names names') :
    held.written r names = held.written r names' := by
  cases held with
  | unread text => exact r.evaluate_congr (h text rfl)
  | _ => rfl

theorem resolve_congr (h : ∀ text, r.refer names text = r.refer names' text) (depth : Nat) :
    resolve r names depth = resolve r names' depth := by
  induction depth with
  | zero =>
    funext seen isWhole hint
    rw [resolve, resolve]
  | succ depth ih =>
    funext seen isWhole hint
    cases hint with
    | forward text => rw [resolve, resolve, h text, ih]
    | final inner => cases inner <;> simp only [resolve, ih]
    | shared inner => cases inner <;> simp only [resolve, ih]
    | _ => simp only [resolve, ih]

end Hint

namespace Attribute

/-- The places of a tuple move with every field that is added. -/
def unplaced : Attribute → Attribute
  | item _ => item 0
  | a => a

theorem meaning_unplaced (a : Attribute) : a.unplaced.meaning = a.meaning := by
  cases a <;> rfl

theorem unplaced_eq_computed_iff {a : Attribute} {p : Property} :
    a.unplaced = computed p ↔ a = computed p := by
  cases a with
  | item place => exact ⟨nofun, nofun⟩
  | _ => rfl

end Attribute

namespace Layer

variable {layer : Layer}

def hold (layer : Layer) (entry : String × Hint) : String × Hint :=
  (entry.1, if layer.isNamedTuple then entry.2.asType else entry.2)

theorem held_eq (layer : Layer) : layer.held = layer.annotations.map layer.hold := by
  unfold held hold
  split
  · rfl
  · exact (List.map_id' _).symm

theorem hold_congr {layer' : Layer} (hstyle : layer'.style = layer.style) :
    layer'.hold = layer.hold := by
  funext entry
  rw [hold, hold, isNamedTuple, isNamedTuple, hstyle]

/-- One more annotation hides none of another name. -/
theorem lookup_held_of_added {layer' : Layer} {first more : List (String × Hint)}
    {added : String × Hint} (hold : layer.annotations = first ++ more)
    (hnew : layer'.annotations = first ++ added :: more) (hstyle : layer'.style = layer.style)
    {name : String} (hname : name ≠ added.1) :
    layer'.held.lookup name = layer.held.lookup name := by
  have hadded : (name == (layer.hold added).1) = false := beq_false_of_ne hname
  rw [held_eq, held_eq, hold_congr hstyle, hold, hnew, List.map_append, List.map_append,
    List.map_cons, List.lookup_append, List.lookup_append, List.lookup_cons, hadded]

theorem lookup_own (name : String) : layer.own.lookup name =
    ((layer.attribute? name).map Attribute.unplaced).map Attribute.meaning := by
  rw [Option.map_map, show Attribute.meaning ∘ Attribute.unplaced = Attribute.meaning from
    funext Attribute.meaning_unplaced]
  exact lookup_map_entry (fun _ => Attribute.meaning) layer.attributes

theorem property?_congr {layer' : Layer} {name : String}
    (h : (layer'.attribute? name).map Attribute.unplaced =
      (layer.attribute? name).map Attribute.unplaced) :
    layer'.property? name = layer.property? name := by
  have hproperty (layer : Layer) (p : Property) : layer.property? name = some p ↔
      (layer.attribute? name).map Attribute.unplaced = some (.computed p) := by
    rw [property?_eq_some_iff, Option.map_eq_some_iff]
    simp only [Attribute.unplaced_eq_computed_iff, exists_eq_right]
  ext p
  rw [hproperty, hproperty, h]

end Layer

namespace Hierarchy

variable {h : Hierarchy} {name : String}

theorem isFrozen_eq (h : Hierarchy) : h.isFrozen = (h.mostDerived? fun layer =>
    if layer.style.isRecord then some (layer.style == .frozenRecord) else none).getD false := by
  have hfound : (h.mostDerived? fun layer =>
      if layer.style.isRecord then some (layer.style == .frozenRecord) else none) =
        (last? (·.style.isRecord) h.layers).map fun layer => layer.style == .frozenRecord := by
    rw [last?, List.find?_eq_findSome?_guard, List.map_findSome?, Hierarchy.mostDerived?]
    congr 1
    funext layer
    cases hrecord : layer.style.isRecord <;> simp [Option.guard, hrecord]
  rw [hfound, Hierarchy.isFrozen]
  cases last? (·.style.isRecord) h.layers <;> rfl

theorem mem_of_annotation? {layer : Layer} {held : Hint}
    (hnoted : h.annotation? name = some (layer, held)) :
    layer ∈ h.layers ∧ (name, held) ∈ layer.held := by
  obtain ⟨found, hfound, hpair⟩ := List.exists_of_findSome?_eq_some hnoted
  obtain ⟨held', hheld, hpair⟩ := Option.map_eq_some_iff.1 hpair
  obtain ⟨rfl, rfl⟩ : found = layer ∧ held' = held := Prod.mk.inj hpair
  exact ⟨List.mem_reverse.1 hfound, mem_of_lookup hheld⟩

theorem declaredHint?_of_annotated? {hint : Hint} {readOnly : Bool}
    (hannotated : h.annotated? name = some (hint, readOnly)) :
    h.declaredHint? name = some hint ∨
      h.declaredHint? name = none ∧ h.fields.types.lookup name = some hint := by
  unfold annotated? at hannotated
  cases hdeclared : h.declaredHint? name with
  | some declared =>
    rw [hdeclared] at hannotated
    split at hannotated <;>
      exact .inl (congrArg some (Prod.mk.inj (Option.some.inj hannotated)).1)
  | none =>
    rw [hdeclared] at hannotated
    split at hannotated
    · next held hheld =>
      exact .inr ⟨rfl, hheld.trans (congrArg some (Prod.mk.inj (Option.some.inj hannotated)).1)⟩
    · cases hannotated

theorem isKnown_of_isEligible {hint : Hint} {readOnly : Bool} {d : Descriptor}
    (hd : declaredMember? name hint readOnly = some d) (heligible : d.isEligible = true) :
    hint.IsKnown := by
  unfold declaredMember? at hd
  unfold Descriptor.isEligible at heligible
  split at hd
  · cases hd
  · obtain rfl := Option.some.inj hd
    cases heligible
  · obtain rfl := Option.some.inj hd
    exact bne_iff_ne.1 (Bool.and_eq_true_iff.1 heligible).2

/-- The names that the annotations of a layer look up. -/
def namesOf (h : Hierarchy) (layer : Layer) : Names :=
  match Notes.jointHints h.resolver h.sections with
  | .ok _ => layer.notes.joint
  | .error _ => layer.notes.alone

def fault? (r : Resolver) (entry : Notes × String × Hint) : Option AnnotationFault :=
  match entry.1.resolvedIn r entry.1.joint entry.2.2 with
  | .ok _ => none
  | .error fault => some fault

/-- All types at once have the fault of the first annotation that has one. -/
theorem jointHints_eq_error_iff {r : Resolver} {sections : List Notes} {fault : AnnotationFault} :
    Notes.jointHints r sections = .error fault ↔
      (Notes.declarations sections).findSome? (fault? r) = some fault := by
  refine foldlM_eq_error_iff (fault? r) ?_
  rintro hints ⟨notes, name, held⟩
  unfold fault?
  cases hresolved : notes.resolvedIn r notes.joint held with
  | ok hint => exact .inl ⟨assign name hint hints, by simp only [hresolved]; rfl, rfl⟩
  | error fault => exact .inr ⟨fault, by simp only [hresolved]; rfl, rfl⟩

theorem exists_resolvedIn {r : Resolver} {sections : List Notes} {hints : Notes.Hints}
    {entry : Notes × String × Hint} (hjoint : Notes.jointHints r sections = .ok hints)
    (hmem : entry ∈ Notes.declarations sections) :
    ∃ hint, entry.1.resolvedIn r entry.1.joint entry.2.2 = .ok hint := by
  cases hresolved : entry.1.resolvedIn r entry.1.joint entry.2.2 with
  | ok hint => exact ⟨hint, rfl⟩
  | error fault =>
    cases hfirst : (Notes.declarations sections).findSome? (fault? r) with
    | none =>
      have hnone := List.findSome?_eq_none_iff.1 hfirst _ hmem
      simp only [fault?, hresolved] at hnone
      cases hnone
    | some first => cases hjoint.symm.trans (jointHints_eq_error_iff.2 hfirst)

theorem namesOf_of_apart {layer : Layer}
    (hjoint : Notes.jointHints h.resolver h.sections = .error .unresolved) :
    h.namesOf layer = layer.notes.alone := by
  unfold namesOf
  rw [hjoint]

theorem declaredHint?_of_apart {layer : Layer} {held : Hint}
    (hjoint : Notes.jointHints h.resolver h.sections = .error .unresolved)
    (hnoted : h.annotation? name = some (layer, held)) :
    h.declaredHint? name = (layer.notes.alone? h.resolver held).toOption.join := by
  rw [declaredHint?, hnoted, Option.bind_some]
  unfold hint?
  rw [hjoint]

theorem written_of_declaredHint? {layer : Layer} {held hint : Hint}
    (hjoint : Notes.jointHints h.resolver h.sections = .error .unresolved)
    (hnoted : h.annotation? name = some (layer, held))
    (hdeclared : h.declaredHint? name = some hint) :
    held.written h.resolver layer.notes.alone = .ok hint ∧ hint ≠ .nothing := by
  rw [declaredHint?_of_apart hjoint hnoted] at hdeclared
  rw [← Notes.alone?_eq_some_iff]
  cases halone : layer.notes.alone? h.resolver held with
  | ok said =>
    rw [halone] at hdeclared
    exact congrArg Except.ok hdeclared
  | error fault =>
    rw [halone] at hdeclared
    cases hdeclared

/-- What an annotation says is the type that it declares where nothing is left to resolve in it. -/
theorem declaredHint?_of_isClosed {layer : Layer} {held hint : Hint}
    (hhints : ∃ hints, h.hints = .ok hints)
    (hnoted : h.annotation? name = some (layer, held))
    (hwritten : held.written h.resolver (h.namesOf layer) = .ok hint)
    (hclosed : hint.isClosed = true) : h.declaredHint? name = some hint := by
  obtain ⟨hints, hhints⟩ := hhints
  rcases hints_cases hhints with hjoint | ⟨hjoint, -⟩
  · have hnames : h.namesOf layer = layer.notes.joint := by
      unfold namesOf
      rw [hjoint]
    rw [hnames] at hwritten
    obtain ⟨hlayer, hheld⟩ := mem_of_annotation? hnoted
    have hmem : (layer.notes, name, held) ∈ Notes.declarations h.sections :=
      Notes.mem_declarations.2 ⟨List.mem_map_of_mem hlayer, hheld⟩
    obtain ⟨hint', hresolved⟩ := exists_resolvedIn hjoint hmem
    rw [declaredHint?, hnoted, Option.bind_some]
    unfold hint?
    rw [hjoint]
    show (layer.notes.resolvedIn h.resolver layer.notes.joint held).toOption = some hint
    rcases Notes.resolvedIn_of_isClosed layer.notes hwritten hclosed with
      hfound | ⟨fault, hfound, -⟩
    · rw [hfound]
      rfl
    · cases hresolved.symm.trans hfound
  · have hsome : hint ≠ .nothing := by
      rintro rfl
      cases hclosed
    rw [namesOf_of_apart hjoint] at hwritten
    rw [declaredHint?_of_apart hjoint hnoted,
      Notes.alone?_eq_some_iff.2 ⟨hwritten, hsome⟩]
    rfl

end Hierarchy

/-- A class with one more annotation in one of its layers. What the class is as a record and what the
layer defines may change under the added name alone. -/
structure Insertion where
  resolver : Resolver
  before : List Layer
  behind : List Layer
  oldLayer : Layer
  newLayer : Layer
  first : List (String × Hint)
  more : List (String × Hint)
  added : String × Hint
  annotations_old : oldLayer.annotations = first ++ more
  annotations_new : newLayer.annotations = first ++ added :: more
  style : newLayer.style = oldLayer.style
  globals : newLayer.globals = oldLayer.globals
  attributes : ∀ name, name ≠ added.1 → (newLayer.attribute? name).map Attribute.unplaced =
    (oldLayer.attribute? name).map Attribute.unplaced
  oldFields : Fields
  newFields : Fields
  types : ∀ name, name ≠ added.1 → newFields.types.lookup name = oldFields.types.lookup name

namespace Insertion

open Hierarchy

def old (i : Insertion) : Hierarchy := ⟨i.resolver, i.before ++ i.oldLayer :: i.behind, i.oldFields⟩

def new (i : Insertion) : Hierarchy := ⟨i.resolver, i.before ++ i.newLayer :: i.behind, i.newFields⟩

def held (i : Insertion) : Hint := (i.newLayer.hold i.added).2

structure Fresh (i : Insertion) : Prop where
  undeclared : ∀ layer ∈ i.old.layers, i.added.1 ∉ entryNames layer.annotations
  uncomputed : i.new.property? i.added.1 = none
  field : ∀ held, i.newFields.types.lookup i.added.1 = some held → held = i.held

/-- Evaluating the added annotation ends in an unknown name, whether the names of the module come
first or those of the class. -/
structure Unknown (i : Insertion) : Prop where
  joint : i.newLayer.notes.resolvedIn i.resolver i.newLayer.notes.joint i.held = .error .unresolved
  alone : i.newLayer.notes.resolvedIn i.resolver i.newLayer.notes.alone i.held = .error .unresolved

/-- With the annotation added another one of the layer comes to something else. -/
def Changes (i : Insertion) (held : Hint) : Prop :=
  i.newLayer.notes.resolvedIn i.resolver i.newLayer.notes.joint held ≠
    i.oldLayer.notes.resolvedIn i.resolver i.oldLayer.notes.joint held

/-- The names that the annotation of a member uses stand for the same as before. -/
def Unhidden (i : Insertion) (name : String) : Prop :=
  ∀ layer layer' held, i.old.annotation? name = some (layer, held) →
    i.new.annotation? name = some (layer', held) →
    held.Agrees i.resolver (i.old.namesOf layer) (i.new.namesOf layer')

/-- What keeps a member as it is: it is computed or not declared, or its names stand for the same
and types were taken one by one before or nothing is left to resolve in its own. -/
inductive Lasting (i : Insertion) (name : String) : Prop
  | computed {p : Property} (hproperty : i.old.property? name = some p)
  | undeclared (hnoted : i.old.annotation? name = none)
  | apart (hjoint : Notes.jointHints i.resolver i.old.sections = .error .unresolved)
      (hunhidden : i.Unhidden name)
  | closed {layer : Layer} {held hint : Hint}
      (hnoted : i.old.annotation? name = some (layer, held))
      (hwritten : held.written i.resolver (i.old.namesOf layer) = .ok hint)
      (hclosed : hint.isClosed = true) (hunhidden : i.Unhidden name)

variable {i : Insertion} {name : String}

theorem held_oldLayer (i : Insertion) :
    i.oldLayer.held = i.first.map i.oldLayer.hold ++ i.more.map i.oldLayer.hold := by
  rw [held_eq, i.annotations_old, List.map_append]

theorem held_newLayer (i : Insertion) : i.newLayer.held =
    i.first.map i.oldLayer.hold ++ (i.added.1, i.held) :: i.more.map i.oldLayer.hold := by
  rw [held_eq, i.annotations_new, List.map_append, List.map_cons, held, hold_congr i.style]
  rfl

theorem lookup_held (hname : name ≠ i.added.1) :
    i.newLayer.held.lookup name = i.oldLayer.held.lookup name :=
  lookup_held_of_added i.annotations_old i.annotations_new i.style hname

/-- What a layer says is said by the same layer with the annotation added. -/
theorem mostDerived?_new {α : Type} {said? : Layer → Option α}
    (hsaid : said? i.newLayer = said? i.oldLayer) :
    i.new.mostDerived? said? = i.old.mostDerived? said? := by
  simp [mostDerived?, new, old, List.findSome?_cons, hsaid]

theorem isFrozen_new (i : Insertion) : i.new.isFrozen = i.old.isFrozen := by
  rw [isFrozen_eq, isFrozen_eq, mostDerived?_new (by rw [i.style])]

theorem isNamedTuple_new (i : Insertion) : i.new.isNamedTuple = i.old.isNamedTuple := by
  simp [Hierarchy.isNamedTuple, new, old, i.style]

theorem property?_new (hname : name ≠ i.added.1) :
    i.new.property? name = i.old.property? name :=
  mostDerived?_new (property?_congr (i.attributes name hname))

theorem held_annotation?_new (hname : name ≠ i.added.1) :
    (i.new.annotation? name).map Prod.snd = (i.old.annotation? name).map Prod.snd := by
  unfold annotation?
  rw [map_mostDerived?, map_mostDerived?]
  simp only [Option.map_map]
  exact mostDerived?_new (congrArg (Option.map _) (lookup_held hname))

theorem mem_held_newLayer (i : Insertion) : (i.added.1, i.held) ∈ i.newLayer.held := by
  rw [held_newLayer]
  exact List.mem_append_right _ List.mem_cons_self

/-- With the annotation added all types are taken one by one, if they can be told at all. -/
theorem jointHints_new (hunknown : i.Unknown) (hhints : ∃ hints, i.new.hints = .ok hints) :
    Notes.jointHints i.resolver i.new.sections = .error .unresolved := by
  obtain ⟨hints, hhints⟩ := hhints
  rcases hints_cases hhints with hjoint | ⟨hjoint, -⟩
  · have hlayer : i.newLayer ∈ i.new.layers := List.mem_append_right _ List.mem_cons_self
    have hmem : (i.newLayer.notes, i.added.1, i.held) ∈ Notes.declarations i.new.sections :=
      Notes.mem_declarations.2 ⟨List.mem_map_of_mem hlayer, i.mem_held_newLayer⟩
    obtain ⟨hint, hresolved⟩ := exists_resolvedIn hjoint hmem
    cases hunknown.joint.symm.trans hresolved
  · exact hjoint

theorem annotation?_new_eq_none (hname : name ≠ i.added.1)
    (hnoted : i.old.annotation? name = none) : i.new.annotation? name = none := by
  have hheld := held_annotation?_new hname
  rw [hnoted] at hheld
  exact Option.map_eq_none_iff.1 hheld

theorem exists_annotation?_new (hname : name ≠ i.added.1) {layer : Layer} {held : Hint}
    (hnoted : i.old.annotation? name = some (layer, held)) :
    ∃ layer', i.new.annotation? name = some (layer', held) := by
  have hheld := held_annotation?_new hname
  rw [hnoted] at hheld
  obtain ⟨⟨layer', held'⟩, hnew, rfl⟩ := Option.map_eq_some_iff.1 hheld
  exact ⟨layer', hnew⟩

/-- A name is described as before if its annotation declares the same type as before. -/
theorem describe?_new (hname : name ≠ i.added.1)
    (hsame : i.old.property? name = none → i.new.declaredHint? name = i.old.declaredHint? name) :
    i.new.describe? name = i.old.describe? name := by
  unfold describe?
  rw [property?_new hname]
  cases hproperty : i.old.property? name with
  | none =>
    have htypes : i.new.fields.types.lookup name = i.old.fields.types.lookup name := i.types name hname
    unfold annotated?
    rw [htypes, isFrozen_new, isNamedTuple_new, hsame hproperty]
  | some p => rfl

theorem describe?_of_lasting (hunknown : i.Unknown) (hold : ∃ hints, i.old.hints = .ok hints)
    (hnew : ∃ hints, i.new.hints = .ok hints) (hname : name ≠ i.added.1)
    (hlasting : i.Lasting name) : i.new.describe? name = i.old.describe? name := by
  have hjoint := jointHints_new hunknown hnew
  have hundeclared (hnoted : i.old.annotation? name = none) :
      i.new.declaredHint? name = i.old.declaredHint? name := by
    rw [declaredHint?, declaredHint?, hnoted, annotation?_new_eq_none hname hnoted]
    rfl
  refine describe?_new hname fun hnone => ?_
  cases hlasting with
  | computed hproperty => cases hnone.symm.trans hproperty
  | undeclared hnoted => exact hundeclared hnoted
  | apart hapart hunhidden =>
    cases hnoted : i.old.annotation? name with
    | none => exact hundeclared hnoted
    | some entry =>
      obtain ⟨layer, held⟩ := entry
      obtain ⟨layer', hnoted'⟩ := exists_annotation?_new hname hnoted
      have hwritten := (hunhidden layer layer' held hnoted hnoted').written
      rw [namesOf_of_apart hapart, namesOf_of_apart hjoint] at hwritten
      rw [declaredHint?_of_apart hapart hnoted, declaredHint?_of_apart hjoint hnoted']
      exact congrArg (fun found => found.toOption.join) (Notes.alone?_congr hwritten.symm)
  | closed hnoted hwritten hclosed hunhidden =>
    obtain ⟨layer', hnoted'⟩ := exists_annotation?_new hname hnoted
    have hwritten' := (hunhidden _ layer' _ hnoted hnoted').written.symm.trans hwritten
    rw [declaredHint?_of_isClosed hold hnoted hwritten hclosed,
      declaredHint?_of_isClosed hnew hnoted' hwritten' hclosed]

/-- Of all annotations with the added name there is just the added one. -/
theorem eq_added (hundeclared : ∀ layer ∈ i.old.layers, i.added.1 ∉ entryNames layer.annotations)
    {layer : Layer} {held : Hint} (hlayer : layer ∈ i.new.layers)
    (hheld : (i.added.1, held) ∈ layer.held) : layer = i.newLayer ∧ held = i.held := by
  have hnames (layer : Layer) {held : Hint} (hheld : (i.added.1, held) ∈ layer.held) :
      i.added.1 ∈ entryNames layer.annotations := by
    rw [held_eq] at hheld
    obtain ⟨entry, hentry, hsame⟩ := List.mem_map.1 hheld
    obtain ⟨hname, -⟩ := Prod.mk.inj hsame
    exact List.mem_map.2 ⟨entry, hentry, hname⟩
  rcases List.mem_append.1 hlayer with hbefore | hbehind
  · exact absurd (hnames layer hheld) (hundeclared layer (List.mem_append_left _ hbefore))
  · rcases List.mem_cons.1 hbehind with rfl | hbehind
    · have hlookup := lookup_of_mem i.newLayer.nodup_held hheld
      rw [lookup_of_mem i.newLayer.nodup_held i.mem_held_newLayer] at hlookup
      exact ⟨rfl, (Option.some.inj hlookup).symm⟩
    · exact absurd (hnames layer hheld) (hundeclared layer
        (List.mem_append_right _ (List.mem_cons_of_mem _ hbehind)))

theorem not_isKnown_of_added (hfresh : i.Fresh) (hunknown : i.Unknown)
    (hnew : ∃ hints, i.new.hints = .ok hints) {hint : Hint} {readOnly : Bool}
    (hannotated : i.new.annotated? i.added.1 = some (hint, readOnly)) : ¬ hint.IsKnown := by
  intro hknown
  have hjoint := jointHints_new hunknown hnew
  -- A type that rules know has nothing left to resolve, so it would be found with the others too.
  have hclosed := Hint.isClosed_of_isKnown hknown
  have hwritten : i.held.written i.resolver i.newLayer.notes.alone = .ok hint := by
    rcases declaredHint?_of_annotated? hannotated with hdeclared | ⟨-, hheld⟩
    · obtain ⟨⟨layer, held⟩, hnoted, -⟩ := Option.bind_eq_some_iff.1 hdeclared
      obtain ⟨hlayer, hmem⟩ := mem_of_annotation? hnoted
      obtain ⟨rfl, rfl⟩ := eq_added hfresh.undeclared hlayer hmem
      exact (written_of_declaredHint? hjoint hnoted hdeclared).1
    · rw [← hfresh.field hint hheld]
      exact Hint.written_of_isClosed hclosed
  rcases Notes.resolvedIn_of_isClosed i.newLayer.notes hwritten hclosed with
    hfound | ⟨fault, hfound, hstanding⟩
  · cases hunknown.alone.symm.trans hfound
  · exact hstanding (Except.error.inj (hfound.symm.trans hunknown.alone)) hknown

/-- A member that rules may use was there before, unless its annotation says nothing on its own and a
record still holds another type for it. -/
theorem describe?_of_isEligible (hunknown : i.Unknown) (hold : ∃ hints, i.old.hints = .ok hints)
    (hnew : ∃ hints, i.new.hints = .ok hints) (hname : name ≠ i.added.1)
    (hunhidden : i.Unhidden name) {d : Descriptor} (hd : i.new.describe? name = some d)
    (heligible : d.isEligible = true) (hdeclared : i.new.declaredHint? name ≠ none) :
    i.old.describe? name = some d := by
  refine (describe?_of_lasting hunknown hold hnew hname ?_).symm.trans hd
  cases hproperty : i.old.property? name with
  | some p => exact .computed hproperty
  | none =>
    have hnone : i.new.property? name = none := (property?_new hname).trans hproperty
    obtain ⟨-, hint, readOnly, hannotated, hmember⟩ := (describe?_eq_some_iff hnone).1 hd
    have hhint : i.new.declaredHint? name = some hint := by
      rcases declaredHint?_of_annotated? hannotated with hfound | ⟨hfound, -⟩
      · exact hfound
      · exact absurd hfound hdeclared
    have hclosed := Hint.isClosed_of_isKnown (isKnown_of_isEligible hmember heligible)
    cases hnoted : i.old.annotation? name with
    | none => exact .undeclared hnoted
    | some entry =>
      obtain ⟨layer, held⟩ := entry
      obtain ⟨layer', hnoted'⟩ := exists_annotation?_new hname hnoted
      have hjoint := jointHints_new hunknown hnew
      have hwritten := (written_of_declaredHint? hjoint hnoted' hhint).1
      rw [← namesOf_of_apart (h := i.new) hjoint] at hwritten
      have hsame := (hunhidden layer layer' held hnoted hnoted').written
      exact .closed hnoted (hsame.trans hwritten) hclosed hunhidden

theorem propertiesOf_new (hfresh : i.Fresh) {entry : String × Property}
    (hentry : entry ∈ i.new.propertiesOf) : entry ∈ i.old.propertiesOf := by
  obtain ⟨layer, hlayer, hlisted⟩ := List.mem_flatMap.1 hentry
  have hother (hmem : layer ∈ i.old.layers) : entry ∈ i.old.propertiesOf :=
    List.mem_flatMap.2 ⟨layer, hmem, hlisted⟩
  rcases List.mem_append.1 hlayer with hbefore | hbehind
  · exact hother (List.mem_append_left _ hbefore)
  · rcases List.mem_cons.1 hbehind with rfl | hbehind
    · obtain ⟨hcomputed, hpublic⟩ := List.mem_filter.1 hlisted
      have hproperty := lookup_of_mem i.newLayer.nodup_computed hcomputed
      rw [Layer.lookup_computed] at hproperty
      have hname : entry.1 ≠ i.added.1 := by
        rintro hname
        rw [hname] at hproperty
        refine property?_eq_none_iff.1 hfresh.uncomputed i.newLayer hlayer entry.2 ?_
        exact Layer.property?_eq_some_iff.1 hproperty
      rw [property?_congr (i.attributes _ hname), ← Layer.lookup_computed] at hproperty
      exact List.mem_flatMap.2 ⟨i.oldLayer, List.mem_append_right _ List.mem_cons_self,
        List.mem_filter.2 ⟨mem_of_lookup hproperty, hpublic⟩⟩
    · exact hother (List.mem_append_right _ (List.mem_cons_of_mem _ hbehind))

/-- Where the layer defines what it defined before, its annotations are resolved as before. -/
theorem resolvedIn_newLayer (hattribute : i.newLayer.attribute? i.added.1 =
    i.oldLayer.attribute? i.added.1) (held : Hint) : ¬ i.Changes held := by
  have hattributes (name : String) : (i.newLayer.attribute? name).map Attribute.unplaced =
      (i.oldLayer.attribute? name).map Attribute.unplaced := by
    by_cases hname : name = i.added.1
    · rw [hname, hattribute]
    · exact i.attributes name hname
  have hown (name : String) : i.newLayer.own.lookup name = i.oldLayer.own.lookup name := by
    rw [lookup_own, lookup_own, hattributes name]
  have hnames (uses usesInside : String → Prop) :
      i.newLayer.notes.joint.Agree uses usesInside i.oldLayer.notes.joint := by
    refine ⟨fun name _ => ?_, fun name _ => hown name⟩
    show (i.newLayer.globals ++ i.newLayer.own).lookup name =
      (i.oldLayer.globals ++ i.oldLayer.own).lookup name
    rw [List.lookup_append, List.lookup_append, i.globals, hown name]
  have hresolve := Hint.resolve_congr (r := i.resolver)
    (fun _ => i.resolver.refer_congr (hnames _ _)) i.resolver.depth
  refine not_not_intro ?_
  rw [Notes.resolvedIn, Notes.resolvedIn, hresolve]
  rfl

def ahead (i : Insertion) (layer : Layer) : List (Notes × String × Hint) :=
  Notes.declarations (i.before.map Layer.notes) ++
    (i.first.map i.oldLayer.hold).map fun entry => (layer.notes, entry)

theorem declarations_old (i : Insertion) :
    ∃ past, Notes.declarations i.old.sections = i.ahead i.oldLayer ++ past := by
  refine ⟨((i.more.map i.oldLayer.hold).map fun entry => (i.oldLayer.notes, entry)) ++
    Notes.declarations (i.behind.map Layer.notes), ?_⟩
  have hentries : i.oldLayer.notes.entries = i.oldLayer.held := rfl
  simp [Notes.declarations, sections, old, ahead, hentries, held_oldLayer]

theorem declarations_new (i : Insertion) : ∃ past, Notes.declarations i.new.sections =
    i.ahead i.newLayer ++ (i.newLayer.notes, i.added.1, i.held) :: past := by
  refine ⟨((i.more.map i.oldLayer.hold).map fun entry => (i.newLayer.notes, entry)) ++
    Notes.declarations (i.behind.map Layer.notes), ?_⟩
  have hentries : i.newLayer.notes.entries = i.newLayer.held := rfl
  simp [Notes.declarations, sections, new, ahead, hentries, held_newLayer]

theorem findSome?_ahead (hunchanged : ∀ entry ∈ i.oldLayer.held, ¬ i.Changes entry.2) :
    (i.ahead i.newLayer).findSome? (fault? i.resolver) =
      (i.ahead i.oldLayer).findSome? (fault? i.resolver) := by
  have hlayer : ∀ entry ∈ i.first.map i.oldLayer.hold,
      (fault? i.resolver ∘ fun entry => (i.newLayer.notes, entry)) entry =
        (fault? i.resolver ∘ fun entry => (i.oldLayer.notes, entry)) entry := by
    intro entry hentry
    have hheld : entry ∈ i.oldLayer.held := by
      rw [held_oldLayer]
      exact List.mem_append_left _ hentry
    show fault? i.resolver (i.newLayer.notes, entry) = fault? i.resolver (i.oldLayer.notes, entry)
    rw [fault?, fault?, not_not.1 (hunchanged entry hheld)]
  have hfaults := congrArg (List.findSome? id) (List.map_congr_left hlayer)
  simp only [List.findSome?_map, Function.id_comp] at hfaults
  simp only [ahead, List.findSome?_append, List.findSome?_map, hfaults]

/-- Where no other annotation changes, a fault ahead of the added one was there before and is no
graver. -/
theorem jointHints_new_of_unchanged (hunknown : i.Unknown)
    (hunchanged : ∀ entry ∈ i.oldLayer.held, ¬ i.Changes entry.2)
    (hhints : ∃ hints, i.old.hints = .ok hints) :
    Notes.jointHints i.resolver i.new.sections = .error .unresolved := by
  have hadded : fault? i.resolver (i.newLayer.notes, i.added.1, i.held) = some .unresolved := by
    unfold fault?
    rw [hunknown.joint]
  obtain ⟨pastOld, hold⟩ := i.declarations_old
  obtain ⟨pastNew, hnew⟩ := i.declarations_new
  rw [jointHints_eq_error_iff, hnew, List.findSome?_append, List.findSome?_cons, hadded,
    findSome?_ahead hunchanged]
  cases hfirst : (i.ahead i.oldLayer).findSome? (fault? i.resolver) with
  | none => rfl
  | some fault =>
    have hjoint : Notes.jointHints i.resolver i.old.sections = .error fault := by
      rw [jointHints_eq_error_iff, hold, List.findSome?_append, hfirst]
      rfl
    obtain ⟨hints, hhints⟩ := hhints
    rcases hints_cases hhints with hfound | ⟨hfound, -⟩
    · cases hjoint.symm.trans hfound
    · cases hjoint.symm.trans hfound
      rfl

/-- The class with the annotation added is described, unless some annotation on its own ends in a
graver fault, or another one changes since the layer defines something under the added name. -/
theorem members_new_eq_error (hfresh : i.Fresh) (hunknown : i.Unknown) {ds : List Descriptor}
    (hds : i.old.members = .ok ds) {f : Failure} (hmembers : i.new.members = .error f) :
    (i.newLayer.attribute? i.added.1 ≠ i.oldLayer.attribute? i.added.1 ∧
        ∃ entry ∈ i.oldLayer.held, i.Changes entry.2) ∨
      f = .brokenType ∧ ∃ layer ∈ i.new.layers, ∃ entry ∈ layer.held,
        layer.notes.alone? i.resolver entry.2 = .error .other := by
  obtain ⟨hhints, hproperties⟩ := exists_members_iff.1 ⟨ds, hds⟩
  refine or_iff_not_imp_left.2 fun hattribute => ?_
  have hunchanged : ∀ entry ∈ i.oldLayer.held, ¬ i.Changes entry.2 := by
    intro entry hentry hchanges
    refine hattribute ⟨fun hsame => ?_, entry, hentry, hchanges⟩
    exact resolvedIn_newLayer hsame entry.2 hchanges
  have hjoint := jointHints_new_of_unchanged hunknown hunchanged hhints
  have hseparate : i.new.hints =
      (Notes.separateHints i.resolver i.new.sections).mapError failureOf := by
    rw [Hierarchy.hints, Notes.hints]
    rw [show Notes.jointHints i.new.resolver i.new.sections = .error .unresolved from hjoint]
    rfl
  cases hfound : Notes.separateHints i.resolver i.new.sections with
  | ok hints =>
    rw [hfound] at hseparate
    obtain ⟨ds', hds'⟩ := exists_members_iff.2
      ⟨⟨hints, hseparate⟩, fun entry hentry => hproperties entry (propertiesOf_new hfresh hentry)⟩
    cases hmembers.symm.trans hds'
  | error fault =>
    obtain ⟨notes, hnotes, entry, hentry, halone⟩ := Notes.exists_alone?_eq_error hfound
    obtain ⟨layer, hlayer, rfl⟩ := List.mem_map.1 hnotes
    obtain rfl := Notes.eq_other_of_alone? halone
    rw [hfound] at hseparate
    have hfailure : i.new.members = .error .brokenType := by
      rw [Hierarchy.members, hseparate]
      rfl
    cases hmembers.symm.trans hfailure
    exact ⟨rfl, layer, hlayer, entry, hentry, halone⟩

/-- A class with one more annotation that does not resolve has a member for it that is of no use to
rules. A member lasts if it is computed, or if its names stand for the same as before and nothing is
left to resolve in its type or types were taken one by one before. No other member whose names do so
comes to be of use, unless its annotation says nothing and a record holds another type for it. -/
theorem members_added {ds : List Descriptor} (hfresh : i.Fresh) (hunknown : i.Unknown)
    (hds : i.old.members = .ok ds) :
    (∀ f, i.new.members = .error f →
      (i.newLayer.attribute? i.added.1 ≠ i.oldLayer.attribute? i.added.1 ∧
          ∃ entry ∈ i.oldLayer.held, i.Changes entry.2) ∨
        f = .brokenType ∧ ∃ layer ∈ i.new.layers, ∃ entry ∈ layer.held,
          layer.notes.alone? i.resolver entry.2 = .error .other) ∧
    ∀ ds', i.new.members = .ok ds' →
      (∀ d ∈ ds', d.name = i.added.1 → d.isEligible = false) ∧
      (∀ d, d.name ≠ i.added.1 → i.Lasting d.name → (d ∈ ds' ↔ d ∈ ds)) ∧
      (∀ d ∈ ds', d.name ≠ i.added.1 → i.Unhidden d.name → d.isEligible = true →
        d ∈ ds ∨ i.new.declaredHint? d.name = none) := by
  refine ⟨fun f => members_new_eq_error hfresh hunknown hds, fun ds' hds' => ?_⟩
  have hold := (exists_members_iff.1 ⟨ds, hds⟩).1
  have hnew := (exists_members_iff.1 ⟨ds', hds'⟩).1
  refine ⟨?_, ?_, ?_⟩
  · intro d hd hname
    have hdescribed : i.new.describe? i.added.1 = some d := hname ▸ (mem_members_iff hds').1 hd
    obtain ⟨-, hint, readOnly, hannotated, hmember⟩ :=
      (describe?_eq_some_iff hfresh.uncomputed).1 hdescribed
    refine Bool.eq_false_iff.2 fun heligible => ?_
    exact not_isKnown_of_added hfresh hunknown hnew hannotated
      (isKnown_of_isEligible hmember heligible)
  · intro d hname hlasting
    rw [mem_members_iff hds', mem_members_iff hds,
      describe?_of_lasting hunknown hold hnew hname hlasting]
  · intro d hd hname hunhidden heligible
    by_cases hdeclared : i.new.declaredHint? d.name = none
    · exact .inr hdeclared
    · refine .inl ((mem_members_iff hds).2 ?_)
      exact describe?_of_isEligible hunknown hold hnew hname hunhidden ((mem_members_iff hds').1 hd)
        heligible hdeclared

/-- One more annotation in a chain of classes. -/
def ofChain (r : Resolver) (before behind : List Layer) {oldLayer newLayer : Layer}
    {first more : List (String × Hint)} {added : String × Hint}
    (hold : oldLayer.annotations = first ++ more)
    (hnew : newLayer.annotations = first ++ added :: more)
    (hstyle : newLayer.style = oldLayer.style) (hglobals : newLayer.globals = oldLayer.globals)
    (hattributes : ∀ name, name ≠ added.1 → (newLayer.attribute? name).map Attribute.unplaced =
      (oldLayer.attribute? name).map Attribute.unplaced) : Insertion where
  resolver := r
  before := before
  behind := behind
  oldLayer := oldLayer
  newLayer := newLayer
  first := first
  more := more
  added := added
  annotations_old := hold
  annotations_new := hnew
  style := hstyle
  globals := hglobals
  attributes := hattributes
  oldFields := Chain.fields (before ++ oldLayer :: behind)
  newFields := Chain.fields (before ++ newLayer :: behind)
  types name hname := by
    have hheld := lookup_held_of_added hold hnew hstyle hname
    refine Chain.lookup_types_congr ?_
    unfold Chain.recordField? Chain.recordEntries Chain.recordField
    rw [hstyle, hglobals]
    split
    · rw [hheld]
    · rfl

/-- In a chain the field of the added name is held with the added annotation. -/
theorem fresh_of_chain (hnew : i.newFields = Chain.fields i.new.layers)
    (hundeclared : ∀ layer ∈ i.old.layers, i.added.1 ∉ entryNames layer.annotations)
    (huncomputed : i.new.property? i.added.1 = none) : i.Fresh := by
  refine ⟨hundeclared, huncomputed, fun held hfield => ?_⟩
  rw [hnew] at hfield
  obtain ⟨layer, hlayer, hheld⟩ := Chain.exists_held_of_lookup_types hfield
  exact (eq_added hundeclared hlayer hheld).2

def missingOld : Layer :=
  ⟨"A", .plain, false, .standard, [("x", .unread "int"), ("y", .unread "Optional['float']")], [],
    by decide, List.nodup_nil⟩

def missingNew : Layer :=
  ⟨"A", .plain, false, .standard, [("x", .unread "int"), ("y", .unread "Optional['float']"),
    ("z", .unread "Missing")], [], by decide, List.nodup_nil⟩

def missing : Insertion :=
  @ofChain plainResolver [] [] missingOld missingNew
    [("x", .unread "int"), ("y", .unread "Optional['float']")] [] ("z", .unread "Missing")
    rfl rfl rfl rfl fun _ _ => rfl

theorem fresh_missing : missing.Fresh := fresh_of_chain rfl (by decide +kernel) rfl

theorem unknown_missing : missing.Unknown := ⟨rfl, rfl⟩

theorem unhidden_missing : missing.Unhidden "x" := by
  intro layer layer' held hnoted hnoted' text _
  have hlayer : missing.old.annotation? "x" = some (missing.oldLayer, .unread "int") := rfl
  have hlayer' : missing.new.annotation? "x" = some (missing.newLayer, .unread "int") := rfl
  cases hlayer.symm.trans hnoted
  cases hlayer'.symm.trans hnoted'
  have hold : missing.old.namesOf missing.oldLayer = ⟨.standard, []⟩ := rfl
  have hnew : missing.new.namesOf missing.newLayer = ⟨[], .standard⟩ := rfl
  rw [hold, hnew]
  exact ⟨fun name _ => by rw [Names.scope, Names.scope, List.append_nil, List.nil_append], nofun⟩

theorem members_added_missing : ∃ ds', missing.new.members = .ok ds' ∧
    (∀ d ∈ ds', d.name = "z" → d.isEligible = false) ∧ ⟨"x", .single .int, false, false⟩ ∈ ds' := by
  have hmembers : missing.old.members =
      .ok [⟨"x", .single .int, false, false⟩, ⟨"y", .single .float, false, true⟩] := rfl
  have hnew : missing.new.members =
      .ok [⟨"x", .single .int, false, false⟩, ⟨"y", .forward "float", false, true⟩] := rfl
  have hnoted : missing.old.annotation? "x" = some (missing.oldLayer, .unread "int") := rfl
  have hlasting : missing.Lasting "x" :=
    .closed hnoted (show _ = Except.ok (Hint.single .int) from rfl) rfl unhidden_missing
  obtain ⟨hadded, hothers, -⟩ := (members_added fresh_missing unknown_missing hmembers).2 _ hnew
  exact ⟨_, hnew, hadded, (hothers _ (by decide) hlasting).2 (.head _)⟩

/-- A quoted part of another type is resolved without the added member and not with it. -/
theorem members_added_quoted : missing.Fresh ∧ missing.Unknown ∧ isPublic missing.added.1 = true ∧
    missing.old.members =
      .ok [⟨"x", .single .int, false, false⟩, ⟨"y", .single .float, false, true⟩] ∧
    missing.new.members =
      .ok [⟨"x", .single .int, false, false⟩, ⟨"y", .forward "float", false, true⟩] :=
  ⟨fresh_missing, unknown_missing, rfl, rfl, rfl⟩

def hidden (annotations : List (String × Hint)) (h : (entryNames annotations).Nodup) : Hierarchy :=
  .ofChain plainResolver [⟨"A", .plain, false,
    ("Money", .hint (.single (.derived "Money" .int))) :: Scope.standard, annotations,
    [("Money", .constant .null)], h, by decide⟩]

example : (hidden [("price", .unread "Money")] (by decide)).members =
      .ok [⟨"price", .single (.derived "Money" .int), false, false⟩] ∧
    (hidden [("price", .unread "Money"), ("z", .unread "Missing")] (by decide)).members = .ok [] :=
  ⟨rfl, rfl⟩

end Insertion

end RuleCheck
