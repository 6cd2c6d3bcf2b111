import RuleCheck.Member.Chain
import RuleCheck.Proofs.Authored.Recorded
import RuleCheck.Proofs.Member.Described
import RuleCheck.Proofs.Member.Mapping
import RuleCheck.Proofs.Row.Columns

/-!
# Each member once

The members of a candidate are those of its class and what it holds itself under other names.
Changes leave the class as it is and never put two things under one name. So every name is
listed once, and in a row no column of a member takes the place of another.
-/

set_option autoImplicit false

namespace RuleCheck

inductive Origin
  | mapping (title : String) (pairs : List (Value × Value))
  | object (h : Hierarchy) (attributes stored : List (String × Value)) (items : List Value)

inductive Change
  | set (name : String) (v : Value)
  | setKey (key v : Value)
  | delete (name : String)

namespace Origin

def candidate : Origin → Candidate
  | mapping title pairs => .ofPairs title pairs
  | object h attributes stored items => .ofClass h attributes stored items

def hierarchy? : Origin → Option Hierarchy
  | mapping _ _ => none
  | object h _ _ _ => some h

def declared : Origin → Except Failure (List Descriptor)
  | mapping _ _ => .ok []
  | object h _ _ _ => h.members

end Origin

namespace Candidate

def changed (c : Candidate) : Change → Candidate
  | .set name v => (c.set name v).toOption.getD c
  | .setKey key v => (c.setKey key v).toOption.getD c
  | .delete name => (c.delete name).toOption.getD c

def after (c : Candidate) (changes : List Change) : Candidate := changes.foldl changed c

def declared : Candidate → Except Failure (List Descriptor)
  | mapping _ _ => .ok []
  | object h _ _ _ => h.members

def held : Candidate → List (String × Value)
  | mapping _ entries => entries
  | object _ attributes _ _ => attributes

def counts : Candidate → Value → Bool
  | mapping _ _, _ => true
  | object _ _ _ _, v => !v.isFunction

def isOwn (c : Candidate) (declared : List Descriptor) (entry : String × Value) : Bool :=
  isPublic entry.1 && !(declared.map Descriptor.name).contains entry.1 && c.counts entry.2

def own (c : Candidate) (declared : List Descriptor) : List Descriptor :=
  (c.held.filter (c.isOwn declared)).map fun entry => describeValue entry.1 entry.2

theorem members_eq (c : Candidate) :
    c.members = c.declared.map fun declared => declared ++ c.own declared := by
  cases c with
  | mapping title entries =>
    have howned : (mapping title entries).isOwn [] = fun entry => isPublic entry.1 := by
      funext entry
      exact (Bool.and_true _).trans (Bool.and_true _)
    show _ = Except.ok ((entries.filter ((mapping title entries).isOwn [])).map _)
    rw [howned]
    rfl
  | object h attributes stored items =>
    show (h.members >>= _) = h.members.map _
    cases h.members <;> rfl

/-- Another candidate of the same class that holds no name twice if the first does not. -/
structure Keeps (c c' : Candidate) : Prop where
  declared : c'.declared = c.declared
  names : (entryNames c.held).Nodup → (entryNames c'.held).Nodup

theorem Keeps.refl (c : Candidate) : Keeps c c := ⟨rfl, id⟩

theorem Keeps.trans {c c' c'' : Candidate} (h : Keeps c c') (h' : Keeps c' c'') : Keeps c c'' :=
  ⟨h'.declared.trans h.declared, h'.names ∘ h.names⟩

theorem keeps_of_set {c c' : Candidate} {name : String} {v : Value} (h : c.set name v = .ok c') :
    Keeps c c' := by
  cases c with
  | mapping title entries =>
    cases h
    exact ⟨rfl, nodup_entryNames_assign name v⟩
  | object hierarchy attributes stored items =>
    -- What a computed member or a slot is set to is not an attribute.
    simp only [set] at h
    split at h
    · cases h
    · split at h
      · cases h
      · cases h
        exact ⟨rfl, id⟩
      · split at h
        · cases h
          exact ⟨rfl, id⟩
        · cases h
      · split at h
        · cases h
        · cases h
          exact ⟨rfl, nodup_entryNames_assign name v⟩

theorem keeps_of_setKey {c c' : Candidate} {key v : Value} (h : c.setKey key v = .ok c') :
    Keeps c c' := by
  unfold setKey at h
  split at h
  · exact keeps_of_set h
  · cases h
    exact .refl c

theorem keeps_of_delete {c c' : Candidate} {name : String} (h : c.delete name = .ok c') :
    Keeps c c' := by
  cases c with
  | mapping title entries =>
    simp only [delete] at h
    split at h
    · cases h
      exact ⟨rfl, nodup_entryNames_withdraw⟩
    · cases h
  | object hierarchy attributes stored items =>
    simp only [delete] at h
    split at h
    · cases h
    · split at h
      · cases h
      · cases h
      · split at h
        · cases h
          exact ⟨rfl, id⟩
        · cases h
      · split at h
        · cases h
          exact ⟨rfl, nodup_entryNames_withdraw⟩
        · cases h

theorem keeps_changed (c : Candidate) (change : Change) : Keeps c (c.changed change) := by
  have tried {result : Except Failure Candidate} (h : ∀ c', result = .ok c' → Keeps c c') :
      Keeps c (result.toOption.getD c) := by
    cases result with
    | ok c' => exact h c' rfl
    | error f => exact .refl c
  cases change with
  | set name v => exact tried fun _ => keeps_of_set
  | setKey key v => exact tried fun _ => keeps_of_setKey
  | delete name => exact tried fun _ => keeps_of_delete

theorem keeps_after (c : Candidate) (changes : List Change) : Keeps c (c.after changes) :=
  List.foldlRecOn changes changed (Keeps.refl c) fun _ h change _ => h.trans (keeps_changed _ change)

end Candidate

theorem Origin.nodup_candidate (origin : Origin) :
    (entryNames origin.candidate.held).Nodup := by
  cases origin with
  | mapping title pairs =>
    exact nodup_foldl_assign (fun pair => pair.1.text?) Prod.snd pairs [] List.nodup_nil
  | object h attributes stored items => exact nodup_tabled attributes

theorem Origin.declared_candidate (origin : Origin) :
    origin.candidate.declared = origin.declared := by
  cases origin <;> rfl

theorem Hierarchy.names_members {h : Hierarchy} {ds : List Descriptor} (hds : h.members = .ok ds) :
    (ds.map Descriptor.name).Nodup ∧ ∀ d ∈ ds, isPublic d.name = true := by
  constructor
  · obtain ⟨hints, -, hmembers⟩ := exists_of_bind_eq_ok hds
    obtain ⟨all, hall, hmembers⟩ := exists_of_bind_eq_ok hmembers
    obtain rfl : all.map Prod.snd = ds := Except.ok.inj hmembers
    have hkeyed := keyed_computed keyed_declaredMembers hall
    have hnames : all.map (Descriptor.name ∘ Prod.snd) = entryNames all :=
      List.map_congr_left hkeyed.named
    rw [List.map_map, hnames]
    exact hkeyed.nodup
  · intro d hd
    have hdescribe := (mem_members_iff hds).1 hd
    unfold describe? at hdescribe
    split at hdescribe
    · assumption
    · cases hdescribe

namespace Candidate

variable {c : Candidate} {ds : List Descriptor}

theorem names_declared (h : c.declared = .ok ds) :
    (ds.map Descriptor.name).Nodup ∧ ∀ d ∈ ds, isPublic d.name = true := by
  cases c with
  | mapping title entries =>
    cases h
    exact ⟨List.nodup_nil, nofun⟩
  | object hierarchy attributes stored items => exact Hierarchy.names_members h

theorem mem_own {d : Descriptor} : d ∈ c.own ds ↔
    ∃ v, (d.name, v) ∈ c.held ∧ c.isOwn ds (d.name, v) = true ∧ d = describeValue d.name v := by
  rw [own, List.mem_map]
  constructor
  · rintro ⟨⟨name, v⟩, hentry, rfl⟩
    rw [name_describeValue]
    obtain ⟨hheld, hown⟩ := List.mem_filter.1 hentry
    exact ⟨v, hheld, hown, rfl⟩
  · rintro ⟨v, hheld, hown, hd⟩
    exact ⟨(d.name, v), List.mem_filter.2 ⟨hheld, hown⟩, hd.symm⟩

theorem isOwn_name {entry : String × Value} (h : c.isOwn ds entry = true) :
    isPublic entry.1 = true ∧ entry.1 ∉ ds.map Descriptor.name := by
  rw [isOwn, Bool.and_eq_true, Bool.and_eq_true, Bool.not_eq_true', List.contains_eq_mem,
    decide_eq_false_iff_not] at h
  exact h.1

theorem nodup_own (h : (entryNames c.held).Nodup) (ds : List Descriptor) :
    ((c.own ds).map Descriptor.name).Nodup := by
  have hnames : (c.own ds).map Descriptor.name = (c.held.filter (c.isOwn ds)).map Prod.fst := by
    rw [own, List.map_map]
    exact List.map_congr_left fun entry _ => name_describeValue entry.1 entry.2
  rw [hnames]
  exact h.sublist (List.filter_sublist.map _)

/-- No name is listed twice, and what a candidate holds takes the place of no declared member. -/
theorem nodup_members (hdeclared : c.declared = .ok ds) (hheld : (entryNames c.held).Nodup) :
    ((ds ++ c.own ds).map Descriptor.name).Nodup := by
  rw [List.map_append, List.nodup_append]
  refine ⟨(names_declared hdeclared).1, nodup_own hheld ds, ?_⟩
  rintro name hname _ hown rfl
  obtain ⟨d, hd, rfl⟩ := List.mem_map.1 hown
  obtain ⟨v, -, hd, -⟩ := mem_own.1 hd
  exact (isOwn_name hd).2 hname

theorem isPublic_members (hdeclared : c.declared = .ok ds) :
    ∀ d ∈ ds ++ c.own ds, isPublic d.name = true := by
  intro d hd
  rcases List.mem_append.1 hd with hd | hd
  · exact (names_declared hdeclared).2 d hd
  · obtain ⟨v, -, hd, -⟩ := mem_own.1 hd
    exact (isOwn_name hd).1

/-- What a candidate holds under a public name is a member, or the name is that of a declared
one. -/
theorem exists_member (ds : List Descriptor) {entry : String × Value} (hheld : entry ∈ c.held)
    (hpublic : isPublic entry.1 = true) (hcounts : c.counts entry.2 = true) :
    ∃ d ∈ ds ++ c.own ds, d.name = entry.1 := by
  by_cases hdeclared : entry.1 ∈ ds.map Descriptor.name
  · obtain ⟨d, hd, hname⟩ := List.mem_map.1 hdeclared
    exact ⟨d, List.mem_append_left _ hd, hname⟩
  · have hown : c.isOwn ds entry = true := by
      rw [isOwn, hpublic, hcounts, List.contains_eq_mem, decide_eq_false hdeclared]
      rfl
    exact ⟨describeValue entry.1 entry.2,
      List.mem_append_right _ (List.mem_map_of_mem (List.mem_filter.2 ⟨hheld, hown⟩)),
      name_describeValue entry.1 entry.2⟩

end Candidate

/-- A rule may use a member that is not read-only and of a class of some kind that is no
enumeration. -/
theorem Descriptor.isEligible_iff {d : Descriptor} : d.isEligible = true ↔
    d.readOnly = false ∧ ∃ k : Class, d.declared = .single k ∧ k.isEnumeration = false ∧
      k.kind ≠ .unknown := by
  obtain ⟨name, declared, readOnly, nullable⟩ := d
  cases declared with
  | single k =>
    simp [isEligible, isEnumeration, kind, Hint.class?, Hint.kind, and_assoc]
  | _ => simp [isEligible, kind, Hint.kind]

structure BoundOnce (c : Candidate) (listed : List Descriptor) (bs : List Binding) : Prop where
  names : (bs.map Binding.name).Nodup
  bound : ∀ b, b ∈ bs ↔ ∃ d ∈ listed, b = ⟨d.name, d.declared, c.read d.name⟩ ∧
    d.readOnly = false ∧ ∃ k : Class, d.declared = .single k ∧ k.isEnumeration = false ∧
      k.kind ≠ .unknown
  placed : ∀ keepCase, (∃ row, Row.ofBindings bs keepCase (some []) = .ok row) ↔
    ∀ b ∈ bs, ∃ column, b.looseColumn = .ok column
  columns : ∀ keepCase row, Row.ofBindings bs keepCase (some []) = .ok row →
    row.names.Sublist (bs.map Binding.name) ∧
      ∀ b ∈ bs, b.looseColumn = .ok (row.columns.lookup b.name)

/-- The members of a class and behind them those that the candidate has itself, each with a
public name of its own, and a row of those that a rule may use. -/
structure EachOnce (c : Candidate) (declared : List Descriptor) : Prop where
  members : c.members = .ok (declared ++ c.own declared)
  names : ((declared ++ c.own declared).map Descriptor.name).Nodup
  isPublic : ∀ d ∈ declared ++ c.own declared, isPublic d.name = true
  complete : ∀ entry ∈ c.held, RuleCheck.isPublic entry.1 = true → c.counts entry.2 = true →
    ∃ d ∈ declared ++ c.own declared, d.name = entry.1
  bindings : ∃ bs, c.bindings none = .ok bs ∧ BoundOnce c (declared ++ c.own declared) bs

theorem Binding.cell_unused {b : Binding} (hname : b.name ≠ resultName) :
    b.cell (some []) = b.looseColumn := by
  rw [cell, if_neg hname]
  rfl

namespace Candidate

variable {c : Candidate} {ds : List Descriptor}

theorem boundOnce (hnames : (ds.map Descriptor.name).Nodup)
    (hpublic : ∀ d ∈ ds, isPublic d.name = true) :
    BoundOnce c ds ((ds.filter Descriptor.isEligible).map c.bind) := by
  have hmem (b : Binding) : b ∈ (ds.filter Descriptor.isEligible).map c.bind ↔
      ∃ d ∈ ds, d.isEligible = true ∧ c.bind d = b := by
    simp only [List.mem_map, List.mem_filter, and_assoc]
  have hdistinct : (((ds.filter Descriptor.isEligible).map c.bind).map Binding.name).Nodup := by
    rw [List.map_map]
    exact hnames.sublist (List.filter_sublist.map _)
  have hcell : ∀ b ∈ (ds.filter Descriptor.isEligible).map c.bind,
      b.name ≠ resultName := by
    intro b hb
    obtain ⟨d, hd, -, rfl⟩ := (hmem b).1 hb
    exact ne_resultName_of_isPublic (hpublic d hd)
  refine ⟨hdistinct, fun b => ?_, fun keepCase => ?_, fun keepCase row hrow => ?_⟩
  · rw [hmem]
    refine exists_congr fun d => and_congr_right fun _ => ?_
    rw [Descriptor.isEligible_iff, and_comm, eq_comm]
    rfl
  · rw [Row.exists_ofBindings]
    refine forall₂_congr fun b hb => ⟨fun h => h.loose (hcell b hb) rfl, fun h => ?_⟩
    exact ⟨fun _ hused => absurd hused nofun, fun _ _ => h⟩
  · refine ⟨Row.names_sublist hdistinct hrow, fun b hb => ?_⟩
    rw [← Binding.cell_unused (hcell b hb)]
    exact Row.cell_eq_lookup hdistinct hrow hb

theorem eachOnce (hdeclared : c.declared = .ok ds) (hheld : (entryNames c.held).Nodup) :
    EachOnce c ds := by
  have hmembers : c.members = .ok (ds ++ c.own ds) := by
    rw [members_eq, hdeclared]
    rfl
  have hnames := nodup_members hdeclared hheld
  have hpublic := isPublic_members hdeclared
  refine ⟨hmembers, hnames, hpublic, fun _ => exists_member ds, _, ?_, boundOnce hnames hpublic⟩
  rw [bindings]
  show (c.members >>= _) = _
  rw [hmembers]
  rfl

end Candidate

namespace Notes

variable {r : Resolver} {notes : Notes} {held : Hint} {fault : AnnotationFault}

def Breaks (notes : Notes) (r : Resolver) (held : Hint) (fault : AnnotationFault) : Prop :=
  fault ≠ .unresolved ∧
    (notes.resolvedIn r notes.joint held = .error fault ∨ notes.alone? r held = .error fault)

theorem exists_breaks {sections : List Notes} (hhints : hints r sections = .error fault) :
    ∃ notes ∈ sections, ∃ entry ∈ notes.entries, notes.Breaks r entry.2 fault := by
  unfold hints at hhints
  split at hhints
  · obtain ⟨notes, hnotes, entry, hentry, halone⟩ := exists_alone?_eq_error hhints
    refine ⟨notes, hnotes, entry, hentry, ?_, .inr halone⟩
    rw [eq_other_of_alone? halone]
    decide
  · next hother =>
    obtain ⟨⟨notes, name, held⟩, hmem, found, hstep⟩ := exists_of_foldlM_eq_error hhints
    have hjoint : notes.resolvedIn r notes.joint held = .error fault := by
      cases hjoint : notes.resolvedIn r notes.joint held with
      | error fault' =>
        simp only [hjoint] at hstep
        exact congrArg Except.error (Except.error.inj hstep)
      | ok hint =>
        simp only [hjoint] at hstep
        cases hstep
    obtain ⟨hnotes, hentry⟩ := mem_declarations.1 hmem
    refine ⟨notes, hnotes, (name, held), hentry, ?_, .inl hjoint⟩
    rintro rfl
    exact hother hhints

end Notes

namespace Hierarchy

def notes (h : Hierarchy) : List Notes :=
  h.sections ++ h.propertiesOf.filterMap fun entry => entry.2.getter.map Getter.notes

/-- A failure that some annotation of the class, or of a function that computes a member, ends in, and
not by an unknown name. -/
def Broken (h : Hierarchy) (f : Failure) : Prop :=
  ∃ notes ∈ h.notes, ∃ entry ∈ notes.entries, ∃ fault, notes.Breaks h.resolver entry.2 fault ∧
    f = failureOf fault

theorem fails_told_broken {α : Type} {h : Hierarchy} {sections : List Notes}
    (hsections : sections ⊆ h.notes) {x : Except AnnotationFault α}
    (hfault : ∀ fault, x = .error fault → Notes.hints h.resolver sections = .error fault) :
    FailsBy h.Broken (x.mapError failureOf) := by
  cases x with
  | ok a => exact .ok a
  | error fault =>
    obtain ⟨notes, hnotes, entry, hentry, hbreaks⟩ := Notes.exists_breaks (hfault fault rfl)
    exact .error ⟨notes, hsections hnotes, entry, hentry, fault, hbreaks, rfl⟩

theorem fails_members_broken (h : Hierarchy) : FailsBy h.Broken h.members := by
  have hhints : FailsBy h.Broken h.hints :=
    fails_told_broken (List.subset_append_left _ _) fun _ => id
  have hcomputed : ∀ members, ∀ entry ∈ h.propertiesOf,
      FailsBy h.Broken (h.addComputed members entry) := by
    intro members entry hentry
    refine FailsBy.bind ?_ fun _ _ => .ok _
    unfold propertyHint
    split
    · next g hg =>
      have hnotes : g.notes ∈ h.notes :=
        List.mem_append_right _ (List.mem_filterMap.2 ⟨entry, hentry, by rw [hg]; rfl⟩)
      refine fails_told_broken (List.cons_subset.2 ⟨hnotes, List.nil_subset _⟩) fun fault hfault => ?_
      unfold Getter.hint at hfault
      cases hfound : Notes.hints h.resolver [g.notes] with
      | ok found => cases hfound ▸ hfault
      | error found =>
        rw [hfound] at hfault
        exact congrArg Except.error (Except.error.inj hfault)
    · exact .ok _
  exact hhints.bind fun _ _ => (FailsBy.foldlM _ hcomputed).bind fun _ _ => .ok _

end Hierarchy

/-- However a candidate is made and changed, its members are those of its class and behind them
what it holds under other names, unless an annotation of the class keeps it from being described. No
name is there twice, and in a row of which nothing is used no member has the column of another. -/
theorem members_once (origin : Origin) (changes : List Change) :
    (∃ h f, origin.hierarchy? = some h ∧ h.Broken f ∧ origin.declared = .error f ∧
      (origin.candidate.after changes).members = .error f) ∨
    ∃ declared, origin.declared = .ok declared ∧
      EachOnce (origin.candidate.after changes) declared := by
  have hkeeps := origin.candidate.keeps_after changes
  have hdeclared := hkeeps.declared.trans origin.declared_candidate
  cases horigin : origin.declared with
  | ok declared =>
    rw [horigin] at hdeclared
    exact .inr ⟨declared, rfl, Candidate.eachOnce hdeclared (hkeeps.names origin.nodup_candidate)⟩
  | error f =>
    rw [horigin] at hdeclared
    have hmembers : (origin.candidate.after changes).members = .error f := by
      rw [Candidate.members_eq, hdeclared]
      rfl
    cases origin with
    | mapping title pairs => cases horigin
    | object h attributes stored items =>
      exact .inl ⟨h, f, rfl, h.fails_members_broken f horigin, rfl, hmembers⟩

def purse : Hierarchy :=
  .ofChain Hierarchy.plainResolver [⟨"Purse", .record, false, .standard, [("coins", .single .int)],
    [("worth", .computed
      ⟨some ⟨[("return", .unread "Optional[float]")], .standard, .standard⟩, .null, false⟩)],
    by decide, by decide⟩]

example : ((Origin.object purse [("coins", .int 2)] [] []).candidate.after [.set "owner" .null,
      .set "_key" (.int 1), .set "worth" (.int 3), .delete "coins", .delete "worth",
      .set "owner" (.text "ada")]).members =
    .ok [⟨"coins", .single .int, false, false⟩, ⟨"worth", .single .float, true, true⟩,
      ⟨"owner", .single .text, false, false⟩] := rfl

def unclosed : Hierarchy :=
  .ofChain Hierarchy.plainResolver [⟨"B", .plain, false, .standard,
    [("x", .unread "int"), ("y", .unread "int[")], [], by decide, List.nodup_nil⟩]

/-- One text that is no expression, and nothing of the class is described. The other member has a
type, and on its own the text would only have none. -/
theorem members_unclosed :
    (Origin.object unclosed [] [] []).candidate.members = .error .unreadableType ∧
    Notes.separateHints unclosed.resolver unclosed.sections = .ok [("x", .single .int)] := ⟨rfl, rfl⟩

end RuleCheck
