import Mathlib.Algebra.Group.Int.Defs
import RuleCheck.Proofs.Row.Cell
import RuleCheck.Proofs.Row.Loose

/-!
# What identifiers refer to

An identifier refers to the member of just its name, or else to the only one whose name differs
from it in case alone. Where all members that identifiers refer to fit, there is a row, in which
the identifiers stand for these members. Two sorts of other members are in the way all the same:
one that does not fit and has the name of an identifier but for its case, and one whose value can
not be left out.
-/

set_option autoImplicit false

namespace RuleCheck

open Text

def ordinary (bindings : List Binding) : List Binding :=
  bindings.filter fun b => b.name ≠ resultName

/-- The member that an identifier refers to: the one of just its name, or else the only one whose
name differs from it in case alone. -/
def referent? (bindings : List Binding) (name : String) : Option Binding :=
  match (ordinary bindings).find? fun b => b.name = name with
  | some b => some b
  | none =>
    match (ordinary bindings).filter fun b => fold b.name == fold name with
    | [b] => some b
    | _ => none

section

variable {bindings : List Binding} {name : String} {b : Binding}

theorem mem_ordinary : b ∈ ordinary bindings ↔ b ∈ bindings ∧ b.name ≠ resultName := by
  simp [ordinary]

theorem referent?_spec (h : referent? bindings name = some b) :
    b ∈ bindings ∧ b.name ≠ resultName ∧ fold b.name = fold name := by
  unfold referent? at h
  split at h
  · rename_i c hfind
    cases h
    obtain ⟨hmem, hname⟩ := mem_ordinary.1 (List.mem_of_find?_eq_some hfind)
    have heq : b.name = name := by simpa using List.find?_some hfind
    exact ⟨hmem, hname, congrArg fold heq⟩
  · split at h
    · rename_i c hfilter
      cases h
      have hmem := hfilter ▸ List.mem_singleton_self b
      obtain ⟨hordinary, hfold⟩ := List.mem_filter.1 hmem
      obtain ⟨hmem, hname⟩ := mem_ordinary.1 hordinary
      exact ⟨hmem, hname, beq_iff_eq.1 hfold⟩
    · cases h

end

namespace Row

variable {bindings : List Binding} {columns columns' : List (String × Column)} {row : Row}
  {keepCase : Bool} {names : List String} {name : String}

theorem entryNames_assign_of_not_mem {x : Column} (h : name ∉ entryNames columns) :
    entryNames (assign name x columns) = entryNames columns ++ [name] := by
  rw [assign_of_not_mem h, entryNames, List.map_append]
  rfl

/-- Strict members leave columns of their names, in their order. -/
theorem entryNames_foldlM (hnames : (entryNames columns ++ bindings.map Binding.name).Nodup)
    (h : bindings.foldlM (addBinding none) columns = .ok columns') :
    entryNames columns' = entryNames columns ++ (ordinary bindings).map Binding.name := by
  induction bindings generalizing columns with
  | nil =>
    cases h
    exact (List.append_nil _).symm
  | cons b rest ih =>
    rw [List.map_cons, List.append_cons] at hnames
    rw [List.foldlM_cons] at h
    obtain ⟨next, hadd, hrest⟩ := exists_of_bind_eq_ok h
    rcases addBinding_cases hadd with ⟨hb, rfl⟩ | ⟨c, hname, -, -, rfl⟩
    · have hresult : b.name = resultName := hb.resolve_right nofun
      have hskip : ordinary (b :: rest) = ordinary rest := by simp [ordinary, hresult]
      rw [hskip]
      refine ih (hnames.sublist ?_) hrest
      exact (List.sublist_append_left _ _).append_right _
    · have hnew : b.name ∉ entryNames columns := fun hmem =>
        (List.nodup_append.1 (List.nodup_append.1 hnames).1).2.2 _ hmem _
          (List.mem_singleton_self _) rfl
      have hkeep : ordinary (b :: rest) = b :: ordinary rest := by simp [ordinary, hname]
      rw [← entryNames_assign_of_not_mem (x := c) hnew] at hnames
      rw [hkeep, List.map_cons, List.append_cons, ← entryNames_assign_of_not_mem (x := c) hnew]
      exact ih hnames hrest

/-- The columns that an identifier might stand for are those of the members it might refer to. -/
theorem candidates_ofBindings (hnames : (bindings.map Binding.name).Nodup) (hname : name ∈ names)
    (h : ofBindings bindings keepCase (some names) = .ok row) :
    (row.names.filter fun n => fold n == fold name) =
      ((ordinary bindings).filter fun b => fold b.name == fold name).map Binding.name := by
  have hused : ∀ n, (fold n == fold name) = true → isUsed (some names) n = true := fun n hn =>
    List.any_eq_true.2 ⟨name, hname, beq_iff_eq.2 (beq_iff_eq.1 hn).symm⟩
  -- All members of the name up to case are used, so their columns are those of strict members.
  obtain ⟨columns, hfold, hcolumns⟩ :=
    exists_of_bind_eq_ok (ofBindings_seen (p := fun n => fold n == fold name) hused h)
  have hsome : (entryNames ([] : List (String × Column)) ++
      (bindings.filter fun b => fold b.name == fold name).map Binding.name).Nodup :=
    hnames.sublist (List.filter_sublist.map _)
  have hentries := entryNames_foldlM hsome hfold
  have hsame : columns = seen (fun n => fold n == fold name) row.columns :=
    congrArg Row.columns (Except.ok.inj hcolumns)
  rw [hsame, entryNames_seen] at hentries
  refine hentries.trans (congrArg (List.map Binding.name) ?_)
  rw [ordinary, ordinary, List.filter_filter, List.filter_filter]
  exact List.filter_congr fun b _ => Bool.and_comm _ _

theorem mem_names_ofBindings (hnames : (bindings.map Binding.name).Nodup) (hname : name ∈ names)
    (h : ofBindings bindings keepCase (some names) = .ok row) :
    name ∈ row.names ↔ ∃ b ∈ ordinary bindings, b.name = name := by
  have hcandidates := candidates_ofBindings hnames hname h
  constructor
  · intro hmem
    have hrow : name ∈ row.names.filter fun n => fold n == fold name :=
      List.mem_filter.2 ⟨hmem, beq_self_eq_true _⟩
    rw [hcandidates] at hrow
    obtain ⟨b, hb, hbname⟩ := List.mem_map.1 hrow
    exact ⟨b, List.mem_of_mem_filter hb, hbname⟩
  · rintro ⟨b, hb, rfl⟩
    have hmem : b.name ∈ row.names.filter fun n => fold n == fold b.name := by
      rw [hcandidates]
      exact List.mem_map_of_mem (List.mem_filter.2 ⟨hb, beq_self_eq_true _⟩)
    exact List.mem_of_mem_filter hmem

/-- A used identifier stands for the column of the member that it refers to. -/
theorem resolve_ofBindings (hnames : (bindings.map Binding.name).Nodup) (hname : name ∈ names)
    (h : ofBindings bindings keepCase (some names) = .ok row) {found : String} :
    row.resolve name = .ok found ↔ ∃ b, referent? bindings name = some b ∧ b.name = found := by
  have hmem := mem_names_ofBindings hnames hname h
  unfold referent? resolve
  rw [candidates_ofBindings hnames hname h]
  cases hfind : (ordinary bindings).find? fun b => b.name = name with
  | some b =>
    have hb : b.name = name := by simpa using List.find?_some hfind
    obtain ⟨-, hresult⟩ := mem_ordinary.1 (List.mem_of_find?_eq_some hfind)
    rw [if_pos ⟨hmem.2 ⟨b, List.mem_of_find?_eq_some hfind, hb⟩, hb ▸ hresult⟩]
    constructor
    · rintro ⟨⟩
      exact ⟨b, rfl, hb⟩
    · rintro ⟨c, hc, rfl⟩
      rw [← Option.some.inj hc, hb]
  | none =>
    have habsent : ¬ (name ∈ row.names ∧ name ≠ resultName) := by
      rintro ⟨hrow, -⟩
      obtain ⟨b, hb, hbname⟩ := hmem.1 hrow
      exact absurd (decide_eq_true hbname) (List.find?_eq_none.1 hfind b hb)
    rw [if_neg habsent]
    generalize (ordinary bindings).filter (fun b => fold b.name == fold name) = alike
    rcases alike with _ | ⟨b, _ | ⟨c, rest⟩⟩
    · exact ⟨nofun, fun ⟨_, h, _⟩ => nomatch h⟩
    · constructor
      · rintro ⟨⟩
        exact ⟨b, rfl, rfl⟩
      · rintro ⟨_, ⟨⟩, rfl⟩
        rfl
    · exact ⟨nofun, fun ⟨_, h, _⟩ => nomatch h⟩

/-- Why a row fails though all members that identifiers refer to fit: a member that none refers to
has the name of an identifier but for its case and does not fit, or its name is like no identifier
and its value spills. -/
inductive Obstructs (names : List String) (b : Binding) : Failure → Prop
  | sibling {name : String} {f : Failure} (hmem : name ∈ names) (hfold : fold name = fold b.name)
      (h : b.column = .error f) : Obstructs names b f
  | spill {f : Failure} (hother : ∀ name ∈ names, fold name ≠ fold b.name) (h : b.Spills f) :
      Obstructs names b f

theorem isUsed_eq_true : isUsed (some names) name = true ↔ ∃ n ∈ names, fold n = fold name := by
  simp only [isUsed, List.any_eq_true, beq_iff_eq]

theorem isUsed_eq_false : isUsed (some names) name = false ↔ ∀ n ∈ names, fold n ≠ fold name := by
  rw [← Bool.not_eq_true, isUsed_eq_true]
  simp only [not_exists, not_and, ne_eq]

theorem spoils_iff_obstructs {b : Binding} {f : Failure} (hb : b.name ≠ resultName) :
    Spoils (some names) b f ↔ Obstructs names b f := by
  constructor
  · intro h
    cases h with
    | strict _ hused hcolumn =>
      obtain ⟨n, hn, hfold⟩ := isUsed_eq_true.1 hused
      exact .sibling hn hfold hcolumn
    | loose _ hunused hspills => exact .spill (isUsed_eq_false.1 hunused) hspills
  · intro h
    cases h with
    | sibling hn hfold hcolumn => exact .strict hb (isUsed_eq_true.2 ⟨_, hn, hfold⟩) hcolumn
    | spill hother hspills => exact .loose hb (isUsed_eq_false.2 hother) hspills

theorem Spoils.name_ne {b : Binding} {f : Failure} {used : Option (List String)}
    (h : Spoils used b f) : b.name ≠ resultName := by
  cases h with
  | strict hname => exact hname
  | loose hname => exact hname

/-- A member that fits is not in the way where an identifier refers to it. -/
theorem not_obstructs_of_referent {b : Binding} {f : Failure} (hname : name ∈ names)
    (hrefers : referent? bindings name = some b) (hfits : ∃ c, b.column = .ok c) :
    ¬ Obstructs names b f := by
  obtain ⟨-, -, hfold⟩ := referent?_spec hrefers
  obtain ⟨c, hc⟩ := hfits
  intro h
  cases h with
  | sibling _ _ herror => cases hc.symm.trans herror
  | spill hother => exact hother name hname hfold.symm

/-- Members with names of their own and declared types that there are columns of, where those that
identifiers refer to fit. -/
structure Referred (names : List String) (bindings : List Binding) : Prop where
  nodup : (bindings.map Binding.name).Nodup
  typed : ∀ b ∈ bindings, b.Typed
  fits : ∀ name ∈ names, ∀ b, referent? bindings name = some b → ∃ c, b.column = .ok c

/-- Where all members that identifiers refer to fit, there is a row just if no other member is in
the way, each identifier stands for the member it refers to, and a failure is that of another
member. -/
theorem ofBindings_referents (h : Referred names bindings) :
    ((∃ row, ofBindings bindings keepCase (some names) = .ok row) ↔
        ∀ b ∈ ordinary bindings, ∀ f, ¬ Obstructs names b f) ∧
      (∀ row, ofBindings bindings keepCase (some names) = .ok row → ∀ name ∈ names, ∀ found,
        row.resolve name = .ok found ↔ ∃ b, referent? bindings name = some b ∧ b.name = found) ∧
      ∀ f, ofBindings bindings keepCase (some names) = .error f →
        ∃ b ∈ ordinary bindings, Obstructs names b f ∧
          ∀ name ∈ names, referent? bindings name ≠ some b := by
  refine ⟨?_, fun row hrow name hname found => resolve_ofBindings h.nodup hname hrow, ?_⟩
  · rw [exists_ofBindings_iff h.typed]
    constructor
    · intro hnone b hb f hobstructs
      obtain ⟨hmem, hname⟩ := mem_ordinary.1 hb
      exact hnone b hmem f ((spoils_iff_obstructs hname).2 hobstructs)
    · intro hnone b hb f hspoils
      have hname := hspoils.name_ne
      exact hnone b (mem_ordinary.2 ⟨hb, hname⟩) f ((spoils_iff_obstructs hname).1 hspoils)
  · intro f herror
    obtain ⟨b, hb, hspoils⟩ := exists_spoils_of_error h.typed herror
    have hname := hspoils.name_ne
    have hobstructs := (spoils_iff_obstructs hname).1 hspoils
    refine ⟨b, mem_ordinary.2 ⟨hb, hname⟩, hobstructs, fun name hmem hrefers => ?_⟩
    exact not_obstructs_of_referent hmem hrefers (h.fits name hmem b hrefers) hobstructs

def ageAnd (other : Binding) : List Binding := [other, ⟨"age", .single .int, .int 5⟩]

def textAge : Binding := ⟨"Age", .single .int, .text "abc"⟩

def listFlags : Binding := ⟨"flags", .single .bool, .list [.int 1]⟩

def longCount : Binding := ⟨"count", .single .int, .int (10 ^ 4300)⟩

theorem referred_ageAnd {other : Binding} (hname : other.name ≠ "age") (hother : other.Typed) :
    Referred ["age"] (ageAnd other) := by
  refine ⟨List.nodup_cons.2 ⟨?_, List.nodup_singleton _⟩, ?_, ?_⟩
  · simpa [ageAnd] using hname
  · exact List.forall_mem_cons.2 ⟨hother, by decide⟩
  · intro name hmem b hb
    cases List.mem_singleton.1 hmem
    have hfind : (ordinary (ageAnd other)).find? (fun b => b.name = "age") =
        some ⟨"age", .single .int, .int 5⟩ := by
      by_cases hresult : other.name = resultName <;>
        simp [ordinary, ageAnd, hresult, hname, resultName]
    rw [referent?, hfind] at hb
    cases hb
    exact ⟨.int (some 5), rfl⟩

theorem obstructs_textAge : Referred ["age"] (ageAnd textAge) ∧
    ∃ f, ofBindings (ageAnd textAge) false (some ["age"]) = .error f ∧
      ∃ b ∈ ordinary (ageAnd textAge), Obstructs ["age"] b f ∧
        ∀ name ∈ ["age"], referent? (ageAnd textAge) name ≠ some b := by
  have hreferred : Referred ["age"] (ageAnd textAge) := referred_ageAnd (by decide) (by decide)
  have herror : ∃ f, ofBindings (ageAnd textAge) false (some ["age"]) = .error f := ⟨_, rfl⟩
  obtain ⟨f, hf⟩ := herror
  exact ⟨hreferred, f, hf, (ofBindings_referents hreferred).2.2 f hf⟩

/-- Of each sort there are members in the way of one that fits and is referred to. -/
theorem ofBindings_obstructed :
    (Referred ["age"] (ageAnd textAge) ∧
      ∃ fault, ofBindings (ageAnd textAge) false (some ["age"]) = .error (.fault fault)) ∧
      (Referred ["age"] (ageAnd listFlags) ∧
        ofBindings (ageAnd listFlags) false (some ["age"]) = .error .nestedValue) ∧
      Referred ["age"] (ageAnd longCount) ∧
        ofBindings (ageAnd longCount) false (some ["age"]) = .error .longInteger := by
  refine ⟨⟨referred_ageAnd (by decide) (by decide), _, rfl⟩,
    ⟨referred_ageAnd (by decide) (by decide), rfl⟩, referred_ageAnd (by decide) (by decide), ?_⟩
  have hrange : ¬ Column.word64.has (10 ^ 4300) = true := by decide +kernel
  have hspills : longCount.Spills .longInteger :=
    .longInteger (Column.fit?_int_of_worth (.number rfl rfl) hrange) (by decide +kernel)
  have hspoils : Spoils (some ["age"]) longCount .longInteger := .loose (by decide) rfl hspills
  rw [ofBindings, ageAnd, List.foldlM_cons, (addBinding_eq_error (by decide)).2 hspoils]
  rfl

end Row

end RuleCheck
