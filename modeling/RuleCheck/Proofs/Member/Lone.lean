import RuleCheck.Proofs.Expr.Unreferenced
import RuleCheck.Proofs.Expr.Verdict
import RuleCheck.Proofs.Member.Mapping
import RuleCheck.Proofs.Row.Loose
import RuleCheck.Proofs.Row.Single

/-!
# Entries that stand alone

An expression about one entry of a mapping, where no other usable entry has the name but for its
case, comes to what it comes to without the others. Their values matter in one way only: an
integer with more digits than can be written is neither put into a column nor left out.
-/

set_option autoImplicit false

namespace RuleCheck

open Number Text

theorem exists_writeInt?_of_has {n : Int} (h : Column.word64.has n = true) :
    ∃ digits, writeInt? n = some digits := by
  obtain ⟨hleast, hgreatest⟩ := Column.word64_has_iff.1 h
  have hlength : (Nat.toDigits 10 n.natAbs).length ≤ 20 :=
    (Nat.length_toDigits_le_iff (by decide) (by decide)).2 (by omega)
  have hfew : (Nat.toDigits 10 n.natAbs).length ≤ maxDigits := Nat.le_trans hlength (by decide)
  exact ⟨_, if_pos hfew⟩

def Value.isOverlong (v : Value) : Bool := v.shown?.isNone

theorem exists_integer?_of_isOverlong {name : String} {v : Value}
    (husable : isUsable (name, v) = true) (h : v.isOverlong = true) :
    ∃ n, v.integer? = some n ∧ writeInt? n = none := by
  have hnone : v.shown? = none := Option.isNone_iff_eq_none.1 h
  cases v with
  | int n => exact ⟨n, rfl, hnone⟩
  | derivedInt _ n => exact ⟨n, rfl, hnone⟩
  | word t n => exact ⟨n, rfl, Option.map_eq_none_iff.1 hnone⟩
  | enumerated => simp [isUsable, describeValue, Descriptor.isEligible, Descriptor.isEnumeration,
      Value.classOf, Hint.class?, Class.isEnumeration] at husable
  | list => simp [isUsable, describeValue, Descriptor.isEligible, Descriptor.kind, Hint.kind,
      Value.classOf, Class.kind, Class.list] at husable
  | _ => cases hnone

section

variable {entry : String × Value} {f : Failure}

theorem typed_entryBinding (h : isUsable entry = true) : (entryBinding entry).Typed := by
  have heligible : (describeValue entry.1 entry.2).isEligible = true :=
    (Bool.and_eq_true_iff.1 h).2
  obtain ⟨name, v⟩ := entry
  cases v with
  | null => rfl
  | absent => cases heligible
  | date => cases heligible
  | list => cases heligible
  | action => cases heligible
  | _ => rfl

theorem kind_ne_bool_of_list {name : String} {items : List Value} :
    (entryBinding (name, .list items)).kind ≠ .bool := nofun

theorem spills_entryBinding (h : isUsable entry = true) :
    (entryBinding entry).Spills f ↔ entry.2.isOverlong = true ∧ f = .longInteger := by
  obtain ⟨name, v⟩ := entry
  constructor
  · intro hspills
    cases hspills with
    | longInteger _ hlong => exact ⟨Option.isNone_iff_eq_none.2 hlong, rfl⟩
    | nestedValue hkind hvalue _ =>
      obtain rfl : v = .list _ := hvalue
      exact absurd hkind kind_ne_bool_of_list
  · rintro ⟨hlong, rfl⟩
    obtain ⟨n, hinteger, hdigits⟩ := exists_integer?_of_isOverlong h hlong
    have hrange : ¬ Column.word64.has n = true := by
      intro hhas
      obtain ⟨digits, hwritten⟩ := exists_writeInt?_of_has hhas
      cases hdigits.symm.trans hwritten
    have hcell : Column.intIfFits n = none := if_neg hrange
    refine .longInteger ?_ (Option.isNone_iff_eq_none.1 hlong)
    exact (fit?_of_integer? hinteger).trans (by rw [hcell]; rfl)

end

def hasOverlong (entries : List (String × Value)) : Bool :=
  entries.any fun entry => isUsable entry && entry.2.isOverlong

theorem hasOverlong_iff {entries : List (String × Value)} : hasOverlong entries = true ↔
    ∃ entry ∈ entries, isUsable entry = true ∧ entry.2.isOverlong = true := by
  simp only [hasOverlong, List.any_eq_true, Bool.and_eq_true]

theorem seen_of_mem {α : Type} {entries : List (String × α)} {name : String} {x : α}
    (hnames : (entryNames entries).Nodup) (h : (name, x) ∈ entries) :
    seen (· == name) entries = [(name, x)] := by
  induction entries with
  | nil => cases h
  | cons entry rest ih =>
    obtain ⟨hnew, hrest⟩ := List.nodup_cons.1 hnames
    rcases List.mem_cons.1 h with rfl | h
    · have hnone : seen (· == name) rest = [] := by
        refine List.filter_eq_nil_iff.2 fun other hother hname => hnew ?_
        have hin : other.1 ∈ entryNames rest := List.mem_map_of_mem hother
        exact beq_iff_eq.1 hname ▸ hin
      have hself : (name == name) = true := beq_self_eq_true name
      rw [seen_cons_of_pos (by exact hself), hnone]
    · have hin : name ∈ entryNames rest := List.mem_map_of_mem h
      have hne : (entry.1 == name) = false :=
        beq_eq_false_iff_ne.2 fun hname => hnew (hname ▸ hin)
      rw [seen_cons_of_neg (by exact hne), ih hrest h]

structure Lone (entries : List (String × Value)) (name : String) (v : Value) : Prop where
  names : (entryNames entries).Nodup
  mem : (name, v) ∈ entries
  usable : isUsable (name, v) = true
  alone : Alone entries name

namespace Lone

variable {entries : List (String × Value)} {name : String} {v : Value} {c : Column} {e : Expr}
  {keepCase : Bool} {f : Failure}

theorem eq_of_fold (h : Lone entries name v) {entry : String × Value} (hmem : entry ∈ entries)
    (husable : isUsable entry = true) (hfold : fold entry.1 = fold name) : entry = (name, v) := by
  obtain ⟨n, w⟩ := entry
  obtain rfl : n = name := h.alone _ hmem husable hfold
  have hw : entries.lookup n = some w := lookup_of_mem h.names hmem
  rw [lookup_of_mem h.names h.mem] at hw
  rw [Option.some.inj hw]

/-- Of the members the entry is the only one of its name up to case. -/
theorem filter_fold (h : Lone entries name v) :
    (((entries.filter isUsable).map entryBinding).filter fun b => fold b.name == fold name) =
      [entryBinding (name, v)] := by
  have hnames : (entryNames (entries.filter isUsable)).Nodup :=
    h.names.sublist (List.filter_sublist.map _)
  have hmem : (name, v) ∈ entries.filter isUsable := List.mem_filter.2 ⟨h.mem, h.usable⟩
  have hsame : ∀ entry ∈ entries.filter isUsable,
      (fold entry.1 == fold name) = (entry.1 == name) := by
    intro entry hentry
    obtain ⟨hin, husable⟩ := List.mem_filter.1 hentry
    rw [Bool.eq_iff_iff, beq_iff_eq, beq_iff_eq]
    exact ⟨h.alone entry hin husable, congrArg fold⟩
  have hone : (entries.filter isUsable).filter (fun entry => fold entry.1 == fold name) =
      [(name, v)] := (List.filter_congr hsame).trans (seen_of_mem hnames hmem)
  rw [List.filter_map]
  exact congrArg (List.map entryBinding) hone

/-- No member spoils the row for an expression about the entry, except one that is too long. -/
theorem spoils_iff (h : Lone entries name v) (hc : (entryBinding (name, v)).column = .ok c)
    {entry : String × Value} (hmem : entry ∈ entries) (husable : isUsable entry = true) :
    Row.Spoils (some [name]) (entryBinding entry) f ↔
      entry.2.isOverlong = true ∧ f = .longInteger := by
  have hresult := ne_resultName_of_isPublic (Bool.and_eq_true_iff.1 husable).1
  rw [← spills_entryBinding husable]
  cases hused : Row.isUsed (some [name]) entry.1 with
  | true =>
    obtain ⟨n, hn, hfold⟩ := List.any_eq_true.1 hused
    obtain rfl := List.mem_singleton.1 hn
    obtain rfl := h.eq_of_fold hmem husable (beq_iff_eq.1 hfold).symm
    have hfits : ∀ g, (entryBinding (n, v)).column ≠ .error g := fun g hg => by
      cases hc.symm.trans hg
    constructor
    · intro hspoils
      cases hspoils with
      | strict _ _ hcolumn => exact absurd hcolumn (hfits f)
      | loose _ hunused => cases hused.symm.trans hunused
    · intro hspills
      exact absurd ((Binding.spills_iff (typed_entryBinding husable)).1 hspills).1 (hfits f)
  | false =>
    constructor
    · intro hspoils
      cases hspoils with
      | strict _ hstrict => cases hused.symm.trans hstrict
      | loose _ _ hspills => exact hspills
    · exact fun hspills => .loose hresult hused hspills

theorem typed_members : ∀ b ∈ (entries.filter isUsable).map entryBinding, b.Typed := by
  intro b hb
  obtain ⟨entry, hentry, rfl⟩ := List.mem_map.1 hb
  exact typed_entryBinding (List.mem_filter.1 hentry).2

/-- An expression about the entry has a row unless some usable value is too long. -/
theorem ofBindings_eq_error (h : Lone entries name v)
    (hc : (entryBinding (name, v)).column = .ok c) (hlong : hasOverlong entries = true) :
    Row.ofBindings ((entries.filter isUsable).map entryBinding) keepCase (some [name]) =
      .error .longInteger := by
  cases hrow : Row.ofBindings ((entries.filter isUsable).map entryBinding) keepCase
      (some [name]) with
  | ok row =>
    obtain ⟨entry, hmem, husable, hoverlong⟩ := hasOverlong_iff.1 hlong
    have hnone := (Row.exists_ofBindings_iff typed_members).1 ⟨row, hrow⟩ (entryBinding entry)
      (List.mem_map_of_mem (List.mem_filter.2 ⟨hmem, husable⟩)) .longInteger
    exact absurd ((h.spoils_iff hc hmem husable).2 ⟨hoverlong, rfl⟩) hnone
  | error f =>
    obtain ⟨b, hb, hspoils⟩ := Row.exists_spoils_of_error typed_members hrow
    obtain ⟨entry, hentry, rfl⟩ := List.mem_map.1 hb
    obtain ⟨hmem, husable⟩ := List.mem_filter.1 hentry
    rw [((h.spoils_iff hc hmem husable).1 hspoils).2]

theorem exists_ofBindings (h : Lone entries name v)
    (hc : (entryBinding (name, v)).column = .ok c) (hlong : hasOverlong entries = false) :
    ∃ row, Row.ofBindings ((entries.filter isUsable).map entryBinding) keepCase (some [name]) =
      .ok row := by
  rw [Row.exists_ofBindings_iff typed_members]
  intro b hb f hspoils
  obtain ⟨entry, hentry, rfl⟩ := List.mem_map.1 hb
  obtain ⟨hmem, husable⟩ := List.mem_filter.1 hentry
  have hoverlong := ((h.spoils_iff hc hmem husable).1 hspoils).1
  exact Bool.eq_false_iff.1 hlong (hasOverlong_iff.2 ⟨entry, hmem, husable, hoverlong⟩)

/-- The verdict on an expression about the entry is the same without the other entries. -/
theorem verdict_eq (h : Lone entries name v) (hc : (entryBinding (name, v)).column = .ok c)
    (hlong : hasOverlong entries = false) (he : e.members = [name]) {b : Bool}
    (hverdict : e.verdict [entryBinding (name, v)] keepCase = .ok b) :
    e.verdict ((entries.filter isUsable).map entryBinding) keepCase = .ok b := by
  have huses : ∀ n, e.uses n = (fold n == fold name) := by
    intro n
    rw [Expr.uses, he, Bool.eq_iff_iff, beq_iff_eq]
    simp only [Row.isUsed, List.any_cons, List.any_nil, Bool.or_false, beq_iff_eq]
    exact eq_comm
  have hresult := ne_resultName_of_isPublic (Bool.and_eq_true_iff.1 h.usable).1
  have hexists : ∃ row, Row.ofBindings ((entries.filter isUsable).map entryBinding) keepCase
      (some [name]) = .ok row := h.exists_ofBindings hc hlong
  obtain ⟨row, hrow⟩ := hexists
  have hsingle : Row.ofBindings [entryBinding (name, v)] keepCase (some [name]) =
      .ok (.single name c keepCase) :=
    Row.ofBindings_single hresult (List.mem_singleton_self _) hc
  rw [← he] at hrow hsingle
  have hsame : Row.SameSeen e.uses row (.single name c keepCase) := by
    refine Row.sameSeen_ofBindings (fun _ h => h) (fun _ h => h) hrow hsingle ?_
    simp only [huses]
    rw [h.filter_fold]
    exact (List.filter_eq_self.2 fun b hb => by
      rw [List.mem_singleton.1 hb]
      exact beq_self_eq_true _).symm
  exact (Expr.sameBut_verdict hrow hsingle hsame).ok_iff.2 hverdict

end Lone

end RuleCheck
