import RuleCheck.Member.Descriptor
import RuleCheck.Proofs.Row.Fitting

/-!
# Tables that are filled step by step

The members of a class are gathered in tables, one declaration after the other. What stands
under a name in the end is what the last step left there that decides the name.
-/

set_option autoImplicit false

namespace RuleCheck

section

variable {α β ε : Type} {name : String}

theorem lookup_withdraw_self (entries : List (String × α)) :
    (withdraw name entries).lookup name = none := by
  rw [List.lookup_eq_none_iff]
  intro entry hentry
  have hne : entry.1 ≠ name := of_decide_eq_true (List.mem_filter.1 hentry).2
  exact bne_iff_ne.2 hne.symm

theorem lookup_withdraw_ne {n : String} (h : n ≠ name) (entries : List (String × α)) :
    (withdraw name entries).lookup n = entries.lookup n := by
  induction entries with
  | nil => rfl
  | cons entry rest ih =>
    obtain ⟨m, x⟩ := entry
    unfold withdraw at ih ⊢
    by_cases hm : m = name
    · have hn : (n == m) = false := beq_false_of_ne (hm ▸ h)
      rw [List.filter_cons_of_neg (by simpa using hm), ih, List.lookup_cons, hn]
    · rw [List.filter_cons_of_pos (by simpa using hm), List.lookup_cons, List.lookup_cons, ih]

theorem nodup_entryNames_withdraw {entries : List (String × α)}
    (h : (entryNames entries).Nodup) : (entryNames (withdraw name entries)).Nodup :=
  h.sublist (List.filter_sublist.map _)

/-- Names stay different from each other where each one takes the place of the last. -/
theorem nodup_foldl_assign (key : β → Option String) (x : β → α) (more : List β)
    (found : List (String × α)) (h : (entryNames found).Nodup) :
    (entryNames (more.foldl (fun found b =>
      match key b with
      | some name => assign name (x b) found
      | none => found) found)).Nodup := by
  induction more generalizing found with
  | nil => exact h
  | cons b more ih =>
    rw [List.foldl_cons]
    cases key b with
    | none => exact ih found h
    | some name => exact ih _ (nodup_entryNames_assign name _ h)

theorem lookup_assign (n : String) (x : α) (entries : List (String × α)) :
    (assign name x entries).lookup n = if n = name then some x else entries.lookup n := by
  split
  · next h => rw [h, lookup_assign_self]
  · next h => exact lookup_assign_ne h x entries

theorem mem_assign {x : α} {entry : String × α} {entries : List (String × α)}
    (h : entry ∈ assign name x entries) : entry = (name, x) ∨ entry ∈ entries := by
  induction entries with
  | nil => exact .inl (List.mem_singleton.1 h)
  | cons first rest ih =>
    rw [assign] at h
    split at h
    · rcases List.mem_cons.1 h with rfl | h
      · next hname => exact .inl (by rw [hname])
      · exact .inr (List.mem_cons_of_mem _ h)
    · rcases List.mem_cons.1 h with rfl | h
      · exact .inr List.mem_cons_self
      · exact (ih h).imp_right (List.mem_cons_of_mem _)

theorem lookup_map_entry (f : String → α → β) (entries : List (String × α)) :
    (entries.map fun entry => (entry.1, f entry.1 entry.2)).lookup name =
      (entries.lookup name).map (f name) := by
  induction entries with
  | nil => rfl
  | cons entry rest ih =>
    rw [List.map_cons, List.lookup_cons, List.lookup_cons, ih]
    by_cases hname : name = entry.1
    · rw [← hname, beq_self_eq_true]
      rfl
    · rw [beq_false_of_ne hname]

theorem lookup_filter {q : α → Bool} {entries : List (String × α)}
    (h : (entryNames entries).Nodup) :
    (entries.filter fun entry => q entry.2).lookup name = (entries.lookup name).filter q := by
  have hsub : (entryNames (entries.filter fun entry => q entry.2)).Nodup :=
    h.sublist (List.filter_sublist.map _)
  ext x
  rw [Option.filter_eq_some_iff]
  constructor
  · intro hx
    obtain ⟨hmem, hq⟩ := List.mem_filter.1 (mem_of_lookup hx)
    exact ⟨lookup_of_mem h hmem, hq⟩
  · rintro ⟨hx, hq⟩
    exact lookup_of_mem hsub (List.mem_filter.2 ⟨mem_of_lookup hx, hq⟩)

/-- Of entries chosen by their names those of one name are all there or all gone. -/
theorem lookup_filter_name {q : String → Bool} (entries : List (String × α)) :
    (entries.filter fun entry => q entry.1).lookup name =
      if q name then entries.lookup name else none := by
  induction entries with
  | nil => exact (ite_self none).symm
  | cons entry rest ih =>
    obtain ⟨n, x⟩ := entry
    rw [List.filter_cons, List.lookup_cons]
    by_cases hn : name = n
    · subst hn
      rw [beq_self_eq_true]
      cases hq : q name with
      | true => rw [if_pos rfl, if_pos rfl, List.lookup_cons, beq_self_eq_true]
      | false =>
        rw [hq] at ih
        exact ih
    · rw [beq_false_of_ne hn, ← ih]
      split
      · rw [List.lookup_cons, beq_false_of_ne hn]
      · rfl

namespace Layer

variable {p : α → Bool} {xs : List α}

theorem last?_cons (x : α) (xs : List α) :
    last? p (x :: xs) = (last? p xs).or (if p x then some x else none) := by
  rw [last?, List.reverse_cons, List.find?_append, List.find?_singleton]
  rfl

theorem last?_map (f : β → α) (ys : List β) :
    last? p (ys.map f) = (last? (p ∘ f) ys).map f := by
  rw [last?, ← List.map_reverse, List.find?_map]
  rfl

/-- In a list of lists the last one is that of the last list that has one. -/
theorem last?_flatMap (items : β → List α) (ys : List β) :
    last? p (ys.flatMap items) = ys.reverse.findSome? fun y => last? p (items y) := by
  rw [last?, List.reverse_flatMap, List.find?_flatMap]
  rfl

/-- Where each name stands once, the last entry of a name is the only one. -/
theorem last?_eq_lookup {entries : List (String × α)} (h : (entryNames entries).Nodup) :
    last? (fun entry => entry.1 == name) entries = (entries.lookup name).map (name, ·) := by
  cases hlast : last? (fun entry => entry.1 == name) entries with
  | some entry =>
    have hname := List.find?_some (p := fun entry : String × α => entry.1 == name) hlast
    obtain rfl : entry.1 = name := beq_iff_eq.1 hname
    have hmem : entry ∈ entries := List.mem_reverse.1 (List.mem_of_find?_eq_some hlast)
    rw [lookup_of_mem h hmem]
    rfl
  | none =>
    cases hlookup : entries.lookup name with
    | none => rfl
    | some x =>
      have hmem := List.mem_reverse.2 (mem_of_lookup hlookup)
      exact absurd (beq_self_eq_true name) (List.find?_eq_none.1 hlast _ hmem)

end Layer

open Layer

theorem foldlM_invariant {γ : Type} {step : γ → β → Except ε γ} {P : γ → Prop}
    (hstep : ∀ c b c', P c → step c b = .ok c' → P c') {xs : List β} {c c' : γ} (hc : P c)
    (h : xs.foldlM step c = .ok c') : P c' := by
  induction xs generalizing c with
  | nil => exact Except.ok.inj h ▸ hc
  | cons b xs ih =>
    rw [List.foldlM_cons] at h
    obtain ⟨d, hb, h⟩ := exists_of_bind_eq_ok h
    exact ih (hstep c b d hc hb) h

theorem exists_of_foldlM_eq_error {γ : Type} {step : γ → β → Except ε γ} {xs : List β} {c : γ}
    {e : ε} (h : xs.foldlM step c = .error e) : ∃ b ∈ xs, ∃ d, step d b = .error e := by
  induction xs generalizing c with
  | nil => cases h
  | cons b xs ih =>
    rw [List.foldlM_cons] at h
    cases hb : step c b with
    | error e' =>
      rw [hb] at h
      obtain rfl : e' = e := Except.error.inj h
      exact ⟨b, List.mem_cons_self, c, hb⟩
    | ok d =>
      rw [hb] at h
      obtain ⟨b', hmem, hstep⟩ := ih h
      exact ⟨b', List.mem_cons_of_mem b hmem, hstep⟩

/-- A fold of steps ends in the first fault of a step, if whether a step has one does not depend on the
steps before. -/
theorem foldlM_eq_error_iff {γ : Type} {step : γ → β → Except ε γ} (fault? : β → Option ε)
    (hstep : ∀ c b, (∃ d, step c b = .ok d ∧ fault? b = none) ∨
      ∃ e, step c b = .error e ∧ fault? b = some e) {xs : List β} {c : γ} {e : ε} :
    xs.foldlM step c = .error e ↔ xs.findSome? fault? = some e := by
  induction xs generalizing c with
  | nil => exact ⟨nofun, nofun⟩
  | cons b xs ih =>
    rw [List.foldlM_cons, List.findSome?_cons]
    rcases hstep c b with ⟨d, hb, hfault⟩ | ⟨e', hb, hfault⟩
    · rw [hb, hfault]
      exact ih
    · rw [hb, hfault, Option.some.injEq]
      exact ⟨Except.error.inj, congrArg Except.error⟩

/-- After steps of which each decides what stands under one name, a name has what the last of
its steps gave it. -/
theorem lookup_foldlM {step : List (String × α) → β → Except ε (List (String × α))}
    (key : β → String) (value : β → Except ε (Option α))
    (hstep : ∀ entries b entries', step entries b = .ok entries' →
      ∃ x, value b = .ok x ∧ ∀ n, entries'.lookup n = if n = key b then x else entries.lookup n)
    {xs : List β} {entries entries' : List (String × α)}
    (h : xs.foldlM step entries = .ok entries') (n : String) :
    entries'.lookup n = match last? (fun b => key b == n) xs with
      | some b => (value b).toOption.join
      | none => entries.lookup n := by
  induction xs generalizing entries with
  | nil =>
    obtain rfl : entries = entries' := Except.ok.inj h
    rfl
  | cons b xs ih =>
    rw [List.foldlM_cons] at h
    obtain ⟨middle, hb, h⟩ := exists_of_bind_eq_ok h
    obtain ⟨x, hx, hmiddle⟩ := hstep entries b middle hb
    rw [ih h, last?_cons]
    cases last? (fun b => key b == n) xs with
    | some c => rfl
    | none =>
      rw [hmiddle n, Option.none_or]
      by_cases hn : n = key b
      · have hkey : (key b == n) = true := beq_iff_eq.2 hn.symm
        rw [if_pos hn, if_pos hkey]
        show x = (value b).toOption.join
        rw [hx]
        rfl
      · have hkey : ¬ (key b == n) = true := fun hkey => hn (beq_iff_eq.1 hkey).symm
        rw [if_neg hn, if_neg hkey]

theorem lookup_foldl {step : List (String × α) → β → List (String × α)} (key : β → String)
    (value : β → α)
    (hstep : ∀ entries b, step entries b = assign (key b) (value b) entries)
    (xs : List β) (n : String) :
    (xs.foldl step []).lookup n = (last? (fun b => key b == n) xs).map value := by
  have hpure : xs.foldlM (fun entries b => (pure (step entries b) : Except Unit _)) [] =
      .ok (xs.foldl step []) := List.foldlM_pure
  rw [lookup_foldlM key (fun b => .ok (some (value b))) ?_ hpure n]
  · cases last? (fun b => key b == n) xs <;> rfl
  · intro entries b entries' h
    obtain rfl : step entries b = entries' := Except.ok.inj h
    exact ⟨some (value b), rfl, fun n => by rw [hstep, lookup_assign]⟩

structure Keyed (nameOf : α → String) (entries : List (String × α)) : Prop where
  nodup : (entryNames entries).Nodup
  named : ∀ entry ∈ entries, nameOf entry.2 = entry.1

namespace Keyed

variable {nameOf : α → String} {entries : List (String × α)} {x : α}

theorem nil : Keyed nameOf [] := ⟨List.nodup_nil, nofun⟩

theorem assign (h : Keyed nameOf entries) (hx : nameOf x = name) :
    Keyed nameOf (assign name x entries) where
  nodup := nodup_entryNames_assign name x h.nodup
  named := by
    intro entry hentry
    rcases mem_assign hentry with rfl | hentry
    · exact hx
    · exact h.named entry hentry

theorem mem_iff (h : Keyed nameOf entries) :
    x ∈ entries.map Prod.snd ↔ entries.lookup (nameOf x) = some x := by
  constructor
  · intro hx
    obtain ⟨⟨n, y⟩, hentry, rfl⟩ := List.mem_map.1 hx
    rw [h.named _ hentry]
    exact lookup_of_mem h.nodup hentry
  · exact fun hx => List.mem_map.2 ⟨_, mem_of_lookup hx, rfl⟩

end Keyed

end

end RuleCheck
