/-!
# Entries in order

A list of named things in which every name stands once. A thing that is put under a name
that is there already takes the place of the old one. Of things that recur only the first
ones are kept.
-/

set_option autoImplicit false

namespace RuleCheck

def assign {α : Type} (name : String) (x : α) : List (String × α) → List (String × α)
  | [] => [(name, x)]
  | (n, y) :: rest => if n = name then (n, x) :: rest else (n, y) :: assign name x rest

def withdraw {α : Type} (name : String) (entries : List (String × α)) : List (String × α) :=
  entries.filter fun entry => entry.1 ≠ name

def entryNames {α : Type} (entries : List (String × α)) : List String := entries.map Prod.fst

theorem lookup_assign_self {α : Type} (name : String) (x : α) (entries : List (String × α)) :
    (assign name x entries).lookup name = some x := by
  induction entries with
  | nil => simp [assign]
  | cons entry rest ih =>
    obtain ⟨n, y⟩ := entry
    by_cases h : n = name
    · simp [assign, h]
    · have h' : (name == n) = false := by simpa using fun e => h e.symm
      simp [assign, h, List.lookup_cons, h', ih]

theorem lookup_assign_ne {α : Type} {name n : String} (h : n ≠ name) (x : α)
    (entries : List (String × α)) : (assign name x entries).lookup n = entries.lookup n := by
  have hn : (n == name) = false := by simpa using h
  induction entries with
  | nil => simp only [assign, List.lookup_cons, List.lookup_nil, hn]
  | cons entry rest ih =>
    obtain ⟨m, y⟩ := entry
    by_cases hm : m = name
    · subst hm
      simp only [assign, if_true, List.lookup_cons, hn]
    · simp only [assign, hm, if_false, List.lookup_cons, ih]

theorem exists_lookup_of_mem {α : Type} {name : String} {entries : List (String × α)}
    (h : name ∈ entryNames entries) : ∃ x, entries.lookup name = some x := by
  obtain ⟨entry, hentry, rfl⟩ := List.mem_map.1 h
  have hsome : (entries.lookup entry.1).isSome := List.lookup_isSome_iff.2 ⟨entry, hentry, by simp⟩
  exact Option.isSome_iff_exists.1 hsome

theorem mem_entryNames_assign {α : Type} {name n : String} {x : α}
    {entries : List (String × α)} :
    n ∈ entryNames (assign name x entries) ↔ n = name ∨ n ∈ entryNames entries := by
  induction entries with
  | nil => simp [assign, entryNames]
  | cons entry rest ih =>
    obtain ⟨m, y⟩ := entry
    by_cases h : m = name
    · subst h
      simp [assign, entryNames]
    · simp only [entryNames] at ih
      simp only [assign, h, if_false, entryNames, List.map_cons, List.mem_cons, ih]
      constructor
      · rintro (h | h | h) <;> simp [h]
      · rintro (h | h | h) <;> simp [h]

def firsts {α : Type} [DecidableEq α] : List α → List α
  | [] => []
  | x :: xs => x :: (firsts xs).filter (· ≠ x)

theorem mem_firsts {α : Type} [DecidableEq α] {x : α} {xs : List α} :
    x ∈ firsts xs ↔ x ∈ xs := by
  induction xs with
  | nil => exact Iff.rfl
  | cons y ys ih =>
    by_cases h : x = y
    · subst h
      simp [firsts]
    · simp [firsts, ih, h]

theorem nodup_entryNames_assign {α : Type} (name : String) (x : α)
    {entries : List (String × α)} (h : (entryNames entries).Nodup) :
    (entryNames (assign name x entries)).Nodup := by
  induction entries with
  | nil => simp [assign, entryNames]
  | cons entry rest ih =>
    obtain ⟨m, y⟩ := entry
    simp only [entryNames, List.map_cons, List.nodup_cons] at h
    by_cases hm : m = name
    · subst hm
      simp only [assign, if_true, entryNames, List.map_cons, List.nodup_cons]
      exact h
    · simp only [assign, hm, if_false, entryNames, List.map_cons, List.nodup_cons]
      refine ⟨?_, ih h.2⟩
      intro hmem
      rcases mem_entryNames_assign.1 hmem with e | e
      · exact hm e
      · exact h.1 e

def tabled {α : Type} (entries : List (String × α)) : List (String × α) :=
  entries.foldl (fun found entry => assign entry.1 entry.2 found) []

theorem nodup_tabled {α : Type} (entries : List (String × α)) :
    (entryNames (tabled entries)).Nodup :=
  List.foldlRecOn (motive := fun found => (entryNames found).Nodup) entries _ List.nodup_nil
    fun _ h entry _ => nodup_entryNames_assign entry.1 entry.2 h

end RuleCheck
