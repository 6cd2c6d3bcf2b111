import Mathlib.Data.List.SplitBy
import Mathlib.Logic.Function.Iterate
import RuleCheck.Proofs.Text.Occurrence

/-!
# Runs of spaces

A text is made of runs of plain spaces and of other characters, one by one. To replace pairs of
spaces until none is left takes finitely many rounds, and it comes to the same as one pass that
puts one space in the place of each run of several. No run is lost, and none changes its place.
-/

set_option autoImplicit false

namespace RuleCheck.Text

def runs (cs : List Char) : List (List Char) := cs.splitBy fun c d => c == ' ' && d == ' '

def shortened (run : List Char) : List Char := if 2 ≤ run.length then [' '] else run

theorem shortened_singleton (c : Char) : shortened [c] = [c] := rfl

theorem shortened_replicate (n : Nat) : shortened (List.replicate (n + 2) ' ') = [' '] :=
  if_pos (by simp)

section

variable {cs run : List Char} {rs : List (List Char)}

structure AreRuns (rs : List (List Char)) : Prop where
  nonempty : [] ∉ rs
  even : ∀ run ∈ rs, run.IsChain fun c d => (c == ' ' && d == ' ') = true
  apart : rs.IsChain fun run next => ∃ hrun hnext,
    (run.getLast hrun == ' ' && next.head hnext == ' ') = false

theorem runs_eq_iff : runs cs = rs ↔ cs = rs.flatten ∧ AreRuns rs :=
  List.splitBy_eq_iff.trans (and_congr_right fun _ =>
    ⟨fun h => ⟨h.1, h.2.1, h.2.2⟩, fun h => ⟨h.nonempty, h.even, h.apart⟩⟩)

theorem AreRuns.cases (h : AreRuns rs) (hrun : run ∈ rs) :
    (∃ c, run = [c]) ∨ ∃ n, run = List.replicate (n + 2) ' ' := by
  have hspaces : ∀ {c : Char} {more : List Char},
      (c :: more).IsChain (fun c d => (c == ' ' && d == ' ') = true) → more ≠ [] →
        c :: more = List.replicate (more.length + 1) ' ' := by
    intro c more hchain hmore
    induction more generalizing c with
    | nil => exact absurd rfl hmore
    | cons d more ih =>
      obtain ⟨hpair, hrest⟩ := List.isChain_cons_cons.1 hchain
      obtain ⟨hc, hd⟩ := Bool.and_eq_true_iff.1 hpair
      rw [List.length_cons, List.replicate_succ, beq_iff_eq.1 hc]
      cases more with
      | nil => rw [beq_iff_eq.1 hd]; rfl
      | cons e more => rw [ih hrest (List.cons_ne_nil e more), List.length_cons]
  cases run with
  | nil => exact absurd hrun h.nonempty
  | cons c more =>
    cases more with
    | nil => exact .inl ⟨c, rfl⟩
    | cons d more => exact .inr ⟨more.length, hspaces (h.even _ hrun) (List.cons_ne_nil d more)⟩

theorem AreRuns.tail (h : AreRuns (run :: rs)) : AreRuns rs where
  nonempty hmem := h.nonempty (List.mem_cons_of_mem run hmem)
  even r hr := h.even r (List.mem_cons_of_mem run hr)
  apart := h.apart.tail

theorem AreRuns.head?_flatten (h : AreRuns (run :: rs)) (hlast : run.getLast? = some ' ') :
    rs.flatten.head? ≠ some ' ' := by
  cases rs with
  | nil => exact nofun
  | cons next rs =>
    obtain ⟨hrun, hnext, hapart⟩ := (List.isChain_cons_cons.1 h.apart).1
    rw [List.getLast?_eq_some_getLast hrun, Option.some_inj] at hlast
    intro hhead
    rw [List.flatten_cons, List.head?_append_of_ne_nil _ hnext, List.head?_eq_some_head hnext,
      Option.some_inj] at hhead
    rw [hlast, hhead] at hapart
    cases hapart

theorem squeeze_replicate_append (n : Nat) (rest : List Char) :
    squeeze (List.replicate (n + 1) ' ' ++ rest) = squeeze (' ' :: rest) := by
  induction n with
  | zero => rfl
  | succ n ih => rw [List.replicate_succ, List.cons_append, ← ih, List.replicate_succ,
      List.cons_append, squeeze_pair]

theorem AreRuns.squeeze_flatten (h : AreRuns rs) :
    squeeze rs.flatten = (rs.map shortened).flatten := by
  induction rs with
  | nil => rfl
  | cons run rs ih =>
    rw [List.flatten_cons, List.map_cons, List.flatten_cons, ← ih h.tail]
    rcases h.cases List.mem_cons_self with ⟨c, rfl⟩ | ⟨n, rfl⟩
    · by_cases hc : c = ' '
      · subst hc
        exact squeeze_space (h.head?_flatten rfl)
      · exact squeeze_cons hc _
    · have hlast : (List.replicate (n + 2) ' ').getLast? = some ' ' := by
        rw [List.getLast?_replicate, if_neg (Nat.succ_ne_zero _)]
      rw [squeeze_replicate_append, squeeze_space (h.head?_flatten hlast), shortened_replicate]
      rfl

theorem AreRuns.map_shortened (h : AreRuns rs) : AreRuns (rs.map shortened) where
  nonempty := by
    intro hmem
    obtain ⟨run, hrun, hnil⟩ := List.mem_map.1 hmem
    rcases h.cases hrun with ⟨c, rfl⟩ | ⟨n, rfl⟩
    · cases hnil
    · cases (shortened_replicate n).symm.trans hnil
  even := by
    refine List.forall_mem_map.2 fun run hrun => ?_
    rcases h.cases hrun with ⟨c, rfl⟩ | ⟨n, rfl⟩
    · exact List.isChain_singleton c
    · rw [shortened_replicate]
      exact List.isChain_singleton ' '
  apart := by
    refine (List.isChain_map shortened).2 (h.apart.imp_of_mem_imp ?_)
    intro run next hrun hnext hapart
    -- A run ends and begins with the same characters when it is shortened.
    rcases h.cases hrun with ⟨c, rfl⟩ | ⟨n, rfl⟩
    · rcases h.cases hnext with ⟨d, rfl⟩ | ⟨m, rfl⟩
      · exact hapart
      · simpa [shortened_replicate, shortened_singleton] using hapart
    · rcases h.cases hnext with ⟨d, rfl⟩ | ⟨m, rfl⟩
      · simpa [shortened_replicate, shortened_singleton] using hapart
      · simp at hapart

theorem filter_squeeze (cs : List Char) :
    (squeeze cs).filter (· ≠ ' ') = cs.filter (· ≠ ' ') := by
  fun_induction squeeze cs with
  | case1 rest ih =>
    rw [ih, List.filter_cons_of_neg (by simp), List.filter_cons_of_neg (by simp),
      List.filter_cons_of_neg (by simp)]
  | case2 c rest _ ih => rw [List.filter_cons, List.filter_cons, ih]
  | case3 => rfl

end

theorem mergePairs_eq_replace (cs : List Char) : mergePairs cs = replace [' ', ' '] [' '] cs := by
  show mergePairs cs = replaceWith (· == ·) ' ' [' '] [' '] cs
  fun_induction mergePairs cs with
  | case1 rest ih => rw [replaceWith_of_match rfl, ← ih, List.singleton_append]
  | case2 c rest hne ih => rw [replaceWith_cons (afterMatch?_pair hne), ih]
  | case3 => rw [replaceWith_nil]

/-- As long as there is a pair of spaces another round is made, until none is left. -/
theorem exists_rounds (cs : List Char) :
    ∃ n, (∀ m < n, contains [' ', ' '] ((replace [' ', ' '] [' '])^[m] cs) = true) ∧
      collapse cs = (replace [' ', ' '] [' '])^[n] cs := by
  fun_induction collapse cs with
  | case1 cs hpair ih =>
    obtain ⟨n, hrounds, hn⟩ := ih
    have hround := mergePairs_eq_replace cs
    rw [hround] at hrounds
    refine ⟨n + 1, ?_, hn.trans (by rw [hround]; rfl)⟩
    rintro (_ | m) hm
    · rwa [hasPair_eq_contains] at hpair
    · exact hrounds m (by omega)
  | case2 => exact ⟨0, fun m hm => absurd hm m.not_lt_zero, rfl⟩

theorem contains_collapse (cs : List Char) : contains [' ', ' '] (collapse cs) = false := by
  rw [collapse_eq_squeeze, ← hasPair_eq_contains, hasPair_squeeze]

/-- Pairs of spaces are replaced by one space, round after round, until none is left, and this
comes to the same as one pass over the runs. Each run of several spaces is one space in the end,
all other runs are what they were, and every run keeps its place. -/
theorem collapse_runs (cs : List Char) :
    (∃ n, (∀ m < n, contains [' ', ' '] ((replace [' ', ' '] [' '])^[m] cs) = true) ∧
      collapse cs = (replace [' ', ' '] [' '])^[n] cs) ∧
    contains [' ', ' '] (collapse cs) = false ∧
    collapse cs = squeeze cs ∧ squeeze cs = ((runs cs).map shortened).flatten ∧
    runs (collapse cs) = (runs cs).map shortened ∧
    (collapse cs).filter (· ≠ ' ') = cs.filter (· ≠ ' ') := by
  obtain ⟨hflat, hruns⟩ := runs_eq_iff.1 (rfl : runs cs = runs cs)
  have hsqueeze : squeeze cs = ((runs cs).map shortened).flatten :=
    (congrArg squeeze hflat).trans hruns.squeeze_flatten
  refine ⟨exists_rounds cs, contains_collapse cs, collapse_eq_squeeze cs, hsqueeze, ?_, ?_⟩
  · rw [runs_eq_iff, collapse_eq_squeeze]
    exact ⟨hsqueeze, hruns.map_shortened⟩
  · rw [collapse_eq_squeeze, filter_squeeze]

end RuleCheck.Text
