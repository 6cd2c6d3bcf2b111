import Mathlib.Data.List.Induction
import RuleCheck.Settings.Configuration

/-!
# The configuration as a snapshot

Whatever is asked of a configuration, the settings that it hands out are those of its first
successful reading since they were dropped. A reading takes each variable from the environment,
or else from its own file, or else it is the default, and it changes no variable that is set. A
reading that fails hands out nothing, so the next request reads again.
-/

set_option autoImplicit false

namespace RuleCheck

namespace Environment

theorem lookup_cons (entry : String × String) (env : Environment) (name : String) :
    List.lookup name (entry :: env) = if name = entry.1 then some entry.2 else env.lookup name := by
  obtain ⟨n, v⟩ := entry
  rw [List.lookup_cons]
  by_cases h : name = n
  · rw [if_pos h, beq_iff_eq.2 h]
  · rw [if_neg h, beq_eq_false_iff_ne.2 h]

theorem lookup_unset (env : Environment) (n name : String) :
    List.lookup name (env.unset n) = if name = n then none else env.lookup name := by
  induction env with
  | nil => exact (ite_self none).symm
  | cons entry env ih =>
    rw [unset] at ih
    rw [unset, List.filter_cons, lookup_cons]
    by_cases hentry : entry.1 = n
    · rw [if_neg (by simpa using hentry), ih, hentry]
      split <;> rfl
    · rw [if_pos (by simpa using hentry), lookup_cons, ih]
      by_cases hname : name = entry.1
      · rw [if_pos hname, if_pos hname, if_neg (hname ▸ hentry)]
      · rw [if_neg hname, if_neg hname]

theorem lookup_set (env : Environment) (n value name : String) :
    List.lookup name (env.set n value) = if name = n then some value else env.lookup name := by
  rw [set, lookup_cons]
  by_cases h : name = n
  · rw [if_pos h, if_pos h]
  · rw [if_neg h, if_neg h]
    exact (lookup_unset env n name).trans (if_neg h)

theorem lookup_provide (env : Environment) (entry : String × String) (name : String) :
    List.lookup name (env.provide entry) =
      (env.lookup name).or (if name = entry.1 then some entry.2 else none) := by
  unfold provide
  split
  · rename_i v hv
    split
    · rename_i hname
      rw [hname, hv, Option.some_or]
    · exact Option.or_none.symm
  · rename_i hnone
    rw [lookup_cons]
    split
    · rename_i hname
      rw [hname, hnone, Option.none_or]
    · exact Option.or_none.symm

/-- Variables that are provided are set behind those that are set already, the first ones first. -/
theorem lookup_provideAll (env : Environment) (entries : List (String × String)) (name : String) :
    List.lookup name (entries.foldl provide env) = (env.lookup name).or (entries.lookup name) := by
  induction entries generalizing env with
  | nil => exact Option.or_none.symm
  | cons entry entries ih =>
    rw [List.foldl_cons, ih, lookup_provide, Option.or_assoc, lookup_cons]
    split <;> rfl

end Environment

namespace Configuration

def offered (file : String) (c : Configuration) : List (String × String) :=
  match c.files.lookup file with
  | some text => EnvFile.read c.environment text
  | none => []

def source? (file name : String) (c : Configuration) : Option String :=
  (c.environment.lookup name).or ((c.offered file).lookup name)

variable {c : Configuration} {file : String}

theorem load_eq (file : String) (c : Configuration) :
    c.load file =
      { c with environment := (c.offered file).foldl Environment.provide c.environment } := by
  unfold load offered
  split
  · rename_i hnone
    rw [hnone]
    rfl
  · rename_i text htext
    rw [htext]

theorem kept_load (file : String) (c : Configuration) : (c.load file).kept = c.kept := by
  rw [load_eq]

theorem readings_load (file : String) (c : Configuration) :
    (c.load file).readings = c.readings := by
  rw [load_eq]

theorem lookup_load (file name : String) (c : Configuration) :
    (c.load file).environment.lookup name = c.source? file name := by
  rw [load_eq]
  exact Environment.lookup_provideAll _ _ name

/-- The settings after a file is loaded are made of what the reading takes for each variable. -/
theorem ofEnvironment_load (file : String) (c : Configuration) :
    Settings.ofEnvironment (c.load file).environment =
      match Level.ofName? ((c.source? file Settings.levelName).getD "INFO") with
      | none => .error (.levelName ((c.source? file Settings.levelName).getD "INFO"))
      | some level => .ok {
          level
          logDirectory := (c.source? file Settings.directoryName).getD ""
          keepCase := Settings.isOn ((c.source? file Settings.caseName).getD "false")
          message := (c.source? file Settings.messageName).getD Settings.defaultMessage } := by
  cases hlevel : Level.ofName? ((c.source? file Settings.levelName).getD "INFO") <;>
    simp only [Settings.ofEnvironment, lookup_load, hlevel]

inductive Answered (c : Configuration) (file : String) :
    Except Failure (Nat × Settings) × Configuration → Prop
  | kept {found : Nat × Settings} (h : c.kept = some found) : Answered c file (.ok found, c)
  | refused {failure : Failure} (h : c.kept = none)
      (hsettings : Settings.ofEnvironment (c.load file).environment = .error failure) :
      Answered c file (.error failure, c.load file)
  | read {settings : Settings} (h : c.kept = none)
      (hsettings : Settings.ofEnvironment (c.load file).environment = .ok settings) :
      Answered c file (.ok (c.readings, settings),
        { c.load file with kept := some (c.readings, settings), readings := c.readings + 1 })

theorem answered_get (c : Configuration) (file : String) : Answered c file (c.get file) := by
  rw [get]
  split
  · rename_i found hkept
    exact .kept hkept
  · rename_i hkept
    simp only [readings_load]
    split
    · rename_i failure hsettings
      exact .refused hkept hsettings
    · rename_i settings hsettings
      exact .read hkept hsettings

/-- Without settings that are kept, the loaded environment decides. -/
theorem exists_get (h : c.kept = none) (file : String) :
    ∃ next, c.get file =
      ((Settings.ofEnvironment (c.load file).environment).map fun s => (c.readings, s), next) := by
  have hanswered := c.answered_get file
  generalize c.get file = answer at hanswered ⊢
  cases hanswered with
  | kept hkept => cases hkept.symm.trans h
  | refused _ hsettings => exact ⟨_, by rw [hsettings]; rfl⟩
  | read _ hsettings => exact ⟨_, by rw [hsettings]; rfl⟩

theorem lookup_get (file name : String) (c : Configuration) :
    (c.get file).2.environment.lookup name =
      if c.kept = none then c.source? file name else c.environment.lookup name := by
  have hanswered := c.answered_get file
  generalize c.get file = answer at hanswered
  cases hanswered with
  | kept h => simp only [h, reduceCtorEq, if_false]
  | refused h _ => exact (c.lookup_load file name).trans (if_pos h).symm
  | read h _ => exact (c.lookup_load file name).trans (if_pos h).symm

inductive Request
  | set (name value : String)
  | unset (name : String)
  | write (file text : String)
  | drop
  | get (file : String)

inductive Reply
  | done
  | settings (outcome : Except Failure (Nat × Settings))

def serve (c : Configuration) : Request → Reply × Configuration
  | .set name value => (.done, c.set name value)
  | .unset name => (.done, c.unset name)
  | .write file text => (.done, c.write file text)
  | .drop => (.done, c.drop)
  | .get file => (.settings (c.get file).1, (c.get file).2)

def after (c : Configuration) (qs : List Request) : Configuration :=
  qs.foldl (fun c q => (c.serve q).2) c

def exchanges : Configuration → List Request → List (Request × Reply)
  | _, [] => []
  | c, q :: qs => (q, (c.serve q).1) :: exchanges (c.serve q).2 qs

def handed? : Request × Reply → Option (Nat × Settings)
  | (_, .settings (.ok found)) => some found
  | _ => none

def isDrop : Request × Reply → Bool
  | (.drop, _) => true
  | _ => false

def sinceDrop (past : List (Request × Reply)) : List (Request × Reply) :=
  (past.reverse.takeWhile fun e => !isDrop e).reverse

def firstHanded (past : List (Request × Reply)) : Option (Nat × Settings) :=
  (sinceDrop past).findSome? handed?

theorem after_append (c : Configuration) (qs : List Request) (q : Request) :
    c.after (qs ++ [q]) = ((c.after qs).serve q).2 := by
  rw [after, List.foldl_append]
  rfl

theorem exchanges_append (c : Configuration) (qs : List Request) (q : Request) :
    c.exchanges (qs ++ [q]) = c.exchanges qs ++ [(q, ((c.after qs).serve q).1)] := by
  induction qs generalizing c with
  | nil => rfl
  | cons first qs ih =>
    rw [List.cons_append, exchanges, ih]
    rfl

theorem firstHanded_append (past : List (Request × Reply)) (e : Request × Reply) :
    firstHanded (past ++ [e]) = if isDrop e then none else (firstHanded past).or (handed? e) := by
  rw [firstHanded, sinceDrop, List.reverse_append, List.reverse_singleton, List.singleton_append,
    List.takeWhile_cons]
  cases isDrop e with
  | true => rfl
  | false =>
    simp only [Bool.not_false, if_true, Bool.false_eq_true, if_false, List.reverse_cons,
      List.findSome?_append, firstHanded, sinceDrop]
    cases he : handed? e <;> simp [he]

/-- One request drops what is kept, or keeps it, or keeps what it hands out. -/
theorem kept_serve (c : Configuration) (q : Request) :
    (c.serve q).2.kept =
      if isDrop (q, (c.serve q).1) then none else c.kept.or (handed? (q, (c.serve q).1)) := by
  cases q with
  | get file =>
    have hanswered := c.answered_get file
    rw [serve]
    generalize c.get file = answer at hanswered
    cases hanswered with
    | kept h =>
      rw [h]
      rfl
    | refused h _ =>
      rw [h]
      exact (c.kept_load file).trans h
    | read h _ =>
      rw [h]
      rfl
  | drop => rfl
  | _ => exact Option.or_none.symm

theorem kept_after (hc : c.kept = none) (qs : List Request) :
    (c.after qs).kept = firstHanded (c.exchanges qs) := by
  induction qs using List.reverseRecOn with
  | nil => exact hc
  | append_singleton qs q ih =>
    rw [after_append, exchanges_append, firstHanded_append, kept_serve, ih]

theorem mem_of_firstHanded {past : List (Request × Reply)} {found : Nat × Settings}
    (h : firstHanded past = some found) : ∃ e ∈ past, handed? e = some found := by
  obtain ⟨e, he, hfound⟩ := List.exists_of_findSome?_eq_some h
  have hmem : e ∈ past.reverse := List.takeWhile_subset _ (List.mem_reverse.1 he)
  exact ⟨e, List.mem_reverse.1 hmem, hfound⟩

/-- A request hands out what is kept, or settings with the next number. -/
theorem handed_serve {q : Request} {found : Nat × Settings}
    (h : handed? (q, (c.serve q).1) = some found) :
    c.kept = some found ∨ found.1 < (c.serve q).2.readings := by
  cases q with
  | get file =>
    have hanswered := c.answered_get file
    rw [serve] at h ⊢
    generalize c.get file = answer at hanswered h
    cases hanswered with
    | kept hkept =>
      cases h
      exact .inl hkept
    | refused _ _ => cases h
    | read _ _ =>
      cases h
      exact .inr (Nat.lt_succ_self _)
  | _ => cases h

theorem readings_le_serve (c : Configuration) (q : Request) :
    c.readings ≤ (c.serve q).2.readings := by
  cases q with
  | get file =>
    have hanswered := c.answered_get file
    rw [serve]
    generalize c.get file = answer at hanswered
    cases hanswered with
    | kept _ => exact Nat.le_refl _
    | refused _ _ => exact Nat.le_of_eq (c.readings_load file).symm
    | read _ _ => exact Nat.le_succ _
  | _ => exact Nat.le_refl _

theorem number_lt_readings (hc : c.kept = none) (qs : List Request) :
    ∀ e ∈ c.exchanges qs, ∀ found, handed? e = some found → found.1 < (c.after qs).readings := by
  induction qs using List.reverseRecOn with
  | nil => exact List.forall_mem_nil _
  | append_singleton qs q ih =>
    rw [after_append, exchanges_append]
    have hpast : ∀ e ∈ c.exchanges qs, ∀ found, handed? e = some found →
        found.1 < ((c.after qs).serve q).2.readings := fun e he found hfound =>
      Nat.lt_of_lt_of_le (ih e he found hfound) ((c.after qs).readings_le_serve q)
    refine List.forall_mem_append.2 ⟨hpast, List.forall_mem_singleton.2 fun found hfound => ?_⟩
    rcases handed_serve hfound with hkept | hnumber
    · rw [kept_after hc] at hkept
      obtain ⟨e, he, hhanded⟩ := mem_of_firstHanded hkept
      exact hpast e he found hhanded
    · exact hnumber

/-- What a variable is set to changes with requests that name it, and a reading sets what the file
offers and the environment lacks. -/
theorem lookup_serve (c : Configuration) (q : Request) (name : String) :
    (c.serve q).2.environment.lookup name =
      match q with
      | .set n value => if name = n then some value else c.environment.lookup name
      | .unset n => if name = n then none else c.environment.lookup name
      | .get file => if c.kept = none then c.source? file name else c.environment.lookup name
      | _ => c.environment.lookup name := by
  cases q with
  | set n value => exact Environment.lookup_set _ _ _ _
  | unset n => exact Environment.lookup_unset _ _ _
  | write file text => rfl
  | drop => rfl
  | get file => exact c.lookup_get file name

/-- Settings that have been handed out since the last drop are handed out again, and the first of
them stay what they are. Before that, each variable comes from the environment if it is set there,
else from the file, else it is the default, and the settings have a number of their own. If the
name of the level is none, nothing is handed out, and the next request reads again. No variable
that is set is overwritten: requests change those that they name, and a reading sets those that
are not set. -/
theorem get_snapshot (env : Environment) (requests : List Request) (file : String) :
    let past := (start env).exchanges requests
    let c := (start env).after requests
    (∀ first, firstHanded past = some first → c.get file = (.ok first, c)) ∧
    (firstHanded past = none →
      (∀ level, Level.ofName? ((c.source? file Settings.levelName).getD "INFO") = some level →
        ∃ id next, c.get file = (.ok (id, {
            level
            logDirectory := (c.source? file Settings.directoryName).getD ""
            keepCase := Settings.isOn ((c.source? file Settings.caseName).getD "false")
            message := (c.source? file Settings.messageName).getD Settings.defaultMessage }), next) ∧
          ∀ e ∈ past, ∀ found, handed? e = some found → found.1 ≠ id) ∧
      (Level.ofName? ((c.source? file Settings.levelName).getD "INFO") = none →
        ∃ next, c.get file =
            (.error (.levelName ((c.source? file Settings.levelName).getD "INFO")), next) ∧
          firstHanded ((start env).exchanges (requests ++ [.get file])) = none)) ∧
    (∀ name value, c.environment.lookup name = some value →
      (c.get file).2.environment.lookup name = some value) ∧
    ∀ q name, ((start env).after (requests ++ [q])).environment.lookup name =
      match q with
      | .set n value => if name = n then some value else c.environment.lookup name
      | .unset n => if name = n then none else c.environment.lookup name
      | .get file =>
        if firstHanded past = none then c.source? file name else c.environment.lookup name
      | _ => c.environment.lookup name := by
  intro past c
  have hkept : c.kept = firstHanded past := kept_after rfl requests
  refine ⟨fun first hfirst => ?_, fun hnone => ?_, fun name value hvalue => ?_, fun q name => ?_⟩
  · rw [← hkept] at hfirst
    rw [get, hfirst]
  · obtain ⟨next, hget⟩ := c.exists_get (hkept.trans hnone) file
    rw [ofEnvironment_load] at hget
    refine ⟨fun level hlevel => ?_, fun hlevel => ?_⟩
    · rw [hlevel] at hget
      refine ⟨_, next, hget, fun e he found hfound => Nat.ne_of_lt ?_⟩
      exact number_lt_readings rfl requests e he found hfound
    · rw [hlevel] at hget
      refine ⟨next, hget, ?_⟩
      rw [exchanges_append, firstHanded_append, show firstHanded _ = none from hnone, serve, hget]
      rfl
  · rw [lookup_get]
    split
    · rw [source?, show List.lookup name _ = _ from hvalue, Option.some_or]
    · exact hvalue
  · rw [after_append, ← hkept]
    exact c.lookup_serve q name

def leakingRequests : List Request :=
  [.set "LOG_LEVEL" "loud", .write ".env" "LOG_LEVEL=debug\nLOG_DIR=logs", .get ".env",
    .write ".env" "LOG_DIR=other", .unset "LOG_LEVEL", .get ".env", .set "LOG_LEVEL" "error"]

def leakedSettings : Settings := ⟨.info, "logs", false, Settings.defaultMessage⟩

theorem get_leakingRequests :
    firstHanded ((start []).exchanges leakingRequests) = some (0, leakedSettings) ∧
      ((start []).after leakingRequests).get "new.env" =
        (.ok (0, leakedSettings), (start []).after leakingRequests) :=
  have hfirst : firstHanded ((start []).exchanges leakingRequests) = some (0, leakedSettings) := by
    decide +kernel
  ⟨hfirst, (get_snapshot [] leakingRequests "new.env").1 _ hfirst⟩

end Configuration

end RuleCheck
