import RuleCheck.Proofs.Authored.Recorded

/-!
# What the logs keep

Calls make records, in their order. Once logging is set up with a directory, the main log keeps those
of the threshold and above. The log of errors keeps the errors that its logger reports, and those of
checks only if the logger that they have taken was made with a directory too. Every error is there
just if all have texts that fit their arguments and no check ends in a fault that is not reported.
-/

set_option autoImplicit false

namespace RuleCheck

namespace Journal

def mainLines (j : Journal) (records : List Record) : List String :=
  (records.filter fun r => j.keeps r.level).map fun r => line r.level mainName r.text

def errorLines (records : List Record) : List String :=
  records.map fun r => line r.level errorsName r.text

def extend (j : Journal) (main errors : List String) : Journal :=
  ⟨j.threshold, j.main ++ main, j.errors ++ errors⟩

theorem mainLines_append (j : Journal) (rs rs' : List Record) :
    j.mainLines (rs ++ rs') = j.mainLines rs ++ j.mainLines rs' := by
  rw [mainLines, List.filter_append, List.map_append, ← mainLines, ← mainLines]

theorem add_eq (j : Journal) (r : Record) : j.add r = j.extend (j.mainLines [r]) [] := by
  rw [add, mainLines, extend]
  cases hkeeps : j.keeps r.level <;> simp [hkeeps]

theorem addError_eq (j : Journal) (text : String) :
    j.addError ⟨.error, text⟩ = j.extend [] (errorLines [⟨.error, text⟩]) := by
  have hkeeps : keepsError .error = true := by decide
  rw [addError, if_pos hkeeps, extend, List.append_nil]
  rfl

end Journal

namespace Logging

open Journal (errorLines)

structure Extends (l l' : Logging) (main errors : List String) : Prop where
  journal : l'.journal = l.journal.extend main errors
  directory : l'.directory = l.directory

namespace Extends

variable {l l' l'' : Logging} {main main' errors errors' : List String}

theorem refl (l : Logging) : l.Extends l [] [] := ⟨by simp [Journal.extend], rfl⟩

theorem trans (h : l.Extends l' main errors) (h' : l'.Extends l'' main' errors') :
    l.Extends l'' (main ++ main') (errors ++ errors') := by
  refine ⟨?_, h'.directory.trans h.directory⟩
  rw [h'.journal, h.journal]
  simp only [Journal.extend, List.append_assoc]

/-- The threshold stays, so the lines that records make are the same. -/
theorem mainLines (h : l.Extends l' main errors) (records : List Record) :
    l'.journal.mainLines records = l.journal.mainLines records := by
  rw [h.journal]
  rfl

end Extends

variable {l : Logging}

theorem write_eq (hfiles : l.directory.isSome) (add : Journal → Record → Journal) (r : Record) :
    (l.write add r).journal = add l.journal r ∧ (l.write add r).directory = l.directory := by
  obtain ⟨directory, hdirectory⟩ := Option.isSome_iff_exists.1 hfiles
  simp [write, handlers, hdirectory]

theorem extends_add (hfiles : l.directory.isSome) (r : Record) :
    l.Extends (l.add r) (l.journal.mainLines [r]) [] := by
  have hadd := l.journal.add_eq r
  rw [add]
  split
  · obtain ⟨hjournal, hdirectory⟩ := write_eq hfiles Journal.add r
    exact ⟨hjournal.trans hadd, hdirectory⟩
  · rename_i hkeeps
    rw [Journal.add, if_neg hkeeps] at hadd
    exact ⟨hadd, rfl⟩

theorem extends_addError (hfiles : l.directory.isSome) (text : String) :
    l.Extends (l.addError ⟨.error, text⟩) [] (errorLines [⟨.error, text⟩]) := by
  obtain ⟨hjournal, hdirectory⟩ := write_eq hfiles Journal.addError ⟨.error, text⟩
  rw [addError, if_pos (by rfl)]
  exact ⟨hjournal.trans (l.journal.addError_eq text), hdirectory⟩

theorem extends_reportError (hfiles : l.directory.isSome) (logger : Logger) (text : String) :
    l.Extends (logger.reportError text l) (l.journal.mainLines [⟨.error, text⟩])
      (errorLines (if logger.directory.isSome then [⟨.error, text⟩] else [])) := by
  have hmain := extends_add hfiles ⟨.error, text⟩
  have hfiles' : (l.add ⟨.error, text⟩).directory.isSome := by rwa [hmain.directory]
  rw [Logger.reportError]
  split
  · simpa using hmain.trans (extends_addError hfiles' text)
  · exact hmain

def errorsTaken (logger : Logger) (records : List Record) : List Record :=
  if logger.directory.isSome then records.filter (·.level == .error) else []

theorem errorsTaken_cons (logger : Logger) (r : Record) (records : List Record) :
    errorsTaken logger (r :: records) = errorsTaken logger [r] ++ errorsTaken logger records := by
  unfold errorsTaken
  split
  · rw [← List.singleton_append, List.filter_append]
  · rfl

/-- What a logger takes from a check goes to the main log, and the errors to the log of errors if
the logger has a directory. -/
theorem extends_foldl_take (hfiles : l.directory.isSome) (logger : Logger) (records : List Record) :
    l.Extends (records.foldl logger.take l) (l.journal.mainLines records)
      (errorLines (errorsTaken logger records)) := by
  induction records generalizing l with
  | nil =>
    rw [errorsTaken, List.filter_nil, ite_self]
    exact .refl l
  | cons r records ih =>
    have hstep : l.Extends (logger.take l r) (l.journal.mainLines [r])
        (errorLines (errorsTaken logger [r])) := by
      rw [Logger.take, errorsTaken]
      split
      · rename_i hlevel
        obtain ⟨level, text⟩ := r
        obtain rfl : level = .error := hlevel
        exact extends_reportError hfiles logger text
      · rename_i hlevel
        have hnone : [r].filter (·.level == .error) = [] := by simpa using hlevel
        rw [hnone, ite_self]
        exact extends_add hfiles r
    have hfiles' : (logger.take l r).directory.isSome := by rwa [hstep.directory]
    have hrun := hstep.trans (ih hfiles')
    rw [hstep.mainLines, ← Journal.mainLines_append, List.singleton_append] at hrun
    rw [List.foldl_cons, errorsTaken_cons, errorLines, List.map_append]
    exact hrun

theorem threshold?_of_ofName? {name : String} {level : Level}
    (h : Level.ofName? name = some level) : Journal.threshold? name = .ok level.number := by
  have hname := List.find?_some (p := fun l : Level => l.name == Text.capitals name) h
  rw [Journal.threshold?, ← beq_iff_eq.1 hname]
  cases level <;> rfl

theorem exists_setup {opens : String → Bool} {path name : String} {n : Nat} (hpath : path ≠ "")
    (hopens : opens (Text.plainPath path) = true) (hname : Journal.threshold? name = .ok n)
    (before : Logging) :
    ∃ logger l, before.setup opens path name = .ok (logger, l) ∧ logger.directory.isSome ∧
      l.directory.isSome ∧ l.journal.threshold = n := by
  have hdirectory : directoryOf path = some (Text.plainPath path) := if_neg (by simpa using hpath)
  simp only [setup, hdirectory, Option.any_some, hopens, hname]
  exact ⟨_, _, rfl, rfl, rfl, rfl⟩

def isFault : Except Failure Outcome → Bool
  | .error (.fault _) => true
  | _ => false

theorem isFault_eq_false_iff (answer : Except Failure Outcome) :
    isFault answer = false ↔ ∀ f, answer ≠ .error (.fault f) := by
  constructor
  · rintro h f rfl
    cases h
  · intro h
    unfold isFault
    split
    · exact absurd rfl (h _)
    · rfl

/-- A check records one error if it ends in a fault, and none otherwise. -/
theorem length_errors {candidate : Candidate} {c : Check} {report : Report}
    (h : Check.Recorded candidate c report) :
    (report.records.filter (·.level == .error)).length = (isFault report.answer).toNat := by
  cases h with
  | nothing hfault =>
    rw [(isFault_eq_false_iff _).2 hfault]
    rfl
  | fault f => rfl
  | verdict source e hfault =>
    rw [(isFault_eq_false_iff _).2 hfault, Record.outcome]
    cases e.verdict <;> rfl

section

variable [Things]

/-- The calls that make records: texts with their arguments, verdicts, and checks of rules. -/
inductive Call
  | debug (text : String) (arguments : List Value)
  | error (text : String) (arguments : List Value)
  | outcome (expression : String) (success : Bool) (member : Option String)
      (fields : List (String × String))
  | check (settings : Check.Source) (candidate : Candidate) (c : Check)

namespace Call

def records : Call → List Record
  | debug text arguments => (Marked.fill? text arguments).toList.map fun text => ⟨.debug, text⟩
  | error text arguments => (Marked.fill? text arguments).toList.map fun text => ⟨.error, text⟩
  | outcome expression success member fields =>
    [⟨if success then .debug else .info, (Record.outcome expression success member fields).text⟩]
  | check settings candidate c => (c.run settings candidate).records

def errors (call : Call) : List Record := call.records.filter (·.level == .error)

def reported (logger : Logger) : Call → List Record
  | check settings candidate c => errorsTaken logger (c.run settings candidate).records
  | debug text arguments => (debug text arguments).errors
  | error text arguments => (error text arguments).errors
  | outcome expression success member fields =>
    (outcome expression success member fields).errors

def isError : Call → Bool
  | error _ _ => true
  | check settings candidate c => isFault (validate settings candidate c)
  | _ => false

end Call

def take (logger taken : Logger) (l : Logging) : Call → Logging
  | .debug text arguments => Logger.debug text arguments l
  | .error text arguments => logger.error text arguments l
  | .outcome expression success member fields => l.add (.outcome expression success member fields)
  | .check settings candidate c => (c.run settings candidate).records.foldl taken.take l

def after (logger taken : Logger) (l : Logging) (calls : List Call) : Logging :=
  calls.foldl (take logger taken) l

variable {logger : Logger}

theorem extends_take (hfiles : l.directory.isSome) (hlogger : logger.directory.isSome)
    (taken : Logger) (call : Call) :
    l.Extends (l.take logger taken call) (l.journal.mainLines call.records)
      (errorLines (call.reported taken)) := by
  cases call with
  | debug text arguments =>
    rw [take, Logger.debug, Call.reported, Call.errors, Call.records]
    cases Marked.fill? text arguments with
    | none => exact .refl l
    | some filled => exact extends_add hfiles ⟨.debug, filled⟩
  | error text arguments =>
    rw [take, Logger.error, Call.reported, Call.errors, Call.records]
    cases Marked.fill? text arguments with
    | none => exact .refl l
    | some filled =>
      have hreport := extends_reportError hfiles logger filled
      rw [if_pos hlogger] at hreport
      exact hreport
  | outcome expression success member fields =>
    cases success <;> exact extends_add hfiles _
  | check settings candidate c => exact extends_foldl_take hfiles taken _

theorem extends_after (hfiles : l.directory.isSome) (hlogger : logger.directory.isSome)
    (taken : Logger) (calls : List Call) :
    l.Extends (l.after logger taken calls) (l.journal.mainLines (calls.flatMap Call.records))
      (errorLines (calls.flatMap (Call.reported taken))) := by
  induction calls generalizing l with
  | nil => exact .refl l
  | cons call calls ih =>
    have hstep := extends_take hfiles hlogger taken call
    have hfiles' : (l.take logger taken call).directory.isSome := by rwa [hstep.directory]
    have hrun := hstep.trans (ih hfiles')
    rw [hstep.mainLines, ← Journal.mainLines_append] at hrun
    rw [after, List.foldl_cons, ← after, List.flatMap_cons, List.flatMap_cons, errorLines,
      List.map_append]
    exact hrun

def Call.IsKept (taken : Logger) : Call → Prop
  | .error text arguments => (Marked.fill? text arguments).isSome
  | .check settings candidate c =>
    taken.directory.isSome ∨ ∀ f, validate settings candidate c ≠ .error (.fault f)
  | _ => True

/-- A call reports one error at most, and none if it is not about an error. -/
theorem Call.length_reported (taken : Logger) (call : Call) :
    (call.reported taken).length ≤ call.isError.toNat ∧
      ((call.reported taken).length = call.isError.toNat ↔ call.IsKept taken) := by
  cases call with
  | debug text arguments =>
    have hnone : (Call.debug text arguments).reported taken = [] := by
      rw [Call.reported, errors, records]
      cases Marked.fill? text arguments <;> rfl
    rw [hnone]
    exact ⟨Nat.zero_le _, fun _ => trivial, fun _ => rfl⟩
  | error text arguments =>
    rw [Call.reported, errors, records, IsKept, isError]
    cases Marked.fill? text arguments with
    | none => exact ⟨Nat.zero_le _, iff_of_false (by decide) (by decide)⟩
    | some filled => exact ⟨Nat.le_refl _, fun _ => rfl, fun _ => rfl⟩
  | outcome expression success member fields =>
    have hnone : (Call.outcome expression success member fields).reported taken = [] := by
      rw [Call.reported, errors, records]
      cases success <;> rfl
    rw [hnone]
    exact ⟨Nat.zero_le _, fun _ => trivial, fun _ => rfl⟩
  | check settings candidate c =>
    have hlength := length_errors (Check.recorded_run settings candidate c)
    rw [Call.reported, errorsTaken, IsKept, isError, ← isFault_eq_false_iff, validate]
    split
    · rename_i htaken
      rw [hlength]
      exact ⟨Nat.le_refl _, fun _ => .inl htaken, fun _ => rfl⟩
    · rename_i htaken
      rw [or_iff_right htaken]
      cases isFault (c.run settings candidate).answer with
      | true => exact ⟨Nat.zero_le _, iff_of_false (by decide) (by decide)⟩
      | false => exact ⟨Nat.zero_le _, fun _ => rfl, fun _ => rfl⟩

theorem length_flatMap_reported (taken : Logger) (calls : List Call) :
    (calls.flatMap (Call.reported taken)).length ≤ calls.countP Call.isError ∧
      ((calls.flatMap (Call.reported taken)).length = calls.countP Call.isError ↔
        ∀ call ∈ calls, call.IsKept taken) := by
  induction calls with
  | nil => exact ⟨Nat.le_refl 0, fun _ => List.forall_mem_nil _, fun _ => rfl⟩
  | cons call calls ih =>
    obtain ⟨hle, hiff⟩ := ih
    obtain ⟨hcall, hkept⟩ := call.length_reported taken
    have hcount : (call :: calls).countP Call.isError =
        call.isError.toNat + calls.countP Call.isError := by
      rw [List.countP_cons, Nat.add_comm]
      cases call.isError <;> rfl
    rw [List.flatMap_cons, List.length_append, hcount, List.forall_mem_cons, ← hkept, ← hiff]
    omega

/-- Behind any calls, made once logging is set up with a directory and a threshold, the main log has
all records of the threshold and above, in their order, where no threshold stands for that of
warnings. The log of errors has the errors that are reported. It has one record for every error just
if the arguments of all errors fit, and the logger that checks have taken has a directory or no check
ends in a fault. -/
theorem after_calls {opens : String → Bool} {path name : String} {n : Nat} (hpath : path ≠ "")
    (hopens : opens (Text.plainPath path) = true) (hname : Journal.threshold? name = .ok n)
    (before : Logging) (taken : Logger) (calls : List Call) :
    (∀ level, Level.ofName? name = some level → n = level.number) ∧
    (∀ settings candidate c, Check.Recorded candidate c (c.run settings candidate)) ∧
    ∃ logger l, before.setup opens path name = .ok (logger, l) ∧
      (∀ level, l.journal.keeps level = true ↔ (if n = 0 then 30 else n) ≤ level.number) ∧
      (l.after logger taken calls).journal.main =
        l.journal.main ++ l.journal.mainLines (calls.flatMap Call.records) ∧
      (l.after logger taken calls).journal.errors =
        l.journal.errors ++ errorLines (calls.flatMap (Call.reported taken)) ∧
      ((l.after logger taken calls).journal.errors.length =
          l.journal.errors.length + calls.countP Call.isError ↔
        (∀ text arguments, .error text arguments ∈ calls →
          (Marked.fill? text arguments).isSome) ∧
        (taken.directory.isSome ∨ ∀ settings candidate c, .check settings candidate c ∈ calls →
          ∀ f, validate settings candidate c ≠ .error (.fault f))) := by
  obtain ⟨logger, l, hsetup, hlogger, hfiles, hthreshold⟩ := exists_setup hpath hopens hname before
  have hafter := extends_after hfiles hlogger taken calls
  refine ⟨fun level hlevel => ?level, Check.recorded_run, logger, l, hsetup, fun level => ?keeps,
    ?main, ?errors, ?complete⟩
  case level =>
    rw [threshold?_of_ofName? hlevel] at hname
    exact (Except.ok.inj hname).symm
  case keeps => rw [Journal.keeps, hthreshold, Journal.effective, decide_eq_true_iff]
  case main => rw [hafter.journal, Journal.extend]
  case errors => rw [hafter.journal, Journal.extend]
  case complete =>
    rw [hafter.journal, Journal.extend, List.length_append, Nat.add_left_cancel_iff, errorLines,
      List.length_map, (length_flatMap_reported taken calls).2]
    constructor
    · intro hkept
      refine ⟨fun text arguments hmem => hkept _ hmem, ?_⟩
      by_cases htaken : taken.directory.isSome
      · exact .inl htaken
      · exact .inr fun settings candidate c hmem => (hkept _ hmem).resolve_left htaken
    · rintro ⟨herrors, hchecks⟩ call hmem
      cases call with
      | debug => trivial
      | error text arguments => exact herrors text arguments hmem
      | outcome => trivial
      | check settings candidate c => exact hchecks.imp id fun h => h settings candidate c hmem

end

def bareLogger : Logger := ⟨0, none⟩

def strayRule : Check := ⟨some "nope > 1", none, none, none⟩

def strayCheck : Call := .check (.ok Authored.plainSettings) (.mapping "dict" []) strayRule

def strayText : String :=
  "Evaluation failed for dict: Unknown identifier 'nope'. No eligible members " ++
    "(expression: 'nope > 1') [UNKNOWN_IDENTIFIER]"

def mixedCalls : List Call :=
  [.debug "skipped" [], .error "lost %d" [.int 3], .outcome "x > 0" false none [], strayCheck,
    .error "lost %d" []]

def logsAfter [Things] (taken : Logger) (name : String) (calls : List Call) :
    Except Failure (List String × List String) := do
  let (logger, l) ← unset.setup (fun _ => true) "logs" name
  let l := l.after logger taken calls
  return (l.journal.main, l.journal.errors)

open scoped Things in
theorem after_mixedCalls : Journal.threshold? "info" = .ok 20 ∧
    logsAfter bareLogger "info" mixedCalls =
      .ok (["ERROR | expression_validation | lost 3",
          "INFO | expression_validation | [INVALID] | expr='x > 0'",
          "ERROR | expression_validation | " ++ strayText,
          "ERROR | expression_validation | lost %d"],
        ["ERROR | expression_validation.errors | lost 3",
          "ERROR | expression_validation.errors | lost %d"]) := by
  have hname : Journal.threshold? "info" = .ok 20 := by decide +kernel
  obtain ⟨-, -, logger, l, hsetup, -, hmain, herrors, -⟩ :=
    @after_calls Things.bare (fun _ => true) "logs" "info" 20 (by decide) rfl hname unset bareLogger
      mixedCalls
  refine ⟨hname, ?_⟩
  rw [logsAfter, hsetup]
  show Except.ok ((l.after logger bareLogger mixedCalls).journal.main, _) = _
  rw [hmain, herrors]
  cases hsetup
  decide +kernel

open scoped Things in
/-- The fault that a check ends in is missing from the log of errors. -/
theorem after_strayCheck :
    validate (.ok Authored.plainSettings) (.mapping "dict" []) strayRule =
      .error (.fault ⟨.unknownName "nope" [], some "nope > 1"⟩) ∧
    Journal.errorLines strayCheck.errors =
      ["ERROR | expression_validation.errors | " ++ strayText] ∧
    logsAfter bareLogger "INFO" [strayCheck] =
      .ok (["ERROR | expression_validation | " ++ strayText], []) := by
  decide +kernel

end Logging

end RuleCheck
