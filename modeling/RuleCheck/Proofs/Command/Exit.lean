import RuleCheck.Command.Run
import RuleCheck.Proofs.Authored.Violated
import RuleCheck.Proofs.Command.Spelled
import RuleCheck.Proofs.Expr.Escaping
import RuleCheck.Proofs.Member.Lone
import RuleCheck.Proofs.Member.Table

/-!
# Exit codes of checks

A check on the command line has the exit code of its verdict: zero if the members of the data
file satisfy the rule and one if they violate it, and two for a fault of the rule or of the file,
whatever is shown and however much is recorded. All other failures end the program without a code
of its own. They come from settings or a directory of log files that can not be had, from a file
that may not be looked for or is refused for another reason than its form, from a numeral or numbers
beyond an operation, from a member that is too long, and from the template of a message.
-/

set_option autoImplicit false

namespace RuleCheck

open Number Text

namespace Data

theorem nodup_members (entries : List (Option String × Datum)) :
    (entryNames (Datum.members entries)).Nodup := by
  have hlast := nodup_foldl_assign Prod.fst Prod.snd entries [] List.nodup_nil
  refine List.Sublist.nodup ?_ hlast
  rw [Datum.members]
  generalize List.foldl _ _ entries = last
  induction last with
  | nil => exact List.Sublist.refl _
  | cons entry last ih =>
    obtain ⟨name, datum⟩ := entry
    cases hvalue : datum.value? with
    | none =>
      simp only [List.filterMap_cons, hvalue, Option.map_none]
      exact ih.cons name
    | some v =>
      simp only [List.filterMap_cons, hvalue, Option.map_some]
      exact ih.cons_cons name

/-- Why a file has no candidate and is not at fault itself: it may not be looked for, or reading it
ends in a failure of another sort. -/
inductive Escapes (reader : Reader) (path : String) : File → Failure → Prop
  | barred : Escapes reader path .barred .barredPath
  | read {bytes : ByteArray} {defect : Defect} (h : reader bytes = .error defect)
      (hfile : defect ≠ .unreadable ∧ defect ≠ .malformed) :
      Escapes reader path (.content bytes) (failureOf path defect)

/-- A file is a mapping of names to values, or is at fault, or it escapes. -/
theorem load_cases (reader : Reader) (path : String) (file : File) :
    (∃ entries, load reader path file = .ok (.mapping recordName entries) ∧
      (entryNames entries).Nodup) ∨
    (∃ defect, load reader path file = .error (.dataFile path defect)) ∨
    ∃ f, load reader path file = .error f ∧ Escapes reader path file f := by
  cases file with
  | missing => exact .inr (.inl ⟨_, rfl⟩)
  | barred => exact .inr (.inr ⟨_, rfl, .barred⟩)
  | closed => exact .inr (.inl ⟨_, rfl⟩)
  | content bytes =>
    rw [load]
    split
    · rename_i defect hdefect
      cases defect with
      | unreadable => exact .inr (.inl ⟨_, rfl⟩)
      | malformed => exact .inr (.inl ⟨_, rfl⟩)
      | numeral => exact .inr (.inr ⟨_, rfl, .read hdefect ⟨nofun, nofun⟩⟩)
      | moment => exact .inr (.inr ⟨_, rfl, .read hdefect ⟨nofun, nofun⟩⟩)
      | other => exact .inr (.inr ⟨_, rfl, .read hdefect ⟨nofun, nofun⟩⟩)
    · exact .inl ⟨_, rfl, nodup_members _⟩
    · exact .inr (.inl ⟨_, rfl⟩)

end Data

theorem fails_normalize (rule : String) (member : Option String) :
    FailsBy (fun f => ∃ fault, f = .fault fault) (normalize rule member) := by
  simp only [normalize]
  split
  · cases member with
    | some name => exact .ok _
    | none => exact .error ⟨_, rfl⟩
  · exact .ok _

def usableBindings (entries : List (String × Value)) : List Binding :=
  (entries.filter isUsable).map entryBinding

section

variable [Things] {st : Settings} {title : String} {entries : List (String × Value)} {c : Check}
  {source : String}

/-- What a failure of a check comes from that is no fault: a numeral of the rule that stands for no
number, a usable entry that is too long, numbers beyond an operation of the rule, or the template of
the message, once the rule is violated. -/
inductive Check.Escapes (st : Settings) (title : String) (entries : List (String × Value))
    (c : Check) (source : String) : Failure → Prop
  | numeral {ts : List Token} (hts : tokens source = .ok ts) (h : ¬ Reading.Convertible ts) :
      Escapes st title entries c source .numeral
  | longInteger (h : hasOverlong entries = true) : Escapes st title entries c source .longInteger
  | number {e : Expr} {row : Row} {f : Failure} (he : Expr.read source = .ok e)
      (hrow : Row.ofBindings (usableBindings entries) st.keepCase (some e.members) = .ok row)
      (h : e.Escapes row f) : Escapes st title entries c source f
  | template {f : Failure}
      (hviolated : RuleCheck.evaluate source (usableBindings entries) st.keepCase = .ok false)
      (hfill : Template.fill (c.template st) (c.subject (.mapping title entries)) = .error f)
      (h : Template.IsDefect f) : Escapes st title entries c source f

theorem Escapes.check {f : Failure} (h : Escapes source (usableBindings entries) st.keepCase f) :
    Check.Escapes st title entries c source f := by
  cases h with
  | numeral hts h => exact .numeral hts h
  | number he hrow h => exact .number he hrow h
  | member hb h =>
    obtain ⟨entry, hentry, rfl⟩ := List.mem_map.1 hb
    obtain ⟨hmem, husable⟩ := List.mem_filter.1 hentry
    cases h with
    | longInteger hlong =>
      exact .longInteger (hasOverlong_iff.2
        ⟨entry, hmem, husable, Option.isNone_iff_eq_none.2 hlong⟩)
    | nestedValue hkind hvalue =>
      obtain ⟨name, v⟩ := entry
      obtain rfl : v = .list _ := hvalue
      exact absurd hkind kind_ne_bool_of_list

/-- A check of some entries ends in an outcome or a fault, or it escapes. -/
theorem Check.ends_validate {rule : String} (hentries : (entryNames entries).Nodup)
    (hrule : c.expression = some rule) (hmembers : c.members = none) :
    Ends (fun _ => True)
      (fun f => ∃ source, normalize rule c.member = .ok source ∧
        Escapes st title entries c source f)
      (validate (.ok st) (.mapping title entries) c) := by
  have hvalidate := Authored.validate_eq (.ok st) (.mapping title entries) c rule.toList
  rw [String.ofList_toList, ← hrule] at hvalidate
  rw [hvalidate]
  split
  · exact .ok trivial
  · rw [hmembers, bindings_mapping title hentries]
    show Ends _ _ (do
      let found ← Check.evaluate (.ok st) rule c.member (usableBindings entries)
      Check.conclude (.ok st) (.mapping title entries) c found.2.verdict)
    rw [Check.evaluate]
    cases hsource : normalize rule c.member with
    | error f =>
      obtain ⟨fault, rfl⟩ := fails_normalize rule c.member f hsource
      exact .fault fault
    | ok source =>
      have hverdict : RuleCheck.evaluate source (usableBindings entries) st.keepCase =
          (evaluateIn source (usableBindings entries) st.keepCase).map (·.verdict) := by
        rw [RuleCheck.evaluate]
        cases evaluateIn source (usableBindings entries) st.keepCase <;> rfl
      have hends := evaluate_ends source (usableBindings entries) st.keepCase
      show Ends _ _ (do
        let found ← (evaluateIn source (usableBindings entries) st.keepCase).map (source, ·)
        Check.conclude (.ok st) (.mapping title entries) c found.2.verdict)
      cases hfound : evaluateIn source (usableBindings entries) st.keepCase with
      | error f =>
        rw [hverdict, hfound] at hends
        obtain ⟨b, hb⟩ | ⟨fault, hfault⟩ | ⟨failure, hfailure, hescapes⟩ := hends
        · cases hb
        · cases hfault
          exact .fault fault
        · cases hfailure
          exact .other ⟨source, rfl, hescapes.check⟩
      | ok found =>
        rw [hfound] at hverdict
        show Ends _ _ (Check.conclude (.ok st) (.mapping title entries) c found.verdict)
        rw [Authored.conclude_eq_fill]
        split
        · exact .ok trivial
        · rename_i hfalse
          rw [Bool.not_eq_true] at hfalse
          cases hfill : Template.fill (c.message.getD st.message)
              (c.member.getD (Candidate.mapping title entries).typeName) with
          | ok message => exact .ok trivial
          | error f =>
            refine .other ⟨source, rfl, .template ?_ hfill (Template.fails_fill _ _ f hfill)⟩
            rw [hverdict, Except.map, hfalse]

end

namespace Command

def exitCode? : Except Failure Outcome → Option Nat
  | .ok o => some (if o.success then Reply.success else Reply.violation)
  | .error (.fault _) => some Reply.error
  | .error (.dataFile _ _) => some Reply.error
  | .error _ => none

theorem exists_ofOutcome (expression path : String) (json : Bool) (o : Outcome) :
    ∃ display, Reply.ofOutcome expression path json o =
      ⟨if o.success then Reply.success else Reply.violation, display⟩ := by
  unfold Reply.ofOutcome
  cases json <;> cases o.success <;> exact ⟨_, rfl⟩

/-- A reply has the exit code of what it is made from, and there is none just if there is no
code. -/
theorem settle_cases (checked : Except Failure Outcome) (expression path : String) (json : Bool) :
    (∃ code display, exitCode? checked = some code ∧
      Reply.settle (checked.map (Reply.ofOutcome expression path json)) = .ok ⟨code, display⟩) ∨
    ∃ f, checked = .error f ∧ exitCode? checked = none ∧
      Reply.settle (checked.map (Reply.ofOutcome expression path json)) = .error f := by
  cases checked with
  | ok o =>
    obtain ⟨display, hreply⟩ := exists_ofOutcome expression path json o
    exact .inl ⟨_, display, rfl, congrArg Except.ok hreply⟩
  | error f =>
    cases f with
    | fault fault => exact .inl ⟨_, _, rfl, rfl⟩
    | dataFile path defect => exact .inl ⟨_, _, rfl, rfl⟩
    | _ => exact .inr ⟨_, rfl, rfl, rfl⟩

theorem threshold?_name (level : Level) : Journal.threshold? level.name = .ok level.number := by
  cases level <;> rfl

theorem settle_eq_error {f : Failure} {α : Type} (reply : α → Reply)
    (h : f = .logDirectory ∨ ∃ name, f = .levelName name) :
    Reply.settle ((Except.error f : Except Failure α).map reply) = .error f := by
  rcases h with rfl | ⟨name, rfl⟩ <;> rfl

theorem exists_levelName {configuration : Configuration} {file : String} {f : Failure}
    (h : (configuration.get file).1 = .error f) : ∃ name, f = .levelName name := by
  unfold Configuration.get Settings.ofEnvironment at h
  grind

section

variable [Things]

def checkFile (st : Settings) (system : System) (c : Check) (path : String) :
    Except Failure Outcome :=
  Data.load system.reader path (system.file path) >>= fun candidate => validate (.ok st) candidate c

/-- What a check comes to: its settings are read and the logging is set up first. -/
def checked (configuration : Configuration) (system : System) (c : Check) (path : String) :
    Except Failure Outcome := do
  let found ← (configuration.get ".env").1
  if (Logging.directoryOf found.2.logDirectory).any fun directory => !system.opens directory then
    throw .logDirectory
  checkFile found.2 system c path

/-- What a failure comes from that has no exit code: settings that cannot be read, a directory that
can have no log files, a data file that escapes, or what escapes from the check of its members. -/
inductive Escapes (configuration : Configuration) (system : System) (c : Check) (path : String) :
    Failure → Prop
  | settings {f : Failure} (h : (configuration.get ".env").1 = .error f) :
      Escapes configuration system c path f
  | logDirectory {n : Nat} {st : Settings} {directory : String}
      (hsettings : (configuration.get ".env").1 = .ok (n, st))
      (hdirectory : Logging.directoryOf st.logDirectory = some directory)
      (h : system.opens directory = false) : Escapes configuration system c path .logDirectory
  | file {f : Failure} (h : Data.Escapes system.reader path (system.file path) f) :
      Escapes configuration system c path f
  | check {n : Nat} {st : Settings} {entries : List (String × Value)} {rule source : String}
      {f : Failure} (hsettings : (configuration.get ".env").1 = .ok (n, st))
      (hload : Data.load system.reader path (system.file path) =
        .ok (.mapping Data.recordName entries))
      (hrule : c.expression = some rule) (hsource : normalize rule c.member = .ok source)
      (h : c.Escapes st Data.recordName entries source f) : Escapes configuration system c path f

variable {configuration : Configuration} {n : Nat} {st : Settings} {system : System} {c : Check}
  {rule path : String}

/-- A directory that can have no log files, or the check of the data file itself. -/
theorem checked_cases (system : System) (c : Check) (path : String)
    (hsettings : (configuration.get ".env").1 = .ok (n, st)) :
    (∃ directory, Logging.directoryOf st.logDirectory = some directory ∧
      system.opens directory = false ∧
      checked configuration system c path = .error .logDirectory) ∨
    ((Logging.directoryOf st.logDirectory).any (fun directory => !system.opens directory) = false ∧
      checked configuration system c path = checkFile st system c path) := by
  rw [checked, hsettings]
  cases hdirectory : Logging.directoryOf st.logDirectory with
  | none =>
    refine .inr ⟨rfl, ?_⟩
    simp [hdirectory, bind, Except.bind]
  | some directory =>
    cases hopens : system.opens directory with
    | false =>
      refine .inl ⟨directory, rfl, hopens, ?_⟩
      simp [hdirectory, hopens, bind, Except.bind, throw, throwThe, MonadExceptOf.throw]
    | true =>
      refine .inr ⟨by simp [hopens], ?_⟩
      simp [hdirectory, hopens, bind, Except.bind]

/-- Checking the members of a data file has an exit code, or it escapes. -/
theorem exists_exitCode_or_escapes (hrule : c.expression = some rule) (hmembers : c.members = none)
    (configuration : Configuration) (system : System) (path : String) :
    (∃ code, exitCode? (checked configuration system c path) = some code) ∨
      ∃ f, checked configuration system c path = .error f ∧
        Escapes configuration system c path f := by
  cases hsettings : (configuration.get ".env").1 with
  | error f => exact .inr ⟨f, by rw [checked, hsettings]; rfl, .settings hsettings⟩
  | ok found =>
    obtain ⟨n, st⟩ := found
    obtain ⟨directory, hdirectory, hopens, hchecked⟩ | ⟨-, hchecked⟩ :=
      checked_cases system c path hsettings
    · exact .inr ⟨_, hchecked, .logDirectory hsettings hdirectory hopens⟩
    rw [hchecked]
    obtain ⟨entries, hload, hentries⟩ | ⟨defect, hload⟩ | ⟨f, hload, hescapes⟩ :=
      Data.load_cases system.reader path (system.file path)
    · have hends : Ends (fun _ => True) (fun f => ∃ source, normalize rule c.member = .ok source ∧
          c.Escapes st Data.recordName entries source f)
            (validate (.ok st) (.mapping Data.recordName entries) c) :=
        Check.ends_validate hentries hrule hmembers
      have hcheck : checkFile st system c path =
          validate (.ok st) (.mapping Data.recordName entries) c := by
        rw [checkFile, hload]
        rfl
      rw [hcheck]
      generalize validate (.ok st) (.mapping Data.recordName entries) c = answer at hends
      cases hends with
      | ok => exact .inl ⟨_, rfl⟩
      | fault f => exact .inl ⟨_, rfl⟩
      | @other f h =>
        obtain ⟨source, hsource, hescapes⟩ := h
        exact .inr ⟨f, rfl, .check hsettings hload hrule hsource hescapes⟩
    · exact .inl ⟨Reply.error, by rw [checkFile, hload]; rfl⟩
    · exact .inr ⟨f, by rw [checkFile, hload]; rfl, .file hescapes⟩

/-- The reply to a check: that of its outcome, or else that of the failure, if it has one. -/
theorem reply_check (st : Settings) (system : System) (logging : Logging) (c : Check)
    (expression path : String) (json : Bool) :
    (Transcript.check st system logging c expression path json).reply =
      Reply.settle ((checkFile st system c path).map (Reply.ofOutcome expression path json)) := by
  rw [Transcript.check, checkFile]
  cases Data.load system.reader path (system.file path) <;> rfl

/-- The program replies to a check with what it comes to, whatever is recorded and shown. -/
theorem reply_run (configuration : Configuration) (system : System) {args : List String}
    {verbosity : Option Verbosity} {expression path : String} {member message : Option String}
    {json : Bool} (hargs : Invocation.read args =
      .ok ⟨verbosity, some (.check expression path member message json)⟩) :
    (run configuration system args).reply =
      Reply.settle ((checked configuration system ⟨some expression, member, message, none⟩ path).map
        (Reply.ofOutcome expression path json)) := by
  simp only [run, hargs]
  cases hsettings : (configuration.get ".env").1 with
  | error f =>
    rw [checked, hsettings]
    exact (settle_eq_error _ (.inr (exists_levelName hsettings))).symm
  | ok found =>
    obtain ⟨n, st⟩ := found
    simp only [Logging.setup]
    obtain ⟨directory, hdirectory, hopens, hchecked⟩ | ⟨hopens, hchecked⟩ :=
      checked_cases system ⟨some expression, member, message, none⟩ path hsettings
    · rw [hchecked, settle_eq_error _ (.inl rfl)]
      simp [hdirectory, hopens, bind, Except.bind, throw, throwThe, MonadExceptOf.throw]
    · rw [hchecked]
      simp only [hopens, threshold?_name]
      exact reply_check _ _ _ _ _ _ _

/-- A check of a data file has the exit code of its verdict, of the fault of its rule or of its
file, with any verbosity and whether the verdict is shown as a document or not, and every check can
be asked for. It ends the program without an exit code just if there is no such code, and then for
one of the reasons to escape. -/
theorem run_check (configuration : Configuration) (system : System) (verbosity : Option Verbosity)
    (expression path : String) (member message : Option String) (json : Bool) :
    let c : Check := ⟨some expression, member, message, none⟩
    let answer := checked configuration system c path
    Invocation.read (arguments verbosity expression path member message json) =
        .ok ⟨verbosity, some (.check expression path member message json)⟩ ∧
      ∀ args, Invocation.read args =
          .ok ⟨verbosity, some (.check expression path member message json)⟩ →
        let reply := (run configuration system args).reply
        (∀ code, (∃ display, reply = .ok ⟨code, display⟩) ↔ exitCode? answer = some code) ∧
        (∀ f, reply = .error f ↔ answer = .error f ∧ exitCode? answer = none) ∧
        ∀ f, reply = .error f → Escapes configuration system c path f := by
  intro c answer
  refine ⟨Invocation.read_arguments verbosity expression path member message json,
    fun args hargs => ?_⟩
  have hreply : (run configuration system args).reply =
      Reply.settle (answer.map (Reply.ofOutcome expression path json)) :=
    reply_run configuration system hargs
  intro reply
  obtain ⟨code, display, hcode, hsettle⟩ | ⟨f, hanswer, hnone, hsettle⟩ :=
    settle_cases answer expression path json
  · have hok : reply = .ok ⟨code, display⟩ := hreply.trans hsettle
    rw [hok, hcode]
    refine ⟨fun other => ⟨?_, ?_⟩, fun f => ⟨nofun, nofun⟩, nofun⟩
    · rintro ⟨_, ⟨⟩⟩
      rfl
    · rintro ⟨⟩
      exact ⟨display, rfl⟩
  · have herror : reply = .error f := hreply.trans hsettle
    rw [herror, hnone]
    refine ⟨fun code => ⟨nofun, nofun⟩, fun g => ⟨?_, ?_⟩, ?_⟩
    · rintro ⟨⟩
      exact ⟨hanswer, rfl⟩
    · rintro ⟨hg, -⟩
      rw [hanswer] at hg
      cases hg
      rfl
    · rintro g ⟨⟩
      have hcases : (∃ code, exitCode? answer = some code) ∨
          ∃ f, answer = .error f ∧ Escapes configuration system c path f :=
        exists_exitCode_or_escapes rfl rfl configuration system path
      obtain ⟨code, hcode⟩ | ⟨g, hg, hescapes⟩ := hcases
      · cases hnone.symm.trans hcode
      · cases hanswer.symm.trans hg
        exact hescapes

end

def shelfFile (path : String) : Data.File :=
  match ([("shelf.yaml", "stock: 0\nname: tea"), ("days.yaml", "day: 2024-02-30")] :
    List (String × String)).lookup path with
  | some text => .content text.toUTF8
  | none => .missing

def shelfSystem : System :=
  ⟨shelfFile, Data.read fun _ => .error .malformed, fun _ => true, .unset, ⟨0, none⟩⟩

def shelfArguments : List String :=
  ["-v", "check", "--mem", "stock", "\x7b0\x7d > 0", "--json", "--data", "shelf.yaml"]

open scoped Things in
theorem run_shelfArguments :
    Invocation.read shelfArguments = .ok ⟨some .verbose,
      some (.check "\x7b0\x7d > 0" "shelf.yaml" (some "stock") none true)⟩ ∧
    (run (.start []) shelfSystem shelfArguments).reply.toOption.map Reply.code = some 1 := by
  have hargs : Invocation.read shelfArguments = .ok ⟨some .verbose,
      some (.check "\x7b0\x7d > 0" "shelf.yaml" (some "stock") none true)⟩ := by decide +kernel
  have hrun := (@run_check Things.bare (.start []) shelfSystem (some .verbose) "\x7b0\x7d > 0"
    "shelf.yaml" (some "stock") none true).2 shelfArguments hargs
  obtain ⟨display, hreply⟩ := (hrun.1 1).2 (by decide +kernel)
  exact ⟨hargs, by rw [hreply]; rfl⟩

open scoped Things in
/-- A numeral of the rule, the template of a violated rule and a moment of the data file let checks
end without an exit code. -/
theorem run_without_code :
    (run (.start []) shelfSystem ["check", "² = 2", "--data", "shelf.yaml"]).reply =
      .error .numeral ∧
    (run (.start []) shelfSystem
        ["check", "stock > 0", "--data", "shelf.yaml", "--message", "\x7b1\x7d"]).reply =
      .error (.template .index) ∧
    (run (.start []) shelfSystem ["check", "day = null", "--data", "days.yaml"]).reply =
      .error .moment := by
  decide +kernel

end Command

end RuleCheck
