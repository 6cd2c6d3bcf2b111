import RuleCheck.Entries
import RuleCheck.Journal.Console
import RuleCheck.Journal.Marked
import RuleCheck.Text.Path

/-!
# The journal

Records of what happened go to two logs. The main log keeps those of a threshold level and
above, the log of errors keeps errors. A record is one line with its level and the name of its log.
Both logs are shown on the console, and written to files if there is a directory for them. Records
are given to loggers. Setting up the logging anew makes a new logger and sends the records of all
loggers elsewhere, but a logger reports errors to the log of errors only if it was made with a
directory itself.
-/

set_option autoImplicit false

namespace RuleCheck

open Text

structure Record where
  level : Level
  text : String
  deriving DecidableEq, Repr

namespace Record

def part (label text : String) : String := label ++ "=" ++ text

def outcome (expression : String) (success : Bool) (member : Option String)
    (fields : List (String × String)) : Record :=
  let verdict := if success then "[VALID]" else "[INVALID]"
  let parts := verdict :: part "expr" (quoted expression) ::
    (member.map (part "member")).toList ++ fields.map fun (key, text) => part key text
  ⟨if success then .debug else .info, " | ".intercalate parts⟩

end Record

structure Journal where
  threshold : Nat
  main : List String
  errors : List String
  deriving DecidableEq, Repr

namespace Journal

def mainName : String := "expression_validation"

def errorsName : String := "expression_validation.errors"

def thresholds : List (String × Nat) :=
  [("CRITICAL", 50), ("FATAL", 50), ("ERROR", 40), ("WARN", 30), ("WARNING", 30), ("INFO", 20),
    ("DEBUG", 10), ("NOTSET", 0)]

def threshold? (name : String) : Except Failure Nat :=
  match thresholds.lookup (capitals name) with
  | some n => .ok n
  | none => .error .level

def effective (threshold : Nat) : Nat := if threshold = 0 then 30 else threshold

def line (level : Level) (log text : String) : String :=
  level.name ++ " | " ++ log ++ " | " ++ text

def start (levelName : String) : Except Failure Journal := do
  return ⟨← threshold? levelName, [], []⟩

def keeps (j : Journal) (level : Level) : Bool := effective j.threshold ≤ level.number

def add (j : Journal) (r : Record) : Journal :=
  if j.keeps r.level then { j with main := j.main ++ [line r.level mainName r.text] } else j

def errorsThreshold : Nat := Level.error.number

def keepsError (level : Level) : Bool := effective errorsThreshold ≤ level.number

def addError (j : Journal) (r : Record) : Journal :=
  if keepsError r.level then { j with errors := j.errors ++ [line r.level errorsName r.text] }
  else j

def text (lines : List String) : String := String.join (lines.map (· ++ "\n"))

end Journal

/-- What records are given to. It has a number of its own and the directory it was made with. -/
structure Logger where
  number : Nat
  directory : Option String
  deriving DecidableEq, Repr

inductive Handler
  | console
  | file (directory : String)
  deriving DecidableEq, Repr

/-- The journal in use and its directory, the journals of other directories, the lines on the
console, how many loggers were made, and the logger that is handed out. -/
structure Logging where
  journal : Journal
  directory : Option String
  filed : List (String × Journal)
  console : List String
  made : Nat
  current : Option Logger

namespace Logging

def unset : Logging := ⟨⟨0, [], []⟩, none, [], [], 0, none⟩

def handlers (l : Logging) : List Handler := .console :: (l.directory.map Handler.file).toList

def directoryOf (path : String) : Option String :=
  if path.isEmpty then none else some (Text.plainPath path)

def journals (l : Logging) : List (String × Journal) :=
  match l.directory with
  | some directory => assign directory l.journal l.filed
  | none => l.filed

def setup (opens : String → Bool) (path levelName : String) (l : Logging) :
    Except Failure (Logger × Logging) := do
  let directory := directoryOf path
  if directory.any fun directory => !opens directory then throw .logDirectory
  let threshold ← Journal.threshold? levelName
  let logger : Logger := ⟨l.made, directory⟩
  let before := (directory.bind fun directory => l.journals.lookup directory).getD
    ⟨threshold, [], []⟩
  return (logger, ⟨{ before with threshold := threshold }, directory, l.journals, l.console,
    l.made + 1, some logger⟩)

def get (opens : String → Bool) (settings : Except Failure Settings)
    (path levelName : Option String) (l : Logging) : Except Failure (Logger × Logging) :=
  match l.current with
  | some logger => .ok (logger, l)
  | none => do
    let (path, levelName) ← match path, levelName with
      | some path, some levelName => pure (path, levelName)
      | path, levelName => do
        let s ← settings
        pure (path.getD s.logDirectory, levelName.getD s.level.name)
    l.setup opens path levelName

def write (add : Journal → Record → Journal) (r : Record) (l : Logging) : Logging :=
  l.handlers.foldl (fun l handler =>
    match handler with
    | .console => { l with console := l.console ++ [Console.line r.level.number r.text] }
    | .file _ => { l with journal := add l.journal r }) l

def add (l : Logging) (r : Record) : Logging :=
  if l.journal.keeps r.level then l.write Journal.add r else l

def addError (l : Logging) (r : Record) : Logging :=
  if Journal.keepsError r.level then l.write Journal.addError r else l

end Logging

namespace Logger

def reportError (logger : Logger) (text : String) (l : Logging) : Logging :=
  let l := l.add ⟨.error, text⟩
  if logger.directory.isSome then l.addError ⟨.error, text⟩ else l

def debug (text : String) (arguments : List Value) (l : Logging) : Logging :=
  match Marked.fill? text arguments with
  | some text => l.add ⟨.debug, text⟩
  | none => l

def error (logger : Logger) (text : String) (arguments : List Value) (l : Logging) : Logging :=
  match Marked.fill? text arguments with
  | some text => logger.reportError text l
  | none => l

def take (logger : Logger) (l : Logging) (r : Record) : Logging :=
  if r.level = .error then logger.reportError r.text l else l.add r

end Logger

end RuleCheck
