import RuleCheck.Command.Arguments
import RuleCheck.Command.Display
import RuleCheck.Command.Document
import RuleCheck.Data.File
import RuleCheck.Rule
import RuleCheck.Settings.Configuration

/-!
# Running a command

A command normalizes an expression, checks the members of a data file against one, or lists
the named expressions. The logging is set up anew for it. Its exit code is zero if it succeeds, one
if the members violate the expression, and two if the expression or the data file is at fault. Every
other failure ends the program.
-/

set_option autoImplicit false

namespace RuleCheck.Command

structure Reply where
  code : Nat
  display : Display
  deriving DecidableEq, Repr

/-- What a command finds: files and a reader for them, which directories can have log files, the
logging so far, and the logger that checks have taken. -/
structure System where
  file : String → Data.File
  reader : Data.Reader
  opens : String → Bool
  logging : Logging
  logger : Logger

structure Transcript where
  logging : Logging
  reply : Except Failure Reply

namespace Reply

def success : Nat := 0

def violation : Nat := 1

def error : Nat := 2

def ofFailure : Failure → Except Failure Reply
  | .fault f =>
    .ok ⟨error, .panelOf ("EVALUATION ERROR (" ++ f.reason.name ++ ")") f.message⟩
  | .dataFile path defect =>
    .ok ⟨error, .panelOf "DATA FILE ERROR"
      ((Failure.message? (.dataFile path defect)).getD "")⟩
  | failure => .error failure

def document (expression data : String) (o : Outcome) : Document :=
  .object [("success", .flag o.success),
    ("message", (o.message.map Document.text).getD .null),
    ("member_names", .list (o.memberNames.map Document.text)),
    ("expression", .text expression), ("data", .text data)]

def printedDocument (d : Document) : Display := .printed (d.written 0 ++ "\n")

def ofOutcome (expression data : String) (json : Bool) (o : Outcome) : Reply :=
  let code := if o.success then success else violation
  if json then ⟨code, printedDocument (document expression data o)⟩
  else if o.success then ⟨code, .panelOf "VALID" expression⟩
  else ⟨code, .panelOf "INVALID" (expression ++ "\n" ++ o.message.getD "")⟩

def ofNamedRules (json : Bool) : Reply :=
  if json then
    ⟨success, printedDocument (.object (namedRules.map fun (name, rule) => (name, .text rule)))⟩
  else
    ⟨success, .table "Expression Templates"
      (["Name", "Expression"] :: namedRules.map fun (name, rule) => [name, rule])⟩

def settle (result : Except Failure Reply) : Except Failure Reply :=
  match result with
  | .ok reply => .ok reply
  | .error failure => ofFailure failure

end Reply

namespace Transcript

def level (settings : Settings) : Option Verbosity → Level
  | some .quiet => .warning
  | some .verbose => .info
  | some .debug => .debug
  | none => settings.level

variable [Things]

def check (settings : Settings) (system : System) (logging : Logging) (c : Check)
    (expression data : String) (json : Bool) : Transcript :=
  match Data.load system.reader data (system.file data) with
  | .error failure => ⟨logging, Reply.ofFailure failure⟩
  | .ok candidate =>
    let report := c.run (.ok settings) candidate
    ⟨report.records.foldl system.logger.take logging,
      Reply.settle (report.answer.map (Reply.ofOutcome expression data json))⟩

def perform (settings : Settings) (system : System) (logging : Logging) : Request → Transcript
  | .normalize expression member =>
    ⟨logging, Reply.settle ((RuleCheck.normalize expression member).map fun text =>
      ⟨Reply.success, .printed (text ++ "\n")⟩)⟩
  | .check expression data member message json =>
    check settings system logging ⟨some expression, member, message, none⟩ expression data json
  | .templates json => ⟨logging, .ok (Reply.ofNamedRules json)⟩

end Transcript

def run [Things] (configuration : Configuration) (system : System) (args : List String) :
    Transcript :=
  match Invocation.read args with
  | .error .help => ⟨system.logging, .ok ⟨Reply.success, .help⟩⟩
  | .error .misuse => ⟨system.logging, .ok ⟨Reply.error, .misuse⟩⟩
  | .ok invocation =>
    match (configuration.get ".env").1 with
    | .error failure => ⟨system.logging, .error failure⟩
    | .ok (_, settings) =>
      let least := Transcript.level settings invocation.verbosity
      match system.logging.setup system.opens settings.logDirectory least.name with
      | .error failure => ⟨system.logging, .error failure⟩
      | .ok (_, logging) =>
        match invocation.request with
        | none => ⟨logging, .ok ⟨Reply.violation, .help⟩⟩
        | some request => .perform settings system logging request

end RuleCheck.Command
