import RuleCheck.Failure
import RuleCheck.Text.Blank
import RuleCheck.Text.Case

/-!
# Settings

Four variables of the environment set how rules are checked: the least level of log records
that are kept, the directory of the log files, whether texts are compared with distinctions
of case, and the message of a failure. A level must be one of five, in any mixture of
capitals and small letters.
-/

set_option autoImplicit false

namespace RuleCheck

open Text

inductive Level
  | debug
  | info
  | warning
  | error
  | critical
  deriving DecidableEq, Repr

namespace Level

def all : List Level := [debug, info, warning, error, critical]

def name : Level → String
  | debug => "DEBUG"
  | info => "INFO"
  | warning => "WARNING"
  | error => "ERROR"
  | critical => "CRITICAL"

def number : Level → Nat
  | debug => 10
  | info => 20
  | warning => 30
  | error => 40
  | critical => 50

def ofName? (name : String) : Option Level := all.find? fun l => l.name == capitals name

end Level

abbrev Environment := List (String × String)

namespace Environment

def set (name value : String) (env : Environment) : Environment :=
  (name, value) :: env.filter fun entry => entry.1 ≠ name

def unset (name : String) (env : Environment) : Environment :=
  env.filter fun entry => entry.1 ≠ name

def provide (env : Environment) (entry : String × String) : Environment :=
  match env.lookup entry.1 with
  | some _ => env
  | none => entry :: env

end Environment

structure Settings where
  level : Level
  logDirectory : String
  keepCase : Bool
  message : String
  deriving DecidableEq, Repr

namespace Settings

def levelName : String := "LOG_LEVEL"

def directoryName : String := "LOG_DIR"

def caseName : String := "EVAL_CASE_SENSITIVE"

def messageName : String := "EVAL_DEFAULT_MESSAGE"

def names : List String := [levelName, directoryName, caseName, messageName]

def defaultMessage : String := "The field \x7b0\x7d is invalid."

def isOn (text : String) : Bool :=
  ["1", "true", "yes", "on"].contains (String.ofList ((trim text.toList).map Char.toLower))

def ofEnvironment (env : Environment) : Except Failure Settings :=
  let level := (env.lookup levelName).getD "INFO"
  match Level.ofName? level with
  | none => .error (.levelName level)
  | some level => .ok {
      level
      logDirectory := (env.lookup directoryName).getD ""
      keepCase := isOn ((env.lookup caseName).getD "false")
      message := (env.lookup messageName).getD defaultMessage }

end Settings

end RuleCheck
