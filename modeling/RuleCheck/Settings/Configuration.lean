import RuleCheck.Settings.EnvFile

/-!
# The configuration

The settings are read once, at the first request, and kept until they are dropped. A file
of variables may then set those that are not set, and they stay set. A request that fails
keeps nothing, so the next one reads again.
-/

set_option autoImplicit false

namespace RuleCheck

/-- The environment, the files of variables, and the settings that are kept. Each reading
has a number of its own. -/
structure Configuration where
  environment : Environment
  files : List (String × String)
  kept : Option (Nat × Settings)
  readings : Nat

namespace Configuration

def start (environment : Environment) : Configuration := ⟨environment, [], none, 0⟩

def drop (c : Configuration) : Configuration := { c with kept := none }

def set (name value : String) (c : Configuration) : Configuration :=
  { c with environment := c.environment.set name value }

def unset (name : String) (c : Configuration) : Configuration :=
  { c with environment := c.environment.unset name }

def write (file text : String) (c : Configuration) : Configuration :=
  { c with files := (file, text) :: c.files.filter fun entry => entry.1 ≠ file }

def load (file : String) (c : Configuration) : Configuration :=
  match c.files.lookup file with
  | none => c
  | some text =>
    { c with environment :=
        (EnvFile.read c.environment text).foldl Environment.provide c.environment }

def get (file : String) (c : Configuration) :
    Except Failure (Nat × Settings) × Configuration :=
  match c.kept with
  | some found => (.ok found, c)
  | none =>
    let c := c.load file
    match Settings.ofEnvironment c.environment with
    | .error failure => (.error failure, c)
    | .ok settings =>
      let found := (c.readings, settings)
      (.ok found, { c with kept := some found, readings := c.readings + 1 })

end Configuration

end RuleCheck
