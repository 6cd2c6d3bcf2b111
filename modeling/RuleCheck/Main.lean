import RuleCheck.Command.Run

/-!
# The program

Reads the variables and files that a command needs, runs it, and writes what it shows. The
lines of the logs go to the stream of errors, and to files if there is a directory for them.
-/

set_option autoImplicit false

namespace RuleCheck.Command

def readEnvironment : IO Environment := do
  let found ← Settings.names.mapM fun name => do
    return (← IO.getEnv name).map fun value => (name, value)
  return found.filterMap id

def readFile (path : String) : IO Data.File := do
  try
    return .content (← IO.FS.readBinFile path)
  catch
    | .noFileOrDirectory .. => return .missing
    | .inappropriateType .. => return .missing
    | .invalidArgument .. => return .barred
    | _ => return .closed

def readConfiguration : IO Configuration := do
  let text := match ← readFile ".env" with
    | .content bytes => String.fromUTF8? bytes
    | _ => none
  return { Configuration.start (← readEnvironment) with
    files := (text.map fun text => (".env", text)).toList }

def readData (args : List String) : IO Data.File :=
  match Invocation.read args with
  | .ok ⟨_, some (.check _ data _ _ _)⟩ => readFile data
  | _ => return .missing

def openDirectory (settings : Except Failure Settings) : IO Bool := do
  match settings.toOption.bind fun s => Logging.directoryOf s.logDirectory with
  | none => return true
  | some directory =>
    try
      IO.FS.createDirAll directory
      return true
    catch _ => return false

def appendLines (path : String) (lines : List String) : IO Unit := do
  let file ← IO.FS.Handle.mk path .append
  file.putStr (Journal.text lines)

def fail (failure : Failure) : IO UInt32 := do
  (← IO.getStderr).putStrLn (failure.message?.getD "The program failed.")
  return 1

end RuleCheck.Command

open RuleCheck Command in
def main (args : List String) : IO UInt32 := do
  let configuration ← readConfiguration
  let settings := (configuration.get ".env").1.map (·.2)
  let isOpen ← openDirectory settings
  let content ← readData args
  match Logging.unset.get (fun _ => isOpen) settings none none with
  | .error failure => fail failure
  | .ok (logger, logging) =>
    let system : System :=
      ⟨fun _ => content, Data.read fun _ => .error .malformed, fun _ => isOpen, logging, logger⟩
    let transcript := @run Things.bare configuration system args
    for line in transcript.logging.console do
      (← IO.getStderr).putStrLn line
    for (directory, journal) in transcript.logging.journals do
      appendLines (directory ++ "/validation.log") journal.main
      appendLines (directory ++ "/errors.log") journal.errors
    match transcript.reply with
    | .ok reply =>
      (← IO.getStdout).putStr reply.display.written
      return reply.code.toUInt32
    | .error failure => fail failure
