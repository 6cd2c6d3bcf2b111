import RuleCheck.Text.Letter

/-!
# Command line arguments

There are three commands. Before a command stand the options that are common to all, behind
it its own arguments. Options may be abbreviated as long as it is clear what is meant,
single letters may be written together, and a value may be attached with an equality sign.
What begins like an option but has a blank in it, or is a negative number, is none. Behind
two dashes there are no options. Asking for help ends the reading.
-/

set_option autoImplicit false

namespace RuleCheck.Command

inductive Verbosity
  | quiet
  | verbose
  | debug
  deriving DecidableEq, Repr

inductive Topic
  | help
  | verbosity (v : Verbosity)
  | data
  | member
  | message
  | json
  deriving DecidableEq, Repr

structure Flag where
  names : List String
  topic : Topic
  hasValue : Bool

inductive Refusal
  | help
  | misuse
  deriving DecidableEq, Repr

inductive Request
  | normalize (expression : String) (member : Option String)
  | check (expression data : String) (member message : Option String) (json : Bool)
  | templates (json : Bool)
  deriving DecidableEq, Repr

structure Invocation where
  verbosity : Option Verbosity
  request : Option Request
  deriving DecidableEq, Repr

inductive Word
  | plain (text : String)
  | divider
  | marks (topics : List Topic)
  | valued (topic : Topic) (value : Option String)
  | unknown
  | broken

namespace Word

def named? (flags : List Flag) (name : String) : Option Flag :=
  flags.find? fun f => f.names.contains name

def split (cs : List Char) : List Char × Option (List Char) :=
  let name := cs.takeWhile (· != '=')
  if name.length < cs.length then (name, some (cs.drop (name.length + 1))) else (name, none)

def ofFlag (f : Flag) (attached : Option (List Char)) : Word :=
  if f.hasValue then valued f.topic (attached.map String.ofList)
  else if attached.isNone then marks [f.topic]
  else broken

def ofLetters (flags : List Flag) (f : Flag) (letters : List Char) : Word :=
  if f.hasValue then valued f.topic (some (String.ofList letters))
  else if letters.isEmpty then broken
  else
    match letters.mapM fun c => named? flags (String.ofList ['-', c]) with
    | some more => if more.any (·.hasValue) then broken else marks ((f :: more).map (·.topic))
    | none => broken

def abbreviated (flags : List Flag) (start : List Char) : List Flag :=
  flags.flatMap fun f => (f.names.filter fun name => start.isPrefixOf name.toList).map fun _ => f

def areDigits (cs : List Char) : Bool :=
  !cs.isEmpty && cs.all fun c => (Text.digitValue? c).isSome

def isNegativeNumber : List Char → Bool
  | '-' :: cs =>
    areDigits cs ||
      match cs.dropWhile fun c => (Text.digitValue? c).isSome with
      | '.' :: rest => areDigits rest
      | _ => false
  | _ => false

def ofOther (cs : List Char) : Word :=
  if isNegativeNumber cs || cs.contains ' ' then plain (String.ofList cs) else unknown

def read (flags : List Flag) (text : String) : Except Refusal Word :=
  match text.toList with
  | '-' :: c :: rest =>
    let cs := '-' :: c :: rest
    let (name, value) := split cs
    match named? flags text, named? flags (String.ofList name) with
    | some f, _ => .ok (ofFlag f none)
    | none, some f =>
      .ok (if c == '-' then ofFlag f value else ofLetters flags f (value.getD []))
    | none, none =>
      if c == '-' then
        match abbreviated flags name with
        | [] => .ok (ofOther cs)
        | [f] => .ok (ofFlag f value)
        | _ => .error .misuse
      else
        match named? flags (String.ofList ['-', c]) with
        | some f => .ok (ofLetters flags f rest)
        | none => .ok (ofOther cs)
  | _ => .ok (plain text)

def readAll (flags : List Flag) : List String → Except Refusal (List Word)
  | [] => .ok []
  | "--" :: rest => .ok (divider :: rest.map plain)
  | text :: rest => do return (← read flags text) :: (← readAll flags rest)

end Word

structure Found where
  subject : Option String
  values : List (Topic × String)
  marks : List Topic
  hasSurplus : Bool

namespace Found

def nothing : Found := ⟨none, [], [], false⟩

def wantsSubject (hasSubject : Bool) (found : Found) : Bool := hasSubject && found.subject.isNone

def take (hasSubject : Bool) : Found → List Word → Except Refusal Found
  | found, [] => .ok found
  | found, .divider :: .plain text :: ws =>
    if found.wantsSubject hasSubject then take hasSubject { found with subject := some text } ws
    else take hasSubject { found with hasSurplus := true } ws
  | found, .plain text :: .divider :: ws =>
    if found.wantsSubject hasSubject then take hasSubject { found with subject := some text } ws
    else take hasSubject { found with hasSurplus := true } ws
  | found, .plain text :: ws =>
    if found.wantsSubject hasSubject then take hasSubject { found with subject := some text } ws
    else take hasSubject { found with hasSurplus := true } ws
  | found, .divider :: ws => take hasSubject { found with hasSurplus := true } ws
  | found, .unknown :: ws => take hasSubject { found with hasSurplus := true } ws
  | found, .marks topics :: ws =>
    if topics.contains .help then .error .help
    else take hasSubject { found with marks := topics ++ found.marks } ws
  | found, .valued topic (some value) :: ws =>
    take hasSubject { found with values := (topic, value) :: found.values } ws
  | found, .valued topic none :: .plain value :: ws =>
    take hasSubject { found with values := (topic, value) :: found.values } ws
  | _, .valued _ none :: _ => .error .misuse
  | _, .broken :: _ => .error .misuse

def value? (topic : Topic) (found : Found) : Option String := found.values.lookup topic

def needed (value : Option String) : Except Refusal String :=
  match value with
  | some text => .ok text
  | none => .error .misuse

def finish (found : Found) (request : Request) : Except Refusal Request :=
  if found.hasSurplus then .error .misuse else .ok request

end Found

namespace Flag

def help : Flag := ⟨["-h", "--help"], .help, false⟩

def common : List Flag :=
  [help, ⟨["-q", "--quiet"], .verbosity .quiet, false⟩,
    ⟨["-v", "--verbose"], .verbosity .verbose, false⟩,
    ⟨["--debug"], .verbosity .debug, false⟩]

def member : Flag := ⟨["--member"], .member, true⟩

def json : Flag := ⟨["--json"], .json, false⟩

def ofNormalize : List Flag := [help, member]

def ofCheck : List Flag :=
  [help, ⟨["--data"], .data, true⟩, member, ⟨["--message"], .message, true⟩, json]

def ofTemplates : List Flag := [help, json]

end Flag

namespace Request

def found (flags : List Flag) (hasSubject : Bool) (args : List String) :
    Except Refusal Found := do
  Found.take hasSubject .nothing (← Word.readAll flags args)

def read (command : String) (args : List String) : Except Refusal Request :=
  match command with
  | "normalize" => do
    let f ← found Flag.ofNormalize true args
    f.finish (normalize (← Found.needed f.subject) (f.value? .member))
  | "check" => do
    let f ← found Flag.ofCheck true args
    f.finish (check (← Found.needed f.subject) (← Found.needed (f.value? .data))
      (f.value? .member) (f.value? .message) (f.marks.contains .json))
  | "templates" => do
    let f ← found Flag.ofTemplates false args
    f.finish (templates (f.marks.contains .json))
  | _ => .error .misuse

end Request

namespace Invocation

def addMark (verbosity : Option Verbosity) : Topic → Except Refusal (Option Verbosity)
  | .verbosity v => if verbosity.all (· == v) then .ok (some v) else .error .misuse
  | .help => .error .help
  | _ => .ok verbosity

def leading : Option Verbosity → Bool → List Word → Except Refusal (Option Verbosity × Bool × Nat)
  | v, surplus, [] => .ok (v, surplus, 0)
  | v, surplus, .plain _ :: _ => .ok (v, surplus, 0)
  | v, surplus, .marks topics :: ws => do
    let (v, surplus, n) ← leading (← topics.foldlM addMark v) surplus ws
    return (v, surplus, n + 1)
  | v, _, .unknown :: ws => do
    let (v, surplus, n) ← leading v true ws
    return (v, surplus, n + 1)
  | _, _, _ :: _ => .error .misuse

def read (args : List String) : Except Refusal Invocation := do
  let ws ← Word.readAll Flag.common args
  let (verbosity, surplus, n) ← leading none false ws
  match args.drop n with
  | [] => if surplus then throw .misuse else return ⟨verbosity, none⟩
  | command :: rest =>
    let request ← Request.read command rest
    if surplus then throw .misuse else return ⟨verbosity, some request⟩

end Invocation

end RuleCheck.Command
