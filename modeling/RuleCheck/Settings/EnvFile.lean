import RuleCheck.Settings
import RuleCheck.Text.Substitute

/-!
# Files of variables

A file of variables has one on each line: a name, an equality sign and a value, which may
stand in quotes and then span lines. Comments begin with a number sign, and a value may
refer to variables in braces after a dollar sign. A line that is not like this is skipped.
-/

set_option autoImplicit false

namespace RuleCheck.EnvFile

open Text

def linesOf : List Char → List Char
  | '\r' :: '\n' :: cs => '\n' :: linesOf cs
  | '\r' :: cs => '\n' :: linesOf cs
  | c :: cs => c :: linesOf cs
  | [] => []

def isGap (c : Char) : Bool := isSpace c && c != '\n'

def dropLine (cs : List Char) : List Char := (cs.dropWhile (· != '\n')).drop 1

def quoted? (quote : Char) : List Char → Option (List Char × List Char)
  | [] => none
  | '\\' :: c :: cs =>
    if c == quote then
      match quoted? quote cs with
      | some (v, rest) => some ('\\' :: c :: v, rest)
      | none => some (['\\'], cs)
    else (quoted? quote (c :: cs)).map fun (v, rest) => ('\\' :: v, rest)
  | c :: cs =>
    if c == quote then some ([], cs) else (quoted? quote cs).map fun (v, rest) => (c :: v, rest)

def escapes : List (Char × Char) :=
  [('\\', '\\'), ('\'', '\''), ('"', '"'), ('a', Char.ofNat 7), ('b', Char.ofNat 8),
    ('f', Char.ofNat 12), ('n', '\n'), ('r', '\r'), ('t', '\t'), ('v', Char.ofNat 11)]

def escapesOf (quote : Char) : List (Char × Char) :=
  if quote == '"' then escapes else [('\\', '\\'), ('\'', '\'')]

def unescape (table : List (Char × Char)) : List Char → List Char
  | '\\' :: c :: cs =>
    match table.lookup c with
    | some d => d :: unescape table cs
    | none => '\\' :: unescape table (c :: cs)
  | c :: cs => c :: unescape table cs
  | [] => []

def uncomment : List Char → List Char
  | [] => []
  | c :: cs =>
    if isSpace c && (cs.dropWhile isSpace).head? == some '#' then [] else c :: uncomment cs

def value? : List Char → Option (List Char × List Char)
  | c :: cs =>
    if c == '\'' || c == '"' then
      (quoted? c cs).map fun (v, rest) => (unescape (escapesOf c) v, rest)
    else
      let line := (c :: cs).takeWhile (· != '\n')
      some (trimRight (uncomment line), (c :: cs).dropWhile (· != '\n'))
  | [] => some ([], [])

def valueOf? : List Char → Option (Option (List Char) × List Char)
  | '=' :: rest => (value? (rest.dropWhile isGap)).map fun (v, rest) => (some v, rest)
  | rest => some (none, rest)

def afterValue? (cs : List Char) : Option (List Char) :=
  let rest := cs.dropWhile isGap
  let rest := if rest.head? == some '#' then rest.dropWhile (· != '\n') else rest
  match rest with
  | [] => some []
  | c :: rest => if c == '\n' then some rest else none

def isNamePart (c : Char) : Bool := c != '=' && c != '#' && !isSpace c

def name? : List Char → Option (List Char × List Char)
  | '#' :: _ => none
  | '\'' :: cs =>
    match cs.takeWhile (· != '\''), cs.dropWhile (· != '\'') with
    | c :: name, _ :: rest => some (c :: name, rest)
    | _, _ => none
  | cs =>
    match cs.takeWhile isNamePart with
    | [] => none
    | name => some (name, cs.dropWhile isNamePart)

def withoutExport (cs : List Char) : List Char :=
  match afterMatch? (· == ·) "export".toList cs with
  | some (c :: rest) => if isGap c then rest.dropWhile isGap else cs
  | _ => cs

abbrev Entry := String × Option (List Char)

def entry (cs : List Char) : Option Entry × List Char :=
  let cs := withoutExport cs
  match name? cs with
  | none => (none, dropLine cs)
  | some (name, rest) =>
    let rest := rest.dropWhile isGap
    match valueOf? rest with
    | none => (none, dropLine rest)
    | some (value, rest) =>
      match afterValue? rest with
      | none => (none, dropLine rest)
      | some rest => (some (String.ofList name, value), rest)

def entries : (limit : Nat) → List Char → List Entry
  | 0, _ => []
  | limit + 1, cs =>
    match cs.dropWhile isSpace with
    | [] => []
    | cs =>
      match entry cs with
      | (some found, rest) => found :: entries limit rest
      | (none, rest) => entries limit rest

structure Reference where
  name : String
  /-- What stands for a variable that is not set. -/
  fallback : List Char
  /-- The number of characters of the reference. -/
  size : Nat

def reference? : List Char → Option Reference
  | '$' :: '{' :: cs =>
    let name := cs.takeWhile fun c => c != '}' && c != ':'
    match cs.drop name.length with
    | '}' :: _ => some ⟨String.ofList name, [], name.length + 3⟩
    | ':' :: '-' :: cs =>
      let fallback := cs.takeWhile (· != '}')
      if fallback.length < cs.length then
        some ⟨String.ofList name, fallback, name.length + fallback.length + 5⟩
      else none
    | _ => none
  | _ => none

def expandAfter (known : Environment) : Nat → List Char → List Char
  | _, [] => []
  | skip + 1, _ :: cs => expandAfter known skip cs
  | 0, c :: cs =>
    match reference? (c :: cs) with
    | some r =>
      ((known.lookup r.name).map String.toList).getD r.fallback
        ++ expandAfter known (r.size - 1) cs
    | none => c :: expandAfter known 0 cs

def expand (known : Environment) (cs : List Char) : List Char := expandAfter known 0 cs

def read (env : Environment) (text : String) : List (String × String) :=
  let cs := linesOf text.toList
  ((entries cs.length cs).foldl (fun (known, found) (name, value) =>
    match value with
    | some value =>
      let value := String.ofList (expand (env ++ known) value)
      (Environment.set name value known, Environment.set name value found)
    | none => (Environment.set name "" known, Environment.unset name found)) ([], [])).2

end RuleCheck.EnvFile
