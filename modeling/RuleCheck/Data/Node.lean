import RuleCheck.Data.Glyph

/-!
# The structure of data files

A document holds scalars, sequences and mappings. In brackets and braces the parts are
separated by commas and layout does not matter. Elsewhere a sequence has a dash before each
of its items, a mapping has a key with a colon behind it for each entry, and all of them
begin in the same column. A key is a scalar on one line. There is one document in a file.
Anchors, tags, directives and blocks of literal text are refused.
-/

set_option autoImplicit false

namespace RuleCheck.Data

inductive Node
  | plain (text : String)
  | quoted (text : String)
  | sequence (items : List Node)
  | mapping (entries : List (Node × Node))

namespace Node

open Glyph

def empty : Node := plain ""

def scalar? (inFlow : Bool) (floor : Nat) (gs : Glyphs) : Option (Node × Glyphs) :=
  match gs with
  | [] => none
  | g :: rest =>
    if g.char == '"' || g.char == '\'' then
      (quoted? g.char (rest.length + 1) rest).map fun (cs, rest) =>
        (quoted (String.ofList cs), rest)
    else if startsPlain inFlow gs && !atMarker gs then
      let (cs, rest) := Glyph.plain inFlow floor gs.length gs
      some (plain (String.ofList cs), rest)
    else none

def longestKey : Nat := 1024

def afterKey? (inFlow : Bool) (start : Glyphs) (rest : Glyphs) : Option Glyphs :=
  match start, rest.dropWhile isBlank with
  | g :: _, colon :: value =>
    if colon.char == ':' && colon.line == g.line && colon.column - g.column ≤ longestKey &&
        (inFlow || atGap value) then some value
    else none
  | _, _ => none

def closesFlow (gs : Glyphs) : Bool := starts ',' gs || starts ']' gs || starts '}' gs

mutual

def inFlow? : (fuel : Nat) → Glyphs → Option (Node × Glyphs)
  | 0, _ => none
  | _ + 1, [] => none
  | fuel + 1, g :: rest =>
    if g.char == '[' then
      (flowItems? fuel (next rest)).map fun (items, rest) => (sequence items, rest)
    else if g.char == '{' then
      (flowEntries? fuel (next rest)).map fun (entries, rest) => (mapping entries, rest)
    else scalar? true 0 (g :: rest)

def flowPair? : (fuel : Nat) → Glyphs → Option (Node × Option Node × Glyphs)
  | 0, _ => none
  | fuel + 1, gs => do
    let (node, rest) ← inFlow? fuel gs
    match afterKey? true gs rest with
    | none => return (node, none, next rest)
    | some rest =>
      let rest := next rest
      if closesFlow rest then return (node, some empty, rest)
      let (value, rest) ← inFlow? fuel rest
      return (node, some value, next rest)

def flowItems? : (fuel : Nat) → Glyphs → Option (List Node × Glyphs)
  | 0, _ => none
  | fuel + 1, gs =>
    if starts ']' gs then some ([], gs.drop 1)
    else do
      let (node, value, rest) ← flowPair? fuel gs
      let item := match value with
        | some value => mapping [(node, value)]
        | none => node
      if starts ']' rest then return ([item], rest.drop 1)
      guard (starts ',' rest)
      let (items, rest) ← flowItems? fuel (next (rest.drop 1))
      return (item :: items, rest)

def flowEntries? : (fuel : Nat) → Glyphs → Option (List (Node × Node) × Glyphs)
  | 0, _ => none
  | fuel + 1, gs =>
    if starts '}' gs then some ([], gs.drop 1)
    else do
      let (key, value, rest) ← flowPair? fuel gs
      let entry := (key, value.getD empty)
      if starts '}' rest then return ([entry], rest.drop 1)
      guard (starts ',' rest)
      let (entries, rest) ← flowEntries? fuel (next (rest.drop 1))
      return (entry :: entries, rest)

end

def isAt (column : Nat) (gs : Glyphs) : Bool :=
  gs.head?.any (·.column == column) && !atMarker gs

def isBelow (start gs : Glyphs) : Bool :=
  match start, gs with
  | g :: _, h :: _ => g.line < h.line
  | _, _ => false

mutual

def inBlock? (floor : Nat) (fresh : Bool) : (fuel : Nat) → Glyphs →
    Option (Node × Glyphs)
  | 0, _ => none
  | _ + 1, [] => some (empty, [])
  | fuel + 1, g :: rest =>
    let gs := g :: rest
    if atMarker gs || g.column < floor then some (empty, gs)
    else if startsAlone '-' gs then if fresh then blockItems? g.column fuel gs else none
    else if g.char == '[' || g.char == '{' then inFlow? fuel gs
    else do
      let (node, rest) ← scalar? false floor gs
      if fresh && (afterKey? false gs rest).isSome then blockEntries? g.column floor fuel gs
      else return (node, rest)

def blockItems? (column : Nat) : (fuel : Nat) → Glyphs → Option (Node × Glyphs)
  | 0, _ => none
  | fuel + 1, gs => do
    let (item, rest) ← inBlock? (column + 1) true fuel (next (gs.drop 1))
    let rest := next rest
    if isAt column rest && startsAlone '-' rest then
      match ← blockItems? column fuel rest with
      | (sequence items, rest) => return (sequence (item :: items), rest)
      | _ => none
    else return (sequence [item], rest)

def blockEntries? (column floor : Nat) : (fuel : Nat) → Glyphs → Option (Node × Glyphs)
  | 0, _ => none
  | fuel + 1, gs => do
    let (key, rest) ← scalar? false floor gs
    let place := next (← afterKey? false gs rest)
    let fresh := isBelow gs place
    let (value, rest) ←
      if fresh && isAt column place && startsAlone '-' place then blockItems? column fuel place
      else inBlock? (column + 1) fresh fuel place
    let rest := next rest
    if isAt column rest then
      match ← blockEntries? column (column + 1) fuel rest with
      | (mapping entries, rest) => return (mapping ((key, value) :: entries), rest)
      | _ => none
    else return (mapping [(key, value)], rest)

end

def isOver : (limit : Nat) → Glyphs → Bool
  | 0, _ => false
  | limit + 1, gs =>
    match next gs with
    | [] => true
    | gs => isMarker '.' gs && isOver limit (gs.drop 3)

def ofText? (cs : List Char) : Option Node := do
  let start := next (glyphs 0 0 cs)
  let isMarked := isMarker '-' start
  let place := if isMarked then next (start.drop 3) else start
  let fresh := !isMarked || isBelow start place
  let (node, rest) ← inBlock? 0 fresh (4 * cs.length + 4) place
  guard (isOver (cs.length + 1) rest)
  return node

end Node

end RuleCheck.Data
