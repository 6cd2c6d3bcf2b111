import RuleCheck.Text.Blank

/-!
# The layout of data files

In a data file it counts where a character stands: on which line and in which column. What
belongs together is indented alike, and a key ends on the line that it begins on. Here are
the smallest parts: what is skipped between two parts, scalars without quotes, and scalars
with one or two. A scalar may go on on a further line; the break is then a blank, or one
break less than there are.
-/

set_option autoImplicit false

namespace RuleCheck.Data

structure Glyph where
  char : Char
  line : Nat
  column : Nat

abbrev Glyphs := List Glyph

def glyphs (line column : Nat) : List Char → List Glyph
  | [] => []
  | c :: cs =>
    ⟨c, line, column⟩ :: if c == '\n' then glyphs (line + 1) 0 cs else glyphs line (column + 1) cs

namespace Glyph

def isGap (g : Glyph) : Bool := g.char == ' ' || g.char == '\t' || g.char == '\n'

def isBlank (g : Glyph) : Bool := g.char == ' '

def isBreak (g : Glyph) : Bool := g.char == '\n'

def atGap : Glyphs → Bool
  | [] => true
  | g :: _ => g.isGap

def starts (c : Char) : Glyphs → Bool
  | [] => false
  | g :: _ => g.char == c

def startsAlone (c : Char) : Glyphs → Bool
  | [] => false
  | g :: rest => g.char == c && atGap rest

def isMarker (c : Char) : Glyphs → Bool
  | a :: b :: d :: rest =>
    a.column == 0 && a.char == c && b.char == c && d.char == c && atGap rest
  | _ => false

def atMarker (gs : Glyphs) : Bool := isMarker '-' gs || isMarker '.' gs

def skip (isComment : Bool) : Glyphs → Glyphs
  | [] => []
  | g :: rest =>
    if g.isBreak then skip false rest
    else if isComment || g.isBlank then skip isComment rest
    else if g.char == '#' then skip true rest
    else g :: rest

def next (gs : Glyphs) : Glyphs := skip false gs

def breaks (isBlank : Glyph → Bool) : Glyphs → Nat × Glyphs
  | [] => (0, [])
  | g :: rest =>
    if g.isBreak then
      let (n, rest) := breaks isBlank rest
      (n + 1, rest)
    else if isBlank g then breaks isBlank rest
    else (0, g :: rest)

def folded (n : Nat) : List Char := if n = 1 then [' '] else List.replicate (n - 1) '\n'

def gap? (isBlank : Glyph → Bool) (gs : Glyphs) : Option (List Char × Glyphs) :=
  let blanks := gs.takeWhile isBlank
  let rest := gs.dropWhile isBlank
  match rest.head? with
  | none => none
  | some g =>
    if g.isBreak then
      let (n, rest) := breaks isBlank rest
      if atMarker rest then none else some (folded n, rest)
    else some (blanks.map (·.char), rest)

def indicators : List Char :=
  ['-', '?', ':', ',', '[', ']', '{', '}', '#', '&', '*', '!', '|', '>', '\'', '"', '%', '@',
    Char.ofNat 96]

def flowEnds : List Char := [',', '[', ']', '{', '}']

def startsPlain (inFlow : Bool) : Glyphs → Bool
  | [] => false
  | g :: rest =>
    !g.isGap && (!indicators.contains g.char ||
      (!atGap rest && (g.char == '-' || (!inFlow && (g.char == '?' || g.char == ':')))))

def endsWord (inFlow : Bool) (g : Glyph) (rest : Glyphs) : Bool :=
  let beforeEnd := rest.head?.any fun h => flowEnds.contains h.char
  g.isGap
    || (g.char == ':' && (atGap rest || (inFlow && beforeEnd)))
    || (inFlow && (g.char == '?' || flowEnds.contains g.char))

def word (inFlow : Bool) : Glyphs → List Char × Glyphs
  | [] => ([], [])
  | g :: rest =>
    if endsWord inFlow g rest then ([], g :: rest)
    else
      let (w, rest) := word inFlow rest
      (g.char :: w, rest)

def goesOn (inFlow : Bool) (floor : Nat) : Glyphs → Bool
  | [] => false
  | g :: _ => g.char != '#' && (inFlow || floor ≤ g.column)

def plain (inFlow : Bool) (floor : Nat) : (limit : Nat) → Glyphs → List Char × Glyphs
  | 0, gs => ([], gs)
  | limit + 1, gs =>
    let (w, rest) := word inFlow gs
    match w, gap? isBlank rest with
    | c :: cs, some (space, after) =>
      if !space.isEmpty && goesOn inFlow floor after then
        match plain inFlow floor limit after with
        | ([], _) => (c :: cs, rest)
        | (more, rest) => (c :: cs ++ space ++ more, rest)
      else (c :: cs, rest)
    | w, _ => (w, rest)

def isBlankOrTab (g : Glyph) : Bool := g.char == ' ' || g.char == '\t'

def escapes : List (Char × Nat) :=
  [('0', 0), ('a', 7), ('b', 8), ('t', 9), ('\t', 9), ('n', 10), ('v', 11), ('f', 12), ('r', 13),
    ('e', 27), (' ', 32), ('"', 34), ('/', 47), ('\\', 92), ('N', 0x85), ('_', 0xA0),
    ('L', 0x2028), ('P', 0x2029)]

def codeLengths : List (Char × Nat) := [('x', 2), ('u', 4), ('U', 8)]

def hexValue? (c : Char) : Option Nat :=
  if c.isDigit then some (c.toNat - 48)
  else if 'a' ≤ c.toLower && c.toLower ≤ 'f' then some (c.toLower.toNat - 87)
  else none

def code? (length : Nat) (gs : Glyphs) : Option (Char × Glyphs) := do
  let ds := gs.take length
  guard (ds.length = length)
  let values ← ds.mapM fun g => hexValue? g.char
  let n := values.foldl (fun n d => 16 * n + d) 0
  guard n.isValidChar
  return (Char.ofNat n, gs.drop length)

def escape? : Glyphs → Option (List Char × Glyphs)
  | [] => none
  | g :: rest =>
    match escapes.lookup g.char, codeLengths.lookup g.char with
    | some n, _ => some ([Char.ofNat n], rest)
    | none, some length => (code? length rest).map fun (c, rest) => ([c], rest)
    | none, none =>
      if g.isBreak then
        let (n, rest) := breaks isBlankOrTab rest
        if atMarker rest then none else some (List.replicate n '\n', rest)
      else none

def quotedPart? (quote : Char) : Glyphs → Option (Option (List Char) × Glyphs)
  | [] => none
  | g :: rest =>
    if g.char == quote then
      if quote == '\'' && starts quote rest then some (some [quote], rest.drop 1)
      else some (none, rest)
    else if quote == '"' && g.char == '\\' then
      (escape? rest).map fun (cs, rest) => (some cs, rest)
    else if g.isGap then (gap? isBlankOrTab (g :: rest)).map fun (cs, rest) => (some cs, rest)
    else some (some [g.char], rest)

def quoted? (quote : Char) : (limit : Nat) → Glyphs → Option (List Char × Glyphs)
  | 0, _ => none
  | limit + 1, gs =>
    match quotedPart? quote gs with
    | none => none
    | some (none, rest) => some ([], rest)
    | some (some cs, rest) =>
      (quoted? quote limit rest).map fun (more, rest) => (cs ++ more, rest)

end Glyph

end RuleCheck.Data
