import RuleCheck.Template.Slot

/-!
# Layouts of templates

A layout says how wide a text is at least, what it is filled up with and on which side, and
how many of its characters are shown at most. A text has no sign, so what a layout says of
numbers alone is refused.
-/

set_option autoImplicit false

namespace RuleCheck.Template

open Text

inductive Alignment
  | left
  | right
  | centre
  | afterSign
  deriving DecidableEq, Repr

def alignment? : Char → Option Alignment
  | '<' => some .left
  | '>' => some .right
  | '^' => some .centre
  | '=' => some .afterSign
  | _ => none

structure Layout where
  fill : Char
  align : Alignment
  width : Nat
  limit : Option Nat

def takeNumber (cs : List Char) : Except TemplateDefect (Option Nat × List Char) := do
  let digits := cs.takeWhile fun c => (digitValue? c).isSome
  return (← number? digits, cs.drop digits.length)

def refuseNumberSigns (cs : List Char) : Except TemplateDefect Unit :=
  match cs with
  | c :: _ => if [' ', '+', '-', 'z', '#'].contains c then .error .format else .ok ()
  | [] => .ok ()

def readAlignment (cs : List Char) : Option Char × Option Alignment × List Char :=
  match cs with
  | fill :: a :: rest =>
    match alignment? a, alignment? fill with
    | some align, _ => (some fill, some align, rest)
    | none, some align => (none, some align, a :: rest)
    | none, none => (none, none, cs)
  | [a] =>
    match alignment? a with
    | some align => (none, some align, [])
    | none => (none, none, cs)
  | [] => (none, none, [])

def readFill (fill : Option Char) (cs : List Char) : Char × List Char :=
  match fill, cs with
  | some c, cs => (c, cs)
  | none, '0' :: rest => ('0', rest)
  | none, cs => (' ', cs)

def readLimit (cs : List Char) : Except TemplateDefect (Option Nat × List Char) :=
  match cs with
  | '.' :: rest => do
    match ← takeNumber rest with
    | (none, _) => throw .format
    | found => return found
  | cs => .ok (none, cs)

def Layout.read (cs : List Char) : Except TemplateDefect Layout := do
  let (fill, align, cs) := readAlignment cs
  refuseNumberSigns cs
  let (fill, cs) := readFill fill cs
  let (width, cs) ← takeNumber cs
  let (limit, cs) ← readLimit cs
  if cs ≠ [] ∧ cs ≠ ['s'] then throw .format
  if align = some .afterSign then throw .format
  return ⟨fill, align.getD .left, width.getD 0, limit⟩

def Layout.apply (layout : Layout) (text : List Char) : List Char :=
  let shown := match layout.limit with
    | some n => text.take n
    | none => text
  let missing := layout.width - shown.length
  let before := match layout.align with
    | .right => missing
    | .centre => missing / 2
    | _ => 0
  List.replicate before layout.fill ++ shown ++ List.replicate (missing - before) layout.fill

def layOut (text layout : List Char) : Except TemplateDefect (List Char) :=
  match layout with
  | [] => .ok text
  | layout => do return (← Layout.read layout).apply text

end RuleCheck.Template
