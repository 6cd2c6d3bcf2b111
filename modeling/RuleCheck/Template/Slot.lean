import RuleCheck.Failure
import RuleCheck.Number.Binary
import RuleCheck.Text.Letter

/-!
# Fields of templates

A field stands in braces. It has a name, which may have parts in square brackets, perhaps a
letter that says how it is quoted, and perhaps a layout, in which further fields may stand.
A doubled brace is a brace and no field.
-/

set_option autoImplicit false

namespace RuleCheck.Template

open Text

structure Slot where
  name : List Char
  conversion : Option Char
  layout : List Char
  nested : Bool

def literal : List Char → Except TemplateDefect (List Char × Option (List Char))
  | [] => .ok ([], none)
  | '{' :: '{' :: cs => (literal cs).map fun (text, rest) => ('{' :: text, rest)
  | '}' :: '}' :: cs => (literal cs).map fun (text, rest) => ('}' :: text, rest)
  | ['{'] => .error .format
  | '{' :: c :: cs => .ok ([], some (c :: cs))
  | '}' :: _ => .error .format
  | c :: cs => (literal cs).map fun (text, rest) => (c :: text, rest)

def slotName (inside : Bool) : List Char → Except TemplateDefect (List Char × Char × List Char)
  | [] => .error .format
  | c :: cs =>
    let more (inside : Bool) :=
      (slotName inside cs).map fun (name, sign, rest) => (c :: name, sign, rest)
    if inside then more (c != ']')
    else if c == '{' then .error .format
    else if c == '}' || c == ':' || c == '!' then .ok ([], c, cs)
    else more (c == '[')

def layoutText (opened : Nat) : List Char → Except TemplateDefect (List Char × List Char)
  | [] => .error .format
  | c :: cs =>
    let more (opened : Nat) := (layoutText opened cs).map fun (text, rest) => (c :: text, rest)
    if c == '{' then more (opened + 1)
    else if c == '}' then if opened = 0 then .ok ([], cs) else more (opened - 1)
    else more opened

def withLayout (name : List Char) (conversion : Option Char) (cs : List Char) :
    Except TemplateDefect (Slot × List Char) := do
  let (layout, rest) ← layoutText 0 cs
  return (⟨name, conversion, layout, layout.contains '{'⟩, rest)

def slot (cs : List Char) : Except TemplateDefect (Slot × List Char) := do
  let (name, sign, rest) ← slotName false cs
  if sign == '}' then return (⟨name, none, [], false⟩, rest)
  else if sign == ':' then withLayout name none rest
  else
    match rest with
    | conversion :: '}' :: rest => return (⟨name, some conversion, [], false⟩, rest)
    | conversion :: ':' :: rest => withLayout name (some conversion) rest
    | _ => throw .format

def greatestNumber : Nat := Number.twoTo 63 - 1

def number? (cs : List Char) : Except TemplateDefect (Option Nat) :=
  match cs, cs.mapM digitValue? with
  | [], _ => .ok none
  | _, none => .ok none
  | _, some digits =>
    let n := digits.foldl (fun n d => 10 * n + d) 0
    if greatestNumber < n then .error .format else .ok (some n)

end RuleCheck.Template
