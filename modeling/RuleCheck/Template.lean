import RuleCheck.Template.Layout
import RuleCheck.Text.Quoted

/-!
# Templates

A template is a text with fields in braces, and a doubled brace stands for one. There is one
subject, a text, and each field writes it: the subject itself, one of its characters, or whatever
is reached from it by attributes, as it is or quoted, cut and padded to a width. What the attributes
of things are is left open. Fields name the subject by its number or are numbered from the left,
but not both in one template. A field may compute its layout from further fields, but these may not
go on like that.
-/

set_option autoImplicit false

namespace RuleCheck

open Text

namespace Template

inductive Part (Thing : Type)
  | text (cs : List Char)
  | thing (t : Thing)

end Template

/-- The things that the fields of a template can reach beside texts. Asked for an attribute, for an
item by its number or its name, for a quoted form, or to be written in a layout, a thing answers or
refuses. -/
class Things where
  Thing : Type
  member : Template.Part Thing → List Char → Except TemplateDefect (Template.Part Thing)
  item : Thing → Nat → Except TemplateDefect (Template.Part Thing)
  entry : Thing → List Char → Except TemplateDefect (Template.Part Thing)
  quoted : Char → Thing → Except TemplateDefect (List Char)
  written : Thing → List Char → Except TemplateDefect (List Char)

namespace Things

scoped instance bare : Things where
  Thing := Empty
  member _ _ := .error .attribute
  item t _ := nomatch t
  entry t _ := nomatch t
  quoted _ t := nomatch t
  written t _ := nomatch t

end Things

namespace Template

variable [Things]

inductive Numbering
  | unset
  | counted (next : Nat)
  | numbered

def subjectNumber (numbering : Numbering) (name : List Char) :
    Except TemplateDefect (Nat × Numbering) := do
  match ← number? name, name, numbering with
  | none, [], .unset => return (0, .counted 1)
  | none, [], .counted next => return (next, .counted (next + 1))
  | none, [], .numbered => throw .format
  | none, _ :: _, _ => throw .name
  | some n, _, .unset => return (n, .numbered)
  | some n, _, .numbered => return (n, .numbered)
  | some _, _, .counted _ => throw .format

def itemOf (part : Part Things.Thing) (index : List Char) :
    Except TemplateDefect (Part Things.Thing) := do
  match part, ← number? index with
  | .text cs, some n =>
    match cs[n]? with
    | some c => return .text [c]
    | none => throw .index
  | .text _, none => throw .key
  | .thing t, some n => Things.item t n
  | .thing t, none => Things.entry t index

def select (limit : Nat) (part : Part Things.Thing) (cs : List Char) :
    Except TemplateDefect (Part Things.Thing) :=
  match limit, cs with
  | _, [] => .ok part
  | limit + 1, '[' :: cs =>
    match cs.takeWhile (· != ']'), cs.dropWhile (· != ']') with
    | _, [] => .error .format
    | [], _ => .error .format
    | index, _ :: rest => do select limit (← itemOf part index) rest
  | limit + 1, '.' :: cs =>
    match cs.takeWhile fun c => c != '.' && c != '[' with
    | [] => .error .format
    | name => do
      select limit (← Things.member part name) (cs.dropWhile fun c => c != '.' && c != '[')
  | _, _ => .error .format

def quotedText (conversion : Char) (cs : List Char) : Except TemplateDefect (List Char) :=
  match conversion with
  | 's' => .ok cs
  | 'r' => .ok (quotedChars cs)
  | 'a' => .ok (inAscii (quotedChars cs))
  | _ => .error .format

def quotedThing (conversion : Char) (t : Things.Thing) : Except TemplateDefect (List Char) :=
  if ['s', 'r', 'a'].contains conversion then Things.quoted conversion t else .error .format

def convert (conversion : Option Char) (part : Part Things.Thing) :
    Except TemplateDefect (Part Things.Thing) :=
  match conversion, part with
  | none, part => .ok part
  | some c, .text cs => (quotedText c cs).map Part.text
  | some c, .thing t => (quotedThing c t).map Part.text

def splitName (name : List Char) : List Char × List Char :=
  (name.takeWhile fun c => c != '.' && c != '[', name.dropWhile fun c => c != '.' && c != '[')

def shownPart (subject : List Char) (numbering : Numbering) (s : Slot) :
    Except TemplateDefect (Part Things.Thing × Numbering) := do
  let (first, rest) := splitName s.name
  let (n, numbering) ← subjectNumber numbering first
  if n ≠ 0 then throw .index
  let part ← select rest.length (.text subject) rest
  return (← convert s.conversion part, numbering)

def render (part : Part Things.Thing) (layout : List Char) : Except TemplateDefect (List Char) :=
  match part with
  | .text cs => layOut cs layout
  | .thing t => Things.written t layout

mutual

def write (subject : List Char) (depth : Nat) : (limit : Nat) → Numbering → List Char →
    Except TemplateDefect (List Char × Numbering)
  | 0, _, _ => .error .format
  | limit + 1, numbering, cs => do
    let (text, rest) ← literal cs
    match rest with
    | none => return (text, numbering)
    | some rest =>
      let (s, rest) ← slot rest
      let (part, numbering) ← shownPart subject numbering s
      let (layout, numbering) ← writeLayout subject depth limit numbering s
      let shown ← render part layout
      let (more, numbering) ← write subject depth limit numbering rest
      return (text ++ shown ++ more, numbering)

def writeLayout (subject : List Char) (depth : Nat) : (limit : Nat) → Numbering → Slot →
    Except TemplateDefect (List Char × Numbering)
  | limit, numbering, s =>
    if !s.nested then .ok (s.layout, numbering)
    else
      match depth, limit with
      | depth + 1, limit + 1 => write subject depth limit numbering s.layout
      | _, _ => .error .format

end

end Template

def Template.fill [Things] (template subject : String) : Except Failure String :=
  let cs := template.toList
  (Template.write subject.toList 1 (2 * cs.length + 2) .unset cs).mapError Failure.template
    |>.map fun written => String.ofList written.1

end RuleCheck
