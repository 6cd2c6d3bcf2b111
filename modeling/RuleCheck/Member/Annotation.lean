/-!
# Annotations

The text that declares the type of a member may be any expression. The common ones are made of
names, parts of names, quoted texts, numbers, choices, and forms with arguments in brackets; only
these are read here. A text is cut into marks, and the marks are read one after the other with the
open brackets on a stack. What names stand for does not matter yet.
-/

set_option autoImplicit false

namespace RuleCheck

inductive Annotation
  | name (name : String)
  | part (whole : Annotation) (name : String)
  | quoted (text : String)
  | constant (text : String)
  | applied (form : Annotation) (arguments : List Annotation)
  | either (left right : Annotation)

namespace Annotation

inductive Mark
  | word (text : String)
  | quoted (text : String)
  | constant (text : String)
  | sign (c : Char)
  deriving DecidableEq, Repr

def isWordPart (c : Char) : Bool := c.isAlphanum || c == '_'

def reservedWords : List String :=
  ["and", "as", "assert", "async", "await", "break", "class", "continue", "def", "del", "elif",
    "else", "except", "finally", "for", "from", "global", "if", "import", "in", "is", "lambda",
    "nonlocal", "not", "or", "pass", "raise", "return", "try", "while", "with", "yield"]

def mark? (c : Char) (cs : List Char) : Option (Mark × Nat) :=
  if c == '\'' || c == '"' then
    let content := cs.takeWhile (· != c)
    if content.length == cs.length || content.any (fun d => d == '\\' || d == '\n') then none
    else some (.quoted (String.ofList content), content.length + 1)
  else if c.isAlpha || c == '_' then
    let part := cs.takeWhile isWordPart
    let word := String.ofList (c :: part)
    if reservedWords.contains word then none
    else if word == "True" || word == "False" then some (.constant word, part.length)
    else some (.word word, part.length)
  else if c.isDigit then
    let part := cs.takeWhile fun d => isWordPart d || d == '.'
    if part.all Char.isDigit && (c != '0' || part.isEmpty) then
      some (.constant (String.ofList (c :: part)), part.length)
    else none
  else if c == '.' && cs.take 2 == ['.', '.'] then some (.constant "...", 2)
  else if ['.', '[', ']', ',', '|'].contains c then some (.sign c, 0)
  else none

def marks? (skip : Nat) : List Char → Option (List Mark)
  | [] => some []
  | c :: cs =>
    match skip with
    | skip + 1 => marks? skip cs
    | 0 =>
      if c == ' ' || c == '\t' then marks? 0 cs
      else do
        let (mark, length) ← mark? c cs
        return mark :: (← marks? length cs)

structure Bracket where
  form : Annotation
  complete : List Annotation
  choice : Option Annotation

structure Reader where
  brackets : List Bracket
  choice : Option Annotation
  current : Option Annotation
  partWanted : Bool

namespace Reader

def start : Reader := ⟨[], none, none, false⟩

def operand? (r : Reader) (a : Annotation) : Option Reader :=
  match r.current, r.partWanted with
  | none, false => some { r with current := some a }
  | _, _ => none

def whole? (r : Reader) : Option Annotation :=
  match r.choice, r.current, r.partWanted with
  | none, some a, false => some a
  | some l, some a, false => some (either l a)
  | _, _, _ => none

def close? (r : Reader) : Option Reader :=
  match r.brackets with
  | [] => none
  | b :: outer =>
    match r.whole?, r.current, r.choice, b.complete with
    | some a, _, _, complete =>
      some ⟨outer, b.choice, some (applied b.form (a :: complete).reverse), false⟩
    | none, none, none, a :: complete =>
      some ⟨outer, b.choice, some (applied b.form (a :: complete).reverse), false⟩
    | _, _, _, _ => none

def step? (r : Reader) : Mark → Option Reader
  | .word text =>
    match r.current, r.partWanted with
    | some a, true => some { r with current := some (part a text), partWanted := false }
    | _, _ => r.operand? (name text)
  | .quoted text => r.operand? (quoted text)
  | .constant text => r.operand? (.constant text)
  | .sign '.' =>
    if r.current.isSome && !r.partWanted then some { r with partWanted := true } else none
  | .sign '[' =>
    match r.current, r.partWanted with
    | some a, false => some ⟨⟨a, [], r.choice⟩ :: r.brackets, none, none, false⟩
    | _, _ => none
  | .sign ']' => r.close?
  | .sign ',' =>
    match r.brackets, r.whole? with
    | b :: outer, some a =>
      some ⟨{ b with complete := a :: b.complete } :: outer, none, none, false⟩
    | _, _ => none
  | .sign '|' => r.whole?.map fun a => { r with choice := some a, current := none }
  | .sign _ => none

end Reader

def read? (text : String) : Option Annotation := do
  let marks ← marks? 0 text.toList
  let r ← marks.foldlM Reader.step? Reader.start
  if r.brackets.isEmpty then r.whole? else none

end Annotation

end RuleCheck
