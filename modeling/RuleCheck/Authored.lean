import RuleCheck.Failure
import RuleCheck.Text.Blank
import RuleCheck.Text.Substitute

/-!
# Authored rules

A rule may be written with the operators of programming languages. It is respelt into the
grammar of expressions by replacing texts in a fixed order, each replacement over the whole
rule: doubled equality before the single sign, the unequal sign before the bare negation,
and comparisons with nothing after all operators. The spaces this leaves are tidied, and at
last the placeholder gives way to the name of a member, whose own text is left alone.
-/

set_option autoImplicit false

namespace RuleCheck

open Text

structure Respelling where
  old : List Char
  new : List Char

def respell (old new : String) : Respelling := ⟨old.toList, new.toList⟩

def operatorSpellings : List Respelling :=
  [respell "!=" "<>", respell "==" "=", respell "!" " NOT ", respell "&&" " AND ",
    respell "||" " OR "]

def nullSpellings : List Respelling :=
  [respell "= NULL" " IS NULL ", respell "<> NULL" " IS NOT NULL ", respell "null" "NULL"]

def placeholder : List Char := ['{', '0', '}']

def respellAll (step : List Char → List Char → List Char → List Char)
    (respellings : List Respelling) (text : List Char) : List Char :=
  respellings.foldl (fun text r => step r.old r.new text) text

def canonical (text : List Char) : List Char :=
  let spelled := respellAll replace operatorSpellings (collapse text)
  trim (squeeze (respellAll replaceIgnoringCase nullSpellings spelled))

def normalize (rule : String) (member : Option String) : Except Failure String :=
  let text := canonical rule.toList
  if contains placeholder text then
    match member with
    | some name => .ok (String.ofList (replace placeholder name.toList text))
    | none => .error (.fault ⟨.placeholder, some rule⟩)
  else .ok (String.ofList text)

end RuleCheck
