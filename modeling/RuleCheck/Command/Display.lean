import RuleCheck.Text.Blank

/-!
# What a command shows

A command prints a text, or shows a panel or a table with a title. The lines of a panel have
no control characters and no tabs; a tab becomes blanks up to the next place for one.
-/

set_option autoImplicit false

namespace RuleCheck.Command

inductive Display
  | help
  | misuse
  | printed (text : String)
  | panel (title : String) (body : List String)
  | table (title : String) (rows : List (List String))
  deriving DecidableEq, Repr

namespace Display

def isShown (c : Char) : Bool := !([7, 8, 11, 12, 13].contains c.toNat)

def tabWidth : Nat := 8

def lines : List Char → List (List Char)
  | [] => [[]]
  | c :: cs =>
    match c == '\n', lines cs with
    | true, ls => [] :: ls
    | false, l :: ls => (c :: l) :: ls
    | false, [] => [[c]]

def expandTabs (column : Nat) : List Char → List Char
  | [] => []
  | c :: cs =>
    if c == '\t' then
      let width := tabWidth - column % tabWidth
      List.replicate width ' ' ++ expandTabs (column + width) cs
    else c :: expandTabs (column + 1) cs

def bodyOf (text : String) : List String :=
  (lines (text.toList.filter isShown)).map fun l =>
    String.ofList (Text.trimRight (expandTabs 0 l))

def panelOf (title text : String) : Display := panel title (bodyOf text)

def rule (width : Nat) : String := String.ofList (List.replicate width '─')

def padded (width : Nat) (text : String) : String :=
  text ++ String.ofList (List.replicate (width - text.length) ' ')

def widest (texts : List String) : Nat := texts.foldl (fun n text => max n text.length) 0

def boxed (title : String) (body : List String) : List String :=
  let width := widest (title :: body)
  ("╭─ " ++ title ++ " " ++ rule (width - title.length) ++ "╮") ::
    body.map (fun l => "│ " ++ padded (width + 1) l ++ " │") ++ ["╰" ++ rule (width + 3) ++ "╯"]

def aligned (rows : List (List String)) : List String :=
  let count := rows.foldl (fun n row => max n row.length) 0
  let widths := (List.range count).map fun i => widest (rows.map fun row => row.getD i "")
  rows.map fun row =>
    String.ofList (Text.trimRight ("  ".intercalate ((widths.zip row).map fun (n, cell) =>
      padded n cell)).toList)

def usage : List String :=
  ["usage: expr-validate [-h] [-q | -v | --debug] [normalize | check | templates] ...", "",
    "  normalize EXPRESSION [--member NAME]",
    "      print the normalized form of an expression",
    "  check EXPRESSION --data FILE [--member NAME] [--message TEMPLATE] [--json]",
    "      check member values against an expression",
    "  templates [--json]",
    "      list the named expression templates"]

def ofLines (ls : List String) : String := String.join (ls.map (· ++ "\n"))

def written : Display → String
  | help => ofLines usage
  | misuse => ofLines (usage.take 1)
  | printed text => text
  | panel title body => ofLines (boxed title body)
  | table title rows => ofLines (title :: aligned rows)

end Display

end RuleCheck.Command
