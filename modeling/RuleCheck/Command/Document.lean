import RuleCheck.Text.Quoted

/-!
# JSON documents

A document is written with one part on each line, and two blanks for each level it is inside
of. Characters beyond the printable ASCII ones are escaped: with a letter of their own, or by
their code in units of sixteen bits.
-/

set_option autoImplicit false

namespace RuleCheck

inductive Document
  | null
  | flag (b : Bool)
  | text (s : String)
  | list (items : List Document)
  | object (entries : List (String × Document))

namespace Document

def unit (n : Nat) : List Char := '\\' :: 'u' :: Text.hexDigits 4 n

def units (n : Nat) : List Nat :=
  if n < 0x10000 then [n]
  else [0xD800 + (n - 0x10000) / 0x400, 0xDC00 + (n - 0x10000) % 0x400]

def letters : List (Char × Char) :=
  [('"', '"'), ('\\', '\\'), ('\n', 'n'), ('\r', 'r'), ('\t', 't'), (Char.ofNat 8, 'b'),
    (Char.ofNat 12, 'f')]

def escapeChar (c : Char) : List Char :=
  match letters.lookup c with
  | some letter => ['\\', letter]
  | none => if 32 ≤ c.toNat && c.toNat < 127 then [c] else (units c.toNat).flatMap unit

def quoted (s : String) : String := String.ofList ('"' :: s.toList.flatMap escapeChar ++ ['"'])

def margin (level : Nat) : String := String.ofList (List.replicate (2 * level) ' ')

def enclose (level : Nat) (opening closing : String) (parts : List String) : String :=
  match parts with
  | [] => opening ++ closing
  | parts =>
    let lines := parts.map fun part => "\n" ++ margin (level + 1) ++ part
    opening ++ ",".intercalate lines ++ "\n" ++ margin level ++ closing

mutual

def written (level : Nat) : Document → String
  | null => "null"
  | flag true => "true"
  | flag false => "false"
  | text s => quoted s
  | list items => enclose level "[" "]" (writtenItems level items)
  | object entries => enclose level "\x7b" "\x7d" (writtenEntries level entries)

def writtenItems (level : Nat) : List Document → List String
  | [] => []
  | item :: items => written (level + 1) item :: writtenItems level items

def writtenEntries (level : Nat) : List (String × Document) → List String
  | [] => []
  | (key, item) :: entries =>
    (quoted key ++ ": " ++ written (level + 1) item) :: writtenEntries level entries

end

end Document

end RuleCheck
