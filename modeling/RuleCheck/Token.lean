import RuleCheck.Text.Case
import RuleCheck.Text.Quoted

/-!
# Tokens

The words of an expression: numbers, texts, names, keywords, operators and parentheses,
each with the position of its first character. The end of an expression is no token; where
one is listed, it stands behind the last character.
-/

set_option autoImplicit false

namespace RuleCheck

open Text

inductive Keyword
  | and
  | or
  | not
  | is
  | null
  | true
  | false
  | mod
  deriving DecidableEq, Repr

namespace Keyword

def all : List Keyword := [and, or, not, is, null, true, false, mod]

def word : Keyword → String
  | and => "AND"
  | or => "OR"
  | not => "NOT"
  | is => "IS"
  | null => "NULL"
  | true => "TRUE"
  | false => "FALSE"
  | mod => "MOD"

def ofWord? (word : String) : Option Keyword :=
  all.find? fun k => k.word == capitals word

end Keyword

inductive Comparison
  | eq
  | ne
  | lt
  | gt
  | le
  | ge
  deriving DecidableEq, Repr

namespace Comparison

def all : List Comparison := [eq, ne, lt, gt, le, ge]

def symbol : Comparison → String
  | eq => "="
  | ne => "<>"
  | lt => "<"
  | gt => ">"
  | le => "<="
  | ge => ">="

def ofSymbol? (symbol : String) : Option Comparison := all.find? (·.symbol == symbol)

end Comparison

inductive Arithmetic
  | add
  | sub
  | mul
  | div
  | rem
  deriving DecidableEq, Repr

namespace Arithmetic

def all : List Arithmetic := [add, sub, mul, div, rem]

def symbol : Arithmetic → String
  | add => "+"
  | sub => "-"
  | mul => "*"
  | div => "/"
  | rem => "%"

def ofSymbol? (symbol : String) : Option Arithmetic := all.find? (·.symbol == symbol)

end Arithmetic

inductive Lexeme
  | number (digits : String)
  | text (content : String)
  | name (spelling : String)
  | keyword (word : Keyword)
  | comparison (op : Comparison)
  | arithmetic (op : Arithmetic)
  | opening
  | closing
  deriving DecidableEq, Repr

namespace Lexeme

def sort : Lexeme → String
  | number _ => "NUMBER"
  | text _ => "STRING"
  | name _ => "IDENT"
  | keyword _ => "KEYWORD"
  | comparison _ => "OPERATOR"
  | arithmetic _ => "OPERATOR"
  | opening => "LPAREN"
  | closing => "RPAREN"

def content : Lexeme → String
  | number digits => digits
  | text content => content
  | name spelling => spelling
  | keyword word => word.word
  | comparison op => op.symbol
  | arithmetic op => op.symbol
  | opening => "("
  | closing => ")"

end Lexeme

structure Token where
  lexeme : Lexeme
  position : Nat
  deriving DecidableEq, Repr

namespace Token

def listing (sort content : String) (position : Nat) : String :=
  "Token(" ++ sort ++ ", " ++ quoted content ++ ", @" ++ toString position ++ ")"

def shown (t : Token) : String := listing t.lexeme.sort t.lexeme.content t.position

end Token

def symbols : List String :=
  ["<>", "<=", ">=", "=", "<", ">", "+", "-", "*", "/", "%", "(", ")"]

end RuleCheck
