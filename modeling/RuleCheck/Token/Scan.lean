import RuleCheck.Failure
import RuleCheck.Text.Blank
import RuleCheck.Text.Letter
import RuleCheck.Token

/-!
# Reading tokens

A text is split into tokens from the left, and white space between tokens is dropped. A
token takes as many characters as it can. Each step leaves less of the text than there was.
-/

set_option autoImplicit false

namespace RuleCheck

open Text

def front (p : Char → Bool) (cs : List Char) : List Char × List Char :=
  (cs.takeWhile p, cs.dropWhile p)

theorem front_append (p : Char → Bool) (cs : List Char) :
    (front p cs).1 ++ (front p cs).2 = cs := List.takeWhile_append_dropWhile

namespace Lexeme

def fraction : List Char → List Char × List Char
  | '.' :: cs => let (digits, rest) := front isDigit cs; ('.' :: digits, rest)
  | cs => ([], cs)

def exponentSign : List Char → List Char × List Char
  | '+' :: cs => (['+'], cs)
  | '-' :: cs => (['-'], cs)
  | cs => ([], cs)

def exponent : List Char → List Char × List Char
  | c :: cs =>
    if c == 'e' || c == 'E' then
      let (sign, after) := exponentSign cs
      match front isDigit after with
      | ([], _) => ([], c :: cs)
      | (digits, rest) => (c :: sign ++ digits, rest)
    else ([], c :: cs)
  | [] => ([], [])

def numeral (cs : List Char) : List Char × List Char :=
  let (whole, rest) := front isDigit cs
  let (part, rest) := fraction rest
  let (power, rest) := exponent rest
  (whole ++ part ++ power, rest)

def quotedContent? : List Char → Option (List Char × List Char)
  | '\'' :: '\'' :: cs => (quotedContent? cs).map fun (content, rest) => ('\'' :: content, rest)
  | '\'' :: cs => some ([], cs)
  | c :: cs => (quotedContent? cs).map fun (content, rest) => (c :: content, rest)
  | [] => none

def bracketName (cs : List Char) : Except Misspelling (Lexeme × List Char) :=
  match front (· != ']') cs with
  | (_, []) => .error .openName
  | (content, _ :: rest) =>
    if isBlank content then .error .emptyName else .ok (name (String.ofList content), rest)

def isWordStart (c : Char) : Bool := isLetter c || c == '_'

def isWordPart (c : Char) : Bool := isLetterOrNumeral c || c == '_'

def ofWord (word : String) : Lexeme :=
  match Keyword.ofWord? word with
  | some k => keyword k
  | none => name word

def symbol? : List Char → Option (Lexeme × List Char)
  | '<' :: '>' :: cs => some (comparison .ne, cs)
  | '<' :: '=' :: cs => some (comparison .le, cs)
  | '>' :: '=' :: cs => some (comparison .ge, cs)
  | '=' :: cs => some (comparison .eq, cs)
  | '<' :: cs => some (comparison .lt, cs)
  | '>' :: cs => some (comparison .gt, cs)
  | '+' :: cs => some (arithmetic .add, cs)
  | '-' :: cs => some (arithmetic .sub, cs)
  | '*' :: cs => some (arithmetic .mul, cs)
  | '/' :: cs => some (arithmetic .div, cs)
  | '%' :: cs => some (arithmetic .rem, cs)
  | '(' :: cs => some (opening, cs)
  | ')' :: cs => some (closing, cs)
  | _ => none

def startsNumber : List Char → Bool
  | '.' :: c :: _ => isDigit c
  | c :: _ => isDigit c
  | [] => false

def read (c : Char) (cs : List Char) : Except Misspelling (Lexeme × List Char) :=
  if startsNumber (c :: cs) then
    let (digits, rest) := numeral (c :: cs)
    .ok (number (String.ofList digits), rest)
  else if c == '\'' then
    match quotedContent? cs with
    | some (content, rest) => .ok (text (String.ofList content), rest)
    | none => .error .openText
  else if c == '[' then bracketName cs
  else if isWordStart c then
    let (part, rest) := front isWordPart cs
    .ok (ofWord (String.ofList (c :: part)), rest)
  else
    match symbol? (c :: cs) with
    | some found => .ok found
    | none => .error (.character c)

theorem fraction_append (cs : List Char) : (fraction cs).1 ++ (fraction cs).2 = cs := by
  unfold fraction
  split
  · simp [front_append]
  · rfl

theorem exponentSign_append (cs : List Char) :
    (exponentSign cs).1 ++ (exponentSign cs).2 = cs := by
  unfold exponentSign
  split <;> rfl

theorem exponent_append (cs : List Char) : (exponent cs).1 ++ (exponent cs).2 = cs := by
  unfold exponent
  split
  · rename_i c cs
    split
    · have hs := exponentSign_append cs
      split
      rename_i sign after hsign
      have hf := front_append isDigit after
      rw [hsign] at hs
      split
      · rfl
      · rename_i digits rest _ hdigits
        rw [hdigits] at hf
        simp only at hf hs
        simp [hf, hs]
    · rfl
  · rfl

theorem numeral_append (cs : List Char) : (numeral cs).1 ++ (numeral cs).2 = cs := by
  simp only [numeral, List.append_assoc, exponent_append, fraction_append, front_append]

theorem length_numeral_lt {cs : List Char} (h : startsNumber cs = true) :
    (numeral cs).2.length < cs.length := by
  have happ := congrArg List.length (numeral_append cs)
  rw [List.length_append] at happ
  have hpos : 0 < (numeral cs).1.length := by
    unfold startsNumber at h
    split at h
    · simp only [numeral, front, List.length_append]
      by_cases hd : isDigit '.' = true
      · simp only [List.takeWhile_cons, hd, if_true, List.length_cons]
        omega
      · simp only [List.takeWhile_cons, List.dropWhile_cons, hd, Bool.false_eq_true, if_false,
          fraction, List.length_cons]
        omega
    · simp [numeral, front, h]
    · cases h
  omega

theorem length_quotedContent?_lt {cs content rest : List Char}
    (h : quotedContent? cs = some (content, rest)) : rest.length < cs.length := by
  fun_induction quotedContent? cs generalizing content rest with
  | case1 cs ih =>
    obtain ⟨⟨content', rest'⟩, h', heq⟩ := Option.map_eq_some_iff.1 h
    cases heq
    have := ih h'
    simp only [List.length_cons]
    omega
  | case2 cs => cases h; simp
  | case3 c cs _ _ ih =>
    obtain ⟨⟨content', rest'⟩, h', heq⟩ := Option.map_eq_some_iff.1 h
    cases heq
    have := ih h'
    simp only [List.length_cons]
    omega
  | case4 => cases h

theorem length_bracketName_lt {cs rest : List Char} {lexeme : Lexeme}
    (h : bracketName cs = .ok (lexeme, rest)) : rest.length < cs.length := by
  unfold bracketName at h
  have happ := congrArg List.length (front_append (· != ']') cs)
  split at h
  · cases h
  · rename_i heq
    rw [heq] at happ
    split at h
    · cases h
    · cases h
      simp at happ
      omega

theorem length_symbol?_lt {cs rest : List Char} {lexeme : Lexeme}
    (h : symbol? cs = some (lexeme, rest)) : rest.length < cs.length := by
  unfold symbol? at h
  split at h <;> cases h <;> simp only [List.length_cons] <;> omega

theorem length_read_lt {c : Char} {cs rest : List Char} {lexeme : Lexeme}
    (h : read c cs = .ok (lexeme, rest)) : rest.length < (c :: cs).length := by
  unfold read at h
  split at h
  · rename_i hn
    cases h
    exact length_numeral_lt hn
  · split at h
    · split at h
      · rename_i hq
        cases h
        have := length_quotedContent?_lt hq
        simp only [List.length_cons]
        omega
      · cases h
    · split at h
      · have := length_bracketName_lt h
        simp only [List.length_cons]
        omega
      · split at h
        · cases h
          have happ := congrArg List.length (front_append isWordPart cs)
          rw [List.length_append] at happ
          simp only [List.length_cons, front] at *
          omega
        · split at h
          · rename_i hs
            cases h
            exact length_symbol?_lt hs
          · cases h

end Lexeme

namespace Token

def scan (position : Nat) (cs : List Char) : Except Cause (List Token) :=
  match cs with
  | [] => .ok []
  | c :: cs =>
    if isSpace c then scan (position + 1) cs
    else
      match _h : Lexeme.read c cs with
      | .error mistake => .error (.misspelt mistake position)
      | .ok (lexeme, rest) => do
        let tokens ← scan (position + ((c :: cs).length - rest.length)) rest
        return ⟨lexeme, position⟩ :: tokens
termination_by cs.length
decreasing_by
  · simp
  · exact Lexeme.length_read_lt (by assumption)

end Token

def tokens (source : String) : Except Failure (List Token) :=
  match Token.scan 0 source.toList with
  | .ok tokens => .ok tokens
  | .error cause => .error (.fault ⟨cause, some source⟩)

end RuleCheck
