import RuleCheck.Proofs.Token.Numeral

/-!
# The first token of a text

Which kind of token stands first is told by the first character. A text ends with a quote that
no quote follows, a name with a bracket, a word or a number before the first character that is
no part of it, and a sign of order takes in the sign behind it.
-/

set_option autoImplicit false

namespace RuleCheck

open Text

namespace Lexeme

theorem quotedContent?_cons {c : Char} (hc : c ≠ '\'') (cs : List Char) :
    quotedContent? (c :: cs) =
      (quotedContent? cs).map fun (content, rest) => (c :: content, rest) := by
  rw [quotedContent?]
  · intro _ h
    exact absurd h hc
  · exact hc

theorem quotedContent?_quote {cs : List Char} (h : cs.head? ≠ some '\'') :
    quotedContent? ('\'' :: cs) = some ([], cs) := by
  rw [quotedContent?]
  rintro _ rfl
  exact h rfl

theorem quotedContent?_eq_none {cs : List Char} (h : '\'' ∉ cs) : quotedContent? cs = none := by
  induction cs with
  | nil => rfl
  | cons c cs ih =>
    rw [List.mem_cons, not_or] at h
    rw [quotedContent?_cons (Ne.symm h.1), ih h.2]
    rfl

def doubled (cs : List Char) : List Char :=
  cs.flatMap fun c => if c = '\'' then ['\'', '\''] else [c]

theorem doubled_quote (cs : List Char) : doubled ('\'' :: cs) = '\'' :: '\'' :: doubled cs := rfl

theorem doubled_cons {c : Char} (hc : c ≠ '\'') (cs : List Char) :
    doubled (c :: cs) = c :: doubled cs := by
  rw [doubled, List.flatMap_cons, if_neg hc]
  rfl

theorem doubled_append (a b : List Char) : doubled (a ++ b) = doubled a ++ doubled b :=
  List.flatMap_append

theorem doubled_of_not_mem {cs : List Char} (h : '\'' ∉ cs) : doubled cs = cs := by
  induction cs with
  | nil => rfl
  | cons c cs ih =>
    rw [List.mem_cons, not_or] at h
    rw [doubled_cons (Ne.symm h.1), ih h.2]

/-- Doubled quotes up to a single one are read as the text in quotes. -/
theorem quotedContent?_doubled (cs : List Char) {rest : List Char}
    (hrest : rest.head? ≠ some '\'') :
    quotedContent? (doubled cs ++ '\'' :: rest) = some (cs, rest) := by
  induction cs with
  | nil => exact quotedContent?_quote hrest
  | cons c cs ih =>
    by_cases hc : c = '\''
    · subst hc
      rw [doubled_quote, List.cons_append, List.cons_append, quotedContent?, ih]
      rfl
    · rw [doubled_cons hc, List.cons_append, quotedContent?_cons hc, ih]
      rfl

theorem quotedContent?_split {cs content rest : List Char}
    (h : quotedContent? cs = some (content, rest)) :
    cs = doubled content ++ '\'' :: rest ∧ rest.head? ≠ some '\'' := by
  fun_induction quotedContent? cs generalizing content rest with
  | case1 cs ih =>
    obtain ⟨⟨content', rest'⟩, h', heq⟩ := Option.map_eq_some_iff.1 h
    cases heq
    obtain ⟨rfl, hrest⟩ := ih h'
    exact ⟨rfl, hrest⟩
  | case2 cs hne =>
    cases h
    refine ⟨rfl, fun hhead => ?_⟩
    cases cs with
    | nil => cases hhead
    | cons c cs =>
      cases hhead
      exact hne _ rfl
  | case3 c cs _ hc ih =>
    obtain ⟨⟨content', rest'⟩, h', heq⟩ := Option.map_eq_some_iff.1 h
    cases heq
    obtain ⟨rfl, hrest⟩ := ih h'
    exact ⟨by rw [doubled_cons (fun h => hc h), List.cons_append], hrest⟩
  | case4 => cases h

theorem bracketName_closed {content : List Char} (h : ']' ∉ content) (rest : List Char) :
    bracketName (content ++ ']' :: rest) =
      if isBlank content then .error .emptyName
      else .ok (name (String.ofList content), rest) := by
  have hne : ∀ c ∈ content, (c != ']') = true := by
    rintro c hc
    rw [bne_iff_ne]
    rintro rfl
    exact h hc
  rw [bracketName, front_append_of_head hne (by simp)]

theorem bracketName_open {cs : List Char} (h : ']' ∉ cs) : bracketName cs = .error .openName := by
  have hne : ∀ c ∈ cs, (c != ']') = true := by
    rintro c hc
    rw [bne_iff_ne]
    rintro rfl
    exact h hc
  rw [bracketName, front_of_all hne]

def sign? : Char → Option Lexeme
  | '=' => some (comparison .eq)
  | '<' => some (comparison .lt)
  | '>' => some (comparison .gt)
  | '+' => some (arithmetic .add)
  | '-' => some (arithmetic .sub)
  | '*' => some (arithmetic .mul)
  | '/' => some (arithmetic .div)
  | '%' => some (arithmetic .rem)
  | '(' => some opening
  | ')' => some closing
  | _ => none

theorem symbol?_of_head {cs : List Char} (h : cs.head?.any ['>', '='].contains = false) (c : Char) :
    symbol? (c :: cs) = (sign? c).map fun l => (l, cs) := by
  unfold symbol?
  split <;> simp_all [sign?]

theorem symbol?_of_ne {c : Char} (hless : c ≠ '<') (hgreater : c ≠ '>') (cs : List Char) :
    symbol? (c :: cs) = (sign? c).map fun l => (l, cs) := by
  unfold symbol?
  split <;> simp_all [sign?]

theorem symbol?_less {cs : List Char} (hgreater : cs.head? ≠ some '>')
    (hequal : cs.head? ≠ some '=') :
    symbol? ('<' :: cs) = some (comparison .lt, cs) := by
  unfold symbol?
  split <;> simp_all

theorem symbol?_greater {cs : List Char} (hequal : cs.head? ≠ some '=') :
    symbol? ('>' :: cs) = some (comparison .gt, cs) := by
  unfold symbol?
  split <;> simp_all

section

variable {c : Char} {cs rest : List Char}

theorem read_number (h : startsNumber (c :: cs) = true) :
    read c cs = .ok (number (String.ofList (numeral (c :: cs)).1), (numeral (c :: cs)).2) := by
  rw [read, if_pos h]

theorem read_text {content : List Char} (h : quotedContent? cs = some (content, rest)) :
    read '\'' cs = .ok (text (String.ofList content), rest) := by
  have hnumber : startsNumber ('\'' :: cs) = false := startsNumber_cons (by decide) cs
  rw [read, hnumber, if_neg (by decide), if_pos (by decide), h]

theorem read_bracket (cs : List Char) : read '[' cs = bracketName cs := by
  have hnumber : startsNumber ('[' :: cs) = false := startsNumber_cons (by decide) cs
  rw [read, hnumber, if_neg (by decide), if_neg (by decide), if_pos (by decide)]

abbrev BeginsWord (c : Char) : Prop :=
  isSpace c = false ∧ isDigit c = false ∧ isWordStart c = true ∧ c ≠ '\'' ∧ c ≠ '[' ∧ c ≠ '.'

/-- A word is read up to the first character that is no part of it. -/
theorem read_word (hc : BeginsWord c) (hcs : ∀ d ∈ cs, isWordPart d = true)
    (hrest : rest.head?.any isWordPart = false) :
    read c (cs ++ rest) = .ok (ofWord (String.ofList (c :: cs)), rest) := by
  obtain ⟨_, hdigit, hstart, hquote, hbracket, hpoint⟩ := hc
  have hfront := front_append_of_head hcs hrest
  have hnumber := (startsNumber_cons hpoint (cs ++ rest)).trans hdigit
  simp [read, hnumber, hquote, hbracket, hstart, hfront]

/-- A keyword in capitals is read where no part of a word follows. -/
theorem exists_read_keyword (k : Keyword) :
    ∃ c cs, k.word.toList = c :: cs ∧ isSpace c = false ∧
      ∀ rest, rest.head?.any isWordPart = false → read c (cs ++ rest) = .ok (keyword k, rest) := by
  have word {c : Char} {cs : List Char} (hspelling : k.word.toList = c :: cs)
      (hword : ofWord (String.ofList (c :: cs)) = keyword k) (hc : BeginsWord c)
      (hcs : cs.all isWordPart = true) :
      ∃ c cs, k.word.toList = c :: cs ∧ isSpace c = false ∧ ∀ rest,
        rest.head?.any isWordPart = false → read c (cs ++ rest) = .ok (keyword k, rest) :=
    ⟨c, cs, hspelling, hc.1, fun rest hrest => hword ▸ read_word hc (List.all_eq_true.1 hcs) hrest⟩
  cases k <;> exact word rfl (by decide) (by decide) (by decide)

abbrev BeginsSign (c : Char) : Prop :=
  isDigit c = false ∧ isWordStart c = false ∧ c ≠ '\'' ∧ c ≠ '[' ∧ c ≠ '.'

theorem read_sign (hc : BeginsSign c) {l : Lexeme} (h : symbol? (c :: cs) = some (l, rest)) :
    read c cs = .ok (l, rest) := by
  obtain ⟨hdigit, hstart, hquote, hbracket, hpoint⟩ := hc
  have hnumber := (startsNumber_cons hpoint cs).trans hdigit
  simp [read, hnumber, hquote, hbracket, hstart, h]

theorem read_mistake (hc : BeginsSign c) (h : symbol? (c :: cs) = none) :
    read c cs = .error (.character c) := by
  obtain ⟨hdigit, hstart, hquote, hbracket, hpoint⟩ := hc
  have hnumber := (startsNumber_cons hpoint cs).trans hdigit
  simp [read, hnumber, hquote, hbracket, hstart, h]

end

end Lexeme

end RuleCheck
