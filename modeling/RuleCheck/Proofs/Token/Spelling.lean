import RuleCheck.Proofs.Token.First

/-!
# Spelling tokens

A token can be written back: a name in brackets, a text in quotes with each of its quotes
doubled, anything else as it is. Tokens that are written so with single spaces between them
are read again as the same tokens.
-/

set_option autoImplicit false

namespace RuleCheck

open Text

namespace Lexeme

def spelling : Lexeme → List Char
  | text content => '\'' :: doubled content.toList ++ ['\'']
  | name spelling => '[' :: spelling.toList ++ [']']
  | l => l.content.toList

def spaced : List Lexeme → List Char
  | [] => []
  | [l] => l.spelling
  | l :: ls => l.spelling ++ ' ' :: spaced ls

def Parted (rest : List Char) : Prop := ∀ c ∈ rest.head?, c = ' '

def Legible (l : Lexeme) : Prop :=
  ∃ c cs, l.spelling = c :: cs ∧ isSpace c = false ∧
    ∀ rest, Parted rest → read c (cs ++ rest) = .ok (l, rest)

theorem parted_nil : Parted [] := fun _ h => by cases h

theorem parted_space (cs : List Char) : Parted (' ' :: cs) := fun _ h => by
  cases h
  rfl

theorem Parted.head?_ne {c : Char} {rest : List Char} (h : Parted rest) (hc : c ≠ ' ') :
    rest.head? ≠ some c := fun hhead => hc (h c hhead)

/-- What stands apart goes on with nothing that a space does not go on with. -/
theorem Parted.any_head? {p : Char → Bool} {rest : List Char} (h : Parted rest)
    (hspace : p ' ' = false) : rest.head?.any p = false := by
  cases rest with
  | nil => rfl
  | cons c cs =>
    rw [h c rfl]
    exact hspace

theorem legible_text (content : String) : Legible (text content) := by
  refine ⟨'\'', doubled content.toList ++ ['\''], rfl, by decide, fun rest hrest => ?_⟩
  have hcontent := quotedContent?_doubled content.toList (hrest.head?_ne (by decide))
  rw [List.append_assoc, List.singleton_append, read_text hcontent, String.ofList_toList]

theorem legible_name {spelling : String} (hblank : isBlank spelling.toList = false)
    (hbracket : ']' ∉ spelling.toList) : Legible (name spelling) := by
  refine ⟨'[', spelling.toList ++ [']'], rfl, by decide, fun rest _ => ?_⟩
  rw [List.append_assoc, List.singleton_append, read_bracket, bracketName_closed hbracket, hblank,
    String.ofList_toList]
  rfl

theorem legible_digits {c : Char} {cs : List Char} (hspace : isSpace c = false)
    (hdigits : ∀ d ∈ c :: cs, isDigit d = true) :
    Legible (number (String.ofList (c :: cs))) := by
  refine ⟨c, cs, by simp [spelling, content], hspace, fun rest hrest => ?_⟩
  have hdigit : isDigit c = true := hdigits c List.mem_cons_self
  have hpoint : c ≠ '.' := by
    rintro rfl
    exact absurd hdigit (by decide)
  have hnumeral : numeral (c :: (cs ++ rest)) = (c :: cs, rest) :=
    numeral_digits hdigits (hrest.any_head? (by decide))
  rw [read_number ((startsNumber_cons hpoint _).trans hdigit), hnumeral]

theorem legible_keyword (k : Keyword) : Legible (keyword k) := by
  obtain ⟨c, cs, hspelling, hspace, hread⟩ := exists_read_keyword k
  exact ⟨c, cs, hspelling, hspace, fun rest hrest => hread rest (hrest.any_head? (by decide))⟩

/-- A symbol is legible if it is found wherever it stands apart. -/
theorem legible_symbol {l : Lexeme} {c : Char} {cs : List Char} (hspelling : l.spelling = c :: cs)
    (hspace : isSpace c = false) (hc : BeginsSign c)
    (hsymbol : ∀ rest, Parted rest → symbol? (c :: (cs ++ rest)) = some (l, rest)) :
    Legible l :=
  ⟨c, cs, hspelling, hspace, fun rest hrest => read_sign hc (hsymbol rest hrest)⟩

theorem legible_comparison (op : Comparison) : Legible (comparison op) := by
  cases op with
  | ne => exact legible_symbol rfl (by decide) (by decide) fun rest _ => rfl
  | le => exact legible_symbol rfl (by decide) (by decide) fun rest _ => rfl
  | ge => exact legible_symbol rfl (by decide) (by decide) fun rest _ => rfl
  | eq => exact legible_symbol rfl (by decide) (by decide) fun rest _ => rfl
  | lt =>
    refine legible_symbol rfl (by decide) (by decide) fun rest hrest => ?_
    exact symbol?_less (hrest.head?_ne (by decide)) (hrest.head?_ne (by decide))
  | gt =>
    refine legible_symbol rfl (by decide) (by decide) fun rest hrest => ?_
    exact symbol?_greater (hrest.head?_ne (by decide))

theorem legible_arithmetic (op : Arithmetic) : Legible (arithmetic op) := by
  cases op <;> exact legible_symbol rfl (by decide) (by decide) fun rest _ => rfl

theorem legible_opening : Legible opening :=
  legible_symbol rfl (by decide) (by decide) fun _ _ => rfl

theorem legible_closing : Legible closing :=
  legible_symbol rfl (by decide) (by decide) fun _ _ => rfl

end Lexeme

namespace Token

open Lexeme

def placed (position : Nat) : List Lexeme → List Token
  | [] => []
  | l :: ls => ⟨l, position⟩ :: placed (position + l.spelling.length + 1) ls

theorem map_lexeme_placed (position : Nat) (ls : List Lexeme) :
    (placed position ls).map Token.lexeme = ls := by
  induction ls generalizing position with
  | nil => rfl
  | cons l ls ih => rw [placed, List.map_cons, ih]

theorem scan_space (position : Nat) (cs : List Char) :
    scan position (' ' :: cs) = scan (position + 1) cs := by
  rw [scan]
  exact if_pos (by decide)

theorem scan_spelling {l : Lexeme} (hl : Legible l) (position : Nat) {rest : List Char}
    (hrest : Parted rest) :
    scan position (l.spelling ++ rest) =
      (do
        let tokens ← scan (position + l.spelling.length) rest
        return ⟨l, position⟩ :: tokens) := by
  obtain ⟨c, cs, hspelling, hspace, hread⟩ := hl
  have hlength : (c :: (cs ++ rest)).length - rest.length = (c :: cs).length := by
    simp only [List.length_cons, List.length_append]
    omega
  rw [hspelling, List.cons_append, scan, hspace, hread rest hrest, ← hlength]
  rfl

/-- Legible tokens that are written with single spaces are read again, each as itself. -/
theorem scan_spaced {ls : List Lexeme} (hls : ∀ l ∈ ls, Legible l) (position : Nat) :
    scan position (spaced ls) = .ok (placed position ls) := by
  induction ls generalizing position with
  | nil =>
    rw [spaced, scan]
    rfl
  | cons l ls ih =>
    have hl := hls l List.mem_cons_self
    have hrest := ih fun k hk => hls k (List.mem_cons_of_mem l hk)
    cases ls with
    | nil =>
      have hscan := scan_spelling hl position parted_nil
      rw [List.append_nil, scan] at hscan
      exact hscan
    | cons k ls =>
      rw [spaced, scan_spelling hl position (parted_space _), scan_space, hrest]
      · rfl
      · simp

end Token

/-- A text of legible tokens with single spaces is read as these tokens. -/
theorem tokens_of_spaced {source : String} {ls : List Lexeme}
    (hsource : source.toList = Lexeme.spaced ls) (hls : ∀ l ∈ ls, l.Legible) :
    tokens source = .ok (Token.placed 0 ls) := by
  rw [tokens, hsource, Token.scan_spaced hls]

end RuleCheck
