import RuleCheck.Proofs.Authored.Checked
import RuleCheck.Proofs.Authored.Cut

/-!
# White space between the tokens of a rule

A rule is a sequence of tokens with white space between them. What it comes to depends on the
tokens alone, but for one thing: an equality and the word for nothing behind it become a test
for nothing only where plain spaces part them. Rules with the same tokens and the same tests
for nothing are checked alike.
-/

set_option autoImplicit false

namespace RuleCheck.Authored

open Text Lexeme

structure Piece where
  gap : List Char
  token : List Char

/-- The text consists of the pieces and white space at its end. Each token is cut off where it
stands, and none runs together with the sign of equality behind it. -/
inductive Laid : List Char → List Piece → Prop
  | blank {gap : List Char} (hgap : isBlank gap = true) : Laid gap []
  | piece {gap token rest : List Char} {ps : List Piece} (hgap : isBlank gap = true)
      (hcut : cut (token ++ rest) = some (token, rest))
      (hseam : token ∈ runOn → rest.head? ≠ some '=') (hrest : Laid rest ps) :
      Laid (gap ++ (token ++ rest)) (⟨gap, token⟩ :: ps)

def isLaid (text : List Char) : List Piece → Bool
  | [] => isBlank text
  | p :: ps =>
    let rest := text.drop (p.gap.length + p.token.length)
    text == p.gap ++ (p.token ++ rest) && isBlank p.gap &&
      cut (p.token ++ rest) == some (p.token, rest) &&
      !(runOn.contains p.token && rest.head? == some '=') && isLaid rest ps

theorem isLaid_iff {text : List Char} {ps : List Piece} : isLaid text ps = true ↔ Laid text ps := by
  constructor
  · intro h
    induction ps generalizing text with
    | nil => exact .blank h
    | cons p ps ih =>
      simp only [isLaid, Bool.and_eq_true, beq_iff_eq, Bool.not_eq_true', Bool.and_eq_false_iff,
        beq_eq_false_iff_ne] at h
      obtain ⟨⟨⟨⟨htext, hgap⟩, hcut⟩, hseam⟩, hrest⟩ := h
      rw [htext]
      refine .piece hgap hcut (fun hmem => ?_) (ih hrest)
      exact hseam.resolve_left fun hnot => by
        rw [List.contains_iff_mem.2 hmem] at hnot
        cases hnot
  · intro h
    induction h with
    | blank hgap => exact hgap
    | @piece gap token rest ps hgap hcut hseam _ ih =>
      have hdrop : (gap ++ (token ++ rest)).drop (gap.length + token.length) = rest := by
        rw [← List.append_assoc, ← List.length_append, List.drop_left]
      simp only [isLaid, hdrop, beq_self_eq_true, hgap, hcut, ih, Bool.and_true,
        Bool.true_and, Bool.not_eq_true', Bool.and_eq_false_iff, beq_eq_false_iff_ne]
      by_cases hmem : token ∈ runOn
      · exact .inr (hseam hmem)
      · exact .inl (Bool.eq_false_iff.2 fun h => hmem (List.contains_iff_mem.1 h))

instance (text : List Char) (ps : List Piece) : Decidable (Laid text ps) :=
  decidable_of_iff (isLaid text ps = true) isLaid_iff

def isSpaces (gap : List Char) : Bool := !gap.isEmpty && gap.all (· == ' ')

def test? (p q : Piece) : Option (List Char) :=
  if (equality? p.token).isSome && isSpaces q.gap then afterNull? q.token else none

def tests : List Piece → List (Option (List Char))
  | [] => []
  | p :: ps => ps.head?.bind (test? p) :: tests ps

section

variable {gap text token rest : List Char}

theorem sameLetter_space {c : Char} (hc : isSpace c = true) : sameLetter 'n' c = false := by
  refine sameLetter_eq_false (by decide) ⟨?_, ?_⟩
  all_goals
    rintro rfl
    exact absurd hc (by decide)

/-- Behind plain spaces the word for nothing is found, behind other white space it is not. -/
theorem afterNull?_gap (hgap : isBlank gap = true) (h : text.head? ≠ some ' ') :
    afterNull? ((gap ++ text).dropWhile (· == ' ')) =
      if gap.all (· == ' ') then afterNull? text else none := by
  induction gap with
  | nil =>
    cases text with
    | nil => rfl
    | cons c text =>
      have hc : c ≠ ' ' := fun hc => h (congrArg some hc)
      rw [List.nil_append, List.dropWhile_cons_of_neg (by simpa using hc)]
      rfl
  | cons c gap ih =>
    rw [isBlank, List.all_cons, Bool.and_eq_true] at hgap
    by_cases hc : c = ' '
    · subst hc
      exact ih hgap.2
    · rw [List.cons_append, List.dropWhile_cons_of_neg (by simpa using hc),
        afterNull?_of_head (by exact sameLetter_space hgap.1), List.all_cons,
        beq_eq_false_iff_ne.2 hc]
      rfl

/-- The word for nothing is looked for behind at least one plain space. -/
theorem afterSpacedNull?_gap (hgap : isBlank gap = true) (h : text.head? ≠ some ' ') :
    afterSpacedNull? (gap ++ text) = if isSpaces gap then afterNull? text else none := by
  cases gap with
  | nil =>
    cases text with
    | nil => rfl
    | cons c text => exact afterSpacedNull?_of_ne (fun hc => h (congrArg some hc)) text
  | cons c gap =>
    rw [isBlank, List.all_cons, Bool.and_eq_true] at hgap
    by_cases hc : c = ' '
    · subst hc
      exact afterNull?_gap hgap.2 h
    · rw [List.cons_append, afterSpacedNull?_of_ne hc, isSpaces, List.all_cons,
        beq_eq_false_iff_ne.2 hc]
      rfl

theorem head?_token (h : Kind token rest) : (token ++ rest).head? ≠ some ' ' := by
  obtain ⟨c, cs, rfl, hspace, -⟩ := h.front
  rintro heq
  cases heq
  exact absurd hspace (by decide)

theorem afterSpacedNull?_of_equality {p q : Piece} (hop : (equality? p.token).isSome = true)
    (hgap : isBlank q.gap = true) (hkind : Kind q.token rest) :
    afterSpacedNull? (q.gap ++ (q.token ++ rest)) = (test? p q).map (· ++ rest) := by
  rw [afterSpacedNull?_gap hgap (head?_token hkind), afterNull?_token hkind, test?, hop,
    Bool.true_and]
  split <;> rfl

theorem of_test? {p q : Piece} {after : List Char} (h : test? p q = some after) :
    (equality? p.token).isSome = true ∧ afterNull? q.token = some after := by
  rw [test?] at h
  split at h
  · rename_i hspaces
    rw [Bool.and_eq_true] at hspaces
    exact ⟨hspaces.1, h⟩
  · cases h

theorem Laid.untested {p : Piece} {ps : List Piece} (h : Laid rest ps)
    (htest : ps.head?.bind (test? p) = none) (hop : (equality? p.token).isSome = true) :
    afterSpacedNull? rest = none := by
  cases h with
  | blank hgap =>
    have hblank : afterSpacedNull? (rest ++ []) = if isSpaces rest then afterNull? [] else none :=
      afterSpacedNull?_gap hgap (by simp)
    rw [List.append_nil] at hblank
    rw [hblank]
    split <;> rfl
  | piece hgap hcut =>
    obtain ⟨-, hkind⟩ := kind_of_cut hcut
    rw [List.head?_cons, Option.bind_some] at htest
    have hfound := afterSpacedNull?_of_equality (q := ⟨_, _⟩) hop hgap hkind
    rw [htest] at hfound
    exact hfound

def afterTest (after : List Char) (x : Except Misspelling (List Lexeme)) :
    Except Misspelling (List Lexeme) :=
  match after with
  | [] => x
  | c :: cs =>
    if isWordStart c then prepend [ofWord (String.ofList (respelled (c :: cs)))] x
    else .error (.character c)

def stops : List Char :=
  ['=', '<', '>', '+', '-', '*', '/', '%', '(', ')', '\'', '[', '.', '!', '&', '|', ' ']

theorem not_mem_stops {c : Char} (hc : isWordPart c = true) : c ∉ stops :=
  not_mem_of_all_false (by decide) hc

theorem symbol?_of_not_mem_stops {c : Char} (hc : c ∉ stops) (cs : List Char) :
    symbol? (c :: cs) = none := by
  unfold symbol?
  split
  case h_14 => rfl
  all_goals
    rename_i heq
    cases heq
    exact absurd (by decide) hc

theorem scan_afterTest {after : List Char} (hafter : Whole after rest)
    (hdigit : after.head?.any isDigit = false) :
    scan (respelled (after ++ rest)) = afterTest after (scan (respelled rest)) := by
  cases after with
  | nil => rfl
  | cons c cs =>
    have hc := hafter.1 c List.mem_cons_self
    have hstops := not_mem_stops hc
    have hne (d : Char) (hd : d ∈ stops) : c ≠ d := by
      rintro rfl
      exact hstops hd
    have hquote := hne '\'' (by decide)
    have hbracket := hne '[' (by decide)
    have hpoint := hne '.' (by decide)
    rw [afterTest]
    cases hstart : isWordStart c with
    | true =>
      exact scan_word ⟨solid_of_isWordPart hc, hdigit, hstart, hquote, hbracket, hpoint⟩
        (fun d hd => hafter.1 d (List.mem_cons_of_mem c hd)) hafter.2
    | false =>
      have hfront : c ∉ fronts := by
        have hfronts : ∀ d ∈ fronts, d ∈ stops ∨ isWordStart d = true := by decide
        intro hmem
        rcases hfronts c hmem with h | h
        · exact hstops h
        · rw [hstart] at h
          cases h
      rw [List.cons_append, respelled_pass hfront]
      exact scan_of_mistake (solid_of_isWordPart hc)
        (read_mistake ⟨hdigit, hstart, hquote, hbracket, hpoint⟩
          (symbol?_of_not_mem_stops hstops _))

end

def tested (op : List Char) : List Lexeme := ((equality? op).map Prod.snd).getD []

def lexemes : List (List Char × Option (List Char)) → Except Misspelling (List Lexeme)
  | (op, some after) :: _ :: rest => prepend (tested op) (afterTest after (lexemes rest))
  | (token, _) :: rest => prepend (lexed token) (lexemes rest)
  | [] => .ok []

def marked (ps : List Piece) : List (List Char × Option (List Char)) :=
  (ps.map Piece.token).zip (tests ps)

theorem lexemes_none (token : List Char) (rest : List (List Char × Option (List Char))) :
    lexemes ((token, none) :: rest) = prepend (lexed token) (lexemes rest) := by
  rw [lexemes]
  intro op after word rest' h
  cases h

theorem marked_cons (p : Piece) (ps : List Piece) :
    marked (p :: ps) = (p.token, ps.head?.bind (test? p)) :: marked ps := rfl

/-- What a rule is read as depends on its tokens and on its tests for nothing. -/
theorem scan_laid {text : List Char} {ps : List Piece} (h : Laid text ps)
    (hdigit : ∀ after, some after ∈ tests ps → after.head?.any isDigit = false) :
    scan (respelled text) = lexemes (marked ps) := by
  cases h with
  | blank hgap =>
    have hscan := scan_gap hgap []
    rwa [List.append_nil, respelled_nil, scan_nil] at hscan
  | @piece gap token rest ps hgap hcut hseam hrest =>
    obtain ⟨-, hkind⟩ := kind_of_cut hcut
    have hdigit' : ∀ after, some after ∈ tests ps → after.head?.any isDigit = false :=
      fun after h => hdigit after (List.mem_cons_of_mem _ h)
    rw [scan_gap hgap, marked_cons]
    cases htest : ps.head?.bind (test? ⟨gap, token⟩) with
    | none =>
      rw [scan_token hkind hseam (hrest.untested htest), scan_laid hrest hdigit', lexemes_none]
    | some after =>
      cases hrest with
      | blank => cases htest
      | @piece gap' token' rest' ps' hgap' hcut' _ hrest' =>
        obtain ⟨-, hkind'⟩ := kind_of_cut hcut'
        have hafter := hdigit after (by rw [← htest]; exact List.mem_cons_self)
        rw [List.head?_cons, Option.bind_some] at htest
        obtain ⟨hop, hnull⟩ := of_test? htest
        obtain ⟨⟨plain, test⟩, hop'⟩ := Option.isSome_iff_exists.1 hop
        have hwhole := hkind'.whole_of_null hnull
        have hrest : Whole after rest' :=
          ⟨fun d hd => hwhole.1 d ((suffix_of_afterMatch? hnull).subset hd), hwhole.2⟩
        have hfound := afterSpacedNull?_of_equality (q := ⟨gap', token'⟩) hop hgap' hkind'
        rw [htest] at hfound
        have ih := scan_laid hrest' fun after h => hdigit' after (List.mem_cons_of_mem _ h)
        rw [scan_equality_null hop' hfound, scan_afterTest hrest hafter, ih, marked_cons, lexemes,
          tested, hop']
        rfl
termination_by ps.length

section

variable {text : List Char} {ps : List Piece}

theorem Laid.contains_eq (h : Laid text ps) :
    contains placeholder text = ps.any fun p => contains placeholder p.token := by
  induction h with
  | @blank gap hgap =>
    have hne : ∀ c ∈ gap, c ≠ '{' := by
      rintro c hc rfl
      exact not_mem_blank (by decide) hgap hc
    have hpass := contains_pass_all (p := ['0', '}']) hne []
    rw [List.append_nil] at hpass
    exact hpass
  | @piece gap token rest ps hgap hcut _ _ ih =>
    have hne : ∀ c ∈ gap, c ≠ '{' := by
      rintro c hc rfl
      exact not_mem_blank (by decide) hgap hc
    rw [List.any_cons, ← ih, ← contains_token (kind_of_cut hcut).2]
    exact contains_pass_all (p := ['0', '}']) hne _

theorem Laid.isBlank_eq (h : Laid text ps) : isBlank text = ps.isEmpty := by
  cases h with
  | blank hgap => exact hgap
  | piece hgap hcut =>
    obtain ⟨c, cs, rfl, hspace, -⟩ := (kind_of_cut hcut).2.front
    rw [isBlank, List.all_append, List.cons_append, List.all_cons, hspace, Bool.false_and,
      Bool.and_false]
    rfl

variable [Things]

/-- Rules with the same tokens and the same tests for nothing are checked alike, whatever white
space stands between their tokens: with the same outcome, or with failures for the same reason.
No word that a test for nothing takes the front of goes on with a digit. -/
theorem validate_laid (settings : Check.Source) (candidate : Candidate) (c : Check)
    {text text' : List Char} {ps qs : List Piece} (hp : Laid text ps) (hq : Laid text' qs)
    (htokens : ps.map Piece.token = qs.map Piece.token) (htests : tests ps = tests qs)
    (hdigit : ∀ after, some after ∈ tests ps → after.head?.any isDigit = false)
    (hmember : c.member = none ∨ ∀ p ∈ ps, contains placeholder p.token = false) :
    Alike Eq (validate settings candidate { c with expression := some (String.ofList text) })
      (validate settings candidate { c with expression := some (String.ofList text') }) := by
  have hempty : ps.isEmpty = qs.isEmpty := by
    have h := congrArg List.isEmpty htokens
    rwa [List.isEmpty_map, List.isEmpty_map] at h
  have hcontains : contains placeholder text = contains placeholder text' := by
    have h := congrArg (List.any · (contains placeholder)) htokens
    simp only [List.any_map] at h
    rw [hp.contains_eq, hq.contains_eq]
    exact h
  refine validate_alike settings candidate c ?_ ?_ hcontains ?_
  · rw [hp.isBlank_eq, hq.isBlank_eq, hempty]
  · rw [scan_laid hp hdigit, scan_laid hq (htests ▸ hdigit), marked, marked, htokens, htests]
  · refine hmember.imp id fun h => ?_
    rw [hp.contains_eq]
    exact List.any_eq_false.2 fun p hmem => by rw [h p hmem]; decide

end

def nullRule (beforeEqual beforeNull beforeOr beforeName : List Char) : List Piece :=
  [⟨[], ['x']⟩, ⟨beforeEqual, ['=', '=']⟩, ⟨beforeNull, nullWord⟩, ⟨beforeOr, ['|', '|']⟩,
    ⟨beforeName, ['y']⟩]

def blankEntries : Candidate := .mapping "dict" [("x", .null), ("y", .bool false)]

def unnamed : Check := ⟨none, none, none, none⟩

open scoped Things in
theorem validate_nullRule :
    Laid "x == null || y".toList (nullRule [' '] [' '] [' '] [' ']) ∧
      Laid "x\t==  null\n||y".toList (nullRule ['\t'] [' ', ' '] ['\n'] []) ∧
      Alike Eq
        (validate (.ok plainSettings) blankEntries
          { unnamed with expression := some (String.ofList "x == null || y".toList) })
        (validate (.ok plainSettings) blankEntries
          { unnamed with expression := some (String.ofList "x\t==  null\n||y".toList) }) := by
  have hloose : Laid "x == null || y".toList (nullRule [' '] [' '] [' '] [' ']) := by
    decide
  have hwide : Laid "x\t==  null\n||y".toList (nullRule ['\t'] [' ', ' '] ['\n'] []) := by
    decide
  have htests : tests (nullRule [' '] [' '] [' '] [' ']) = [none, some [], none, none, none] := by
    decide
  have htests' :
      tests (nullRule ['\t'] [' ', ' '] ['\n'] []) = [none, some [], none, none, none] := by
    decide
  refine ⟨hloose, hwide, validate_laid _ _ unnamed hloose hwide rfl (htests.trans htests'.symm) ?_
    (.inl rfl)⟩
  intro after hafter
  rw [htests] at hafter
  simp only [List.mem_cons, List.not_mem_nil, reduceCtorEq, Option.some.injEq, or_false,
    false_or] at hafter
  rw [hafter]
  rfl

open scoped Things in
/-- Without spaces around its operator the rule compares with nothing, which never holds. -/
theorem validate_tightRule :
    Laid "x==null||y".toList (nullRule [] [] [] []) ∧
      Laid "x == null || y".toList (nullRule [' '] [' '] [' '] [' ']) ∧
      (nullRule [] [] [] []).map Piece.token =
        (nullRule [' '] [' '] [' '] [' ']).map Piece.token ∧
      (validate (.ok plainSettings) blankEntries
        { unnamed with expression := some "x==null||y" }).toOption =
          some (.failed (some "The field dict is invalid.") []) ∧
      (validate (.ok plainSettings) blankEntries
        { unnamed with expression := some "x == null || y" }).toOption = some .passed := by
  decide +kernel

def digitRule (beforeNumber : List Char) : List Piece :=
  [⟨[], ['²']⟩, ⟨[' '], ['=', '=']⟩, ⟨[' '], nullWord ++ ['1', 'e']⟩, ⟨[], ['+']⟩,
    ⟨beforeNumber, ['5', '.']⟩]

-- A digit that a test for nothing leaves begins a number, which takes in the sign and the digits
-- that white space would keep apart.
open scoped Things in
example :
    Laid "² == null1e+5.".toList (digitRule []) ∧
      Laid "² == null1e+ 5.".toList (digitRule [' ']) ∧
      tests (digitRule []) = tests (digitRule [' ']) ∧
      ((validate (.ok plainSettings) blankEntries
        { unnamed with expression := some "² == null1e+5." }) matches .error .numeral) = false ∧
      ((validate (.ok plainSettings) blankEntries
        { unnamed with expression := some "² == null1e+ 5." }) matches .error .numeral) = true := by
  decide +kernel

end RuleCheck.Authored
