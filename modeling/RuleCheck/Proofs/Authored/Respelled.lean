import RuleCheck.Authored
import RuleCheck.Proofs.Text.Case
import RuleCheck.Proofs.Text.Substitute

/-!
# A rule respelled from the left

The nine replacements run one after another over the whole rule, and yet the rule can be
respelled from the left: each operator at its front becomes what the table says, whatever
stands behind it, with a test for nothing where plain spaces and the word for nothing follow
an equality. No replacement finds what another has written.
-/

set_option autoImplicit false

namespace RuleCheck.Authored

open Text

def operators (text : List Char) : List Char := respellAll replace operatorSpellings text

def nulls (text : List Char) : List Char := respellAll replaceIgnoringCase nullSpellings text

def respelled (text : List Char) : List Char := squeeze (nulls (operators (squeeze text)))

theorem canonical_eq (text : List Char) : canonical text = trim (respelled text) := by
  rw [canonical, collapse_eq_squeeze]
  rfl

theorem operators_eq (text : List Char) :
    operators text =
      replaceWith (· == ·) '|' ['|'] [' ', 'O', 'R', ' ']
        (replaceWith (· == ·) '&' ['&'] [' ', 'A', 'N', 'D', ' ']
          (replaceWith (· == ·) '!' [] [' ', 'N', 'O', 'T', ' ']
            (replaceWith (· == ·) '=' ['='] ['=']
              (replaceWith (· == ·) '!' ['='] ['<', '>'] text)))) := rfl

def operatorFronts : List Char := ['!', '=', '&', '|']

def fronts : List Char := ['!', '=', '&', '|', '<', ' ', 'n', 'N']

def marks : List Char := ['!', '=', '&', '|', '<', '>', ' ', 'n', 'u', 'l', 'N', 'U', 'L']

section

variable {text rest : List Char}

theorem operators_nil : operators [] = [] := by
  simp only [operators_eq, replaceWith_nil]

theorem operators_pass {c : Char} (hc : c ∉ operatorFronts) (text : List Char) :
    operators (c :: text) = c :: operators text := by
  have hne (d : Char) (hd : d ∈ operatorFronts) : (d == c) = false :=
    beq_eq_false_iff_ne.2 fun h => hc (h ▸ hd)
  have hbang := hne '!' (by decide)
  have hequal := hne '=' (by decide)
  have hand := hne '&' (by decide)
  have hor := hne '|' (by decide)
  simp only [operators_eq, replaceWith_pass, hbang, hequal, hand, hor]

theorem operators_pass_all {cs : List Char} (hcs : ∀ c ∈ cs, c ∉ operatorFronts)
    (text : List Char) : operators (cs ++ text) = cs ++ operators text := by
  induction cs with
  | nil => rfl
  | cons c cs ih =>
    rw [List.cons_append, operators_pass (hcs c List.mem_cons_self),
      ih fun d hd => hcs d (List.mem_cons_of_mem c hd), List.cons_append]

theorem operators_unequal (text : List Char) :
    operators ('!' :: '=' :: text) = '<' :: '>' :: operators text := by
  have hmatch : afterMatch? (· == ·) ['!', '='] ('!' :: '=' :: text) = some text := by
    simp [afterMatch?]
  simp (disch := decide) only [operators_eq, replaceWith_of_match hmatch, List.cons_append,
    List.nil_append, replaceWith_pass]

theorem operators_equal (text : List Char) :
    operators ('=' :: '=' :: text) = '=' :: operators text := by
  have hmatch (tail : List Char) :
      afterMatch? (· == ·) ['=', '='] ('=' :: '=' :: tail) = some tail := by
    simp [afterMatch?]
  simp (disch := decide) only [operators_eq, replaceWith_pass, replaceWith_of_match (hmatch _),
    List.cons_append, List.nil_append]

theorem operators_single (h : text.head? ≠ some '=') :
    operators ('=' :: text) = '=' :: operators text := by
  have hhead : (replaceWith (· == ·) '!' ['='] ['<', '>'] text).head?.any ('=' == ·) = false :=
    any_head?_replaceWith (fun _ _ h => by cases h) (any_head?_eq_false.2 h)
  simp (disch := decide) only [operators_eq, replaceWith_pass, replaceWith_cons_of_head hhead]

theorem operators_negation (h : text.head? ≠ some '=') :
    operators ('!' :: text) = [' ', 'N', 'O', 'T', ' '] ++ operators text := by
  have hmatch (tail : List Char) : afterMatch? (· == ·) ['!'] ('!' :: tail) = some tail := by
    simp [afterMatch?]
  simp (disch := decide) only [operators_eq,
    replaceWith_cons_of_head (any_head?_eq_false.2 h), replaceWith_pass,
    replaceWith_of_match (hmatch _), List.cons_append, List.nil_append]

theorem operators_and (text : List Char) :
    operators ('&' :: '&' :: text) = [' ', 'A', 'N', 'D', ' '] ++ operators text := by
  have hmatch (tail : List Char) :
      afterMatch? (· == ·) ['&', '&'] ('&' :: '&' :: tail) = some tail := by
    simp [afterMatch?]
  simp (disch := decide) only [operators_eq, replaceWith_pass, replaceWith_of_match (hmatch _),
    List.cons_append, List.nil_append]

theorem operators_or (text : List Char) :
    operators ('|' :: '|' :: text) = [' ', 'O', 'R', ' '] ++ operators text := by
  have hmatch (tail : List Char) :
      afterMatch? (· == ·) ['|', '|'] ('|' :: '|' :: tail) = some tail := by
    simp [afterMatch?]
  simp (disch := decide) only [operators_eq, replaceWith_pass, replaceWith_of_match (hmatch _),
    List.cons_append, List.nil_append]

def nullWord : List Char := ['n', 'u', 'l', 'l']

def spacedNull : List Char := [' ', 'N', 'U', 'L', 'L']

def afterNull? (text : List Char) : Option (List Char) := afterMatch? sameLetter nullWord text

theorem afterNull?_of_head (h : text.head?.any (sameLetter 'n') = false) :
    afterNull? text = none := afterMatch?_of_head h

theorem afterNull?_cons {c : Char} (hc : c ≠ 'n' ∧ c ≠ 'N') (text : List Char) :
    afterNull? (c :: text) = none :=
  afterMatch?_eq_none (sameLetter_eq_false (by decide) hc)

def afterSpacedNull? : List Char → Option (List Char)
  | ' ' :: text => afterNull? (text.dropWhile (· == ' '))
  | _ => none

theorem afterSpacedNull?_of_ne {c : Char} (hc : c ≠ ' ') (text : List Char) :
    afterSpacedNull? (c :: text) = none := by
  unfold afterSpacedNull?
  split
  · rename_i heq
    cases heq
    exact absurd rfl hc
  · rfl

def eitherCase (d c : Char) : Bool := c == d.toLower || c == d.toUpper

theorem afterMatch?_letter {x c : Char} (hx : x ∈ nullLetters) (hc : eitherCase x c = true)
    (p text : List Char) :
    afterMatch? sameLetter (x :: p) (c :: text) = afterMatch? sameLetter p text :=
  afterMatch?_cons ((sameLetter_eq hx c).trans hc)

theorem afterMatch?_letters {p : List Char} (hp : ∀ d ∈ p, d ∈ nullLetters) (text : List Char) :
    afterMatch? sameLetter p (p ++ text) = some text := by
  have heither : ∀ d ∈ nullLetters, eitherCase d d = true := by decide
  induction p with
  | nil => rfl
  | cons d p ih =>
    obtain ⟨hd, hp⟩ := List.forall_mem_cons.1 hp
    rw [List.cons_append, afterMatch?_letter hd (heither d hd), ih hp]

/-- One step of respelling finds as before what it cannot overlap. -/
theorem afterMatch?_step {same : Char → Char → Bool} {o : Char} {old new p : List Char}
    (hp : p = nullWord ∨ p = spacedNull)
    (hfirst : ∀ d ∈ nullWord ++ spacedNull, same o d.toLower = false ∧ same o d.toUpper = false)
    (hnew : ∀ n < p.length, clash eitherCase (p.drop n) new = true) (text : List Char) :
    afterMatch? sameLetter p (replaceWith same o old new text) =
      (afterMatch? sameLetter p text).map (replaceWith same o old new) := by
  have hmem : ∀ d ∈ p, d ∈ nullWord ++ spacedNull ∧ d ∈ nullLetters := by
    rcases hp with rfl | rfl <;> decide
  refine afterMatch?_replaceWith (fun d hd c hc => ?_) (fun n hn => ?_) text
  · rcases eq_of_sameLetter (hmem d hd).2 hc with rfl | rfl
    · exact (hfirst d (hmem d hd).1).1
    · exact (hfirst d (hmem d hd).1).2
  · rw [← hnew n hn]
    refine clash_congr (fun d hd c => sameLetter_eq (hmem d (List.mem_of_mem_drop hd)).2 c) new

/-- Respelling operators neither makes nor spoils the word for nothing. -/
theorem afterMatch?_operators {p : List Char} (hp : p = nullWord ∨ p = spacedNull)
    (text : List Char) :
    afterMatch? sameLetter p (operators text) = (afterMatch? sameLetter p text).map operators := by
  have hclash : ∀ new ∈ ["<>".toList, "=".toList, " NOT ".toList, " AND ".toList, " OR ".toList],
      ∀ n < p.length, clash eitherCase (p.drop n) new = true := by
    rcases hp with rfl | rfl <;> decide
  simp only [operators_eq]
  rw [afterMatch?_step hp (by decide) (hclash _ (by decide)),
    afterMatch?_step hp (by decide) (hclash _ (by decide)),
    afterMatch?_step hp (by decide) (hclash _ (by decide)),
    afterMatch?_step hp (by decide) (hclash _ (by decide)),
    afterMatch?_step hp (by decide) (hclash _ (by decide))]
  simp only [Option.map_map]
  rfl

def equalNulls (text : List Char) : List Char :=
  replaceWith sameLetter '=' spacedNull [' ', 'I', 'S', ' ', 'N', 'U', 'L', 'L', ' '] text

def unequalNulls (text : List Char) : List Char :=
  replaceWith sameLetter '<' ('>' :: spacedNull)
    [' ', 'I', 'S', ' ', 'N', 'O', 'T', ' ', 'N', 'U', 'L', 'L', ' '] text

def capitalNulls (text : List Char) : List Char :=
  replaceWith sameLetter 'n' ['u', 'l', 'l'] ['N', 'U', 'L', 'L'] text

theorem nulls_eq (text : List Char) :
    nulls text = capitalNulls (unequalNulls (equalNulls text)) := rfl

theorem equalNulls_pass {c : Char} (hc : c ≠ '=') (text : List Char) :
    equalNulls (c :: text) = c :: equalNulls text :=
  replaceWith_pass (sameLetter_eq_false (by decide) ⟨hc, hc⟩)

theorem unequalNulls_pass {c : Char} (hc : c ≠ '<') (text : List Char) :
    unequalNulls (c :: text) = c :: unequalNulls text :=
  replaceWith_pass (sameLetter_eq_false (by decide) ⟨hc, hc⟩)

theorem capitalNulls_pass {c : Char} (hc : c ≠ 'n' ∧ c ≠ 'N') (text : List Char) :
    capitalNulls (c :: text) = c :: capitalNulls text :=
  replaceWith_pass (sameLetter_eq_false (by decide) hc)

theorem nulls_pass {c : Char} (hc : c ∉ fronts ∨ c = ' ') (text : List Char) :
    nulls (c :: text) = c :: nulls text := by
  have hne (x : Char) (hx : x ∈ fronts ∧ x ≠ ' ') : c ≠ x := by
    rintro rfl
    exact hc.elim (fun h => h hx.1) hx.2
  rw [nulls_eq, equalNulls_pass (hne _ (by decide)), unequalNulls_pass (hne _ (by decide)),
    capitalNulls_pass ⟨hne _ (by decide), hne _ (by decide)⟩]
  rfl

/-- The first two rules for nothing neither make nor spoil the word for nothing. -/
theorem afterMatch?_equalNulls {p : List Char} (hp : p = nullWord ∨ p = spacedNull)
    (text : List Char) :
    afterMatch? sameLetter p (equalNulls text) =
      (afterMatch? sameLetter p text).map equalNulls := by
  refine afterMatch?_step hp (fun d hd => ?_) ?_ text
  · have hne : ∀ d ∈ nullWord ++ spacedNull, d.toLower ≠ '=' ∧ d.toUpper ≠ '=' := by decide
    exact ⟨sameLetter_eq_false (by decide) ⟨(hne d hd).1, (hne d hd).1⟩,
      sameLetter_eq_false (by decide) ⟨(hne d hd).2, (hne d hd).2⟩⟩
  · rcases hp with rfl | rfl <;> decide

theorem afterNull?_unequalNulls (text : List Char) :
    afterNull? (unequalNulls text) = (afterNull? text).map unequalNulls := by
  refine afterMatch?_step (.inl rfl) (fun d hd => ?_) (by decide) text
  have hne : ∀ d ∈ nullWord ++ spacedNull, d.toLower ≠ '<' ∧ d.toUpper ≠ '<' := by decide
  exact ⟨sameLetter_eq_false (by decide) ⟨(hne d hd).1, (hne d hd).1⟩,
    sameLetter_eq_false (by decide) ⟨(hne d hd).2, (hne d hd).2⟩⟩

theorem capitalNulls_capital (text : List Char) :
    capitalNulls ('N' :: 'U' :: 'L' :: 'L' :: text) =
      'N' :: 'U' :: 'L' :: 'L' :: capitalNulls text := by
  have hmatch : afterMatch? sameLetter ['n', 'u', 'l', 'l'] ('N' :: 'U' :: 'L' :: 'L' :: text) =
      some text := by
    simp (disch := decide) only [afterMatch?_letter]
    rfl
  rw [capitalNulls, replaceWith_of_match hmatch]
  rfl

/-- A capital that another letter follows does not begin the word for nothing. -/
theorem capitalNulls_other {d : Char} (hd : d ≠ 'u' ∧ d ≠ 'U') (text : List Char) :
    capitalNulls ('N' :: d :: text) = 'N' :: capitalNulls (d :: text) := by
  refine replaceWith_cons ?_
  rw [afterMatch?_letter (by decide) (by decide),
    afterMatch?_eq_none (sameLetter_eq_false (by decide) hd)]

theorem nulls_equal_null (h : afterMatch? sameLetter spacedNull text = some rest) :
    nulls ('=' :: text) = [' ', 'I', 'S', ' ', 'N', 'U', 'L', 'L', ' '] ++ nulls rest := by
  have hmatch : afterMatch? sameLetter ('=' :: spacedNull) ('=' :: text) = some rest := by
    rw [afterMatch?_letter (by decide) (by decide), h]
  rw [nulls_eq, equalNulls, replaceWith_of_match hmatch]
  simp (disch := decide) only [List.cons_append, List.nil_append, unequalNulls_pass,
    capitalNulls_pass, capitalNulls_capital]
  rfl

theorem nulls_equal (h : afterMatch? sameLetter spacedNull text = none) :
    nulls ('=' :: text) = '=' :: nulls text := by
  have hnone : afterMatch? sameLetter ('=' :: spacedNull) ('=' :: text) = none := by
    rw [afterMatch?_letter (by decide) (by decide), h]
  rw [nulls_eq, equalNulls, replaceWith_cons hnone, unequalNulls_pass (by decide),
    capitalNulls_pass (by decide)]
  rfl

theorem afterMatch?_unequal (text : List Char) :
    afterMatch? sameLetter ('<' :: '>' :: spacedNull) ('<' :: '>' :: equalNulls text) =
      (afterMatch? sameLetter spacedNull text).map equalNulls := by
  rw [afterMatch?_letter (by decide) (by decide), afterMatch?_letter (by decide) (by decide),
    afterMatch?_equalNulls (.inr rfl)]

theorem nulls_unequal_null (h : afterMatch? sameLetter spacedNull text = some rest) :
    nulls ('<' :: '>' :: text) =
      [' ', 'I', 'S', ' ', 'N', 'O', 'T', ' ', 'N', 'U', 'L', 'L', ' '] ++ nulls rest := by
  have hmatch := afterMatch?_unequal text
  rw [h] at hmatch
  rw [nulls_eq, equalNulls_pass (by decide), equalNulls_pass (by decide), unequalNulls,
    replaceWith_of_match hmatch]
  simp (disch := decide) only [List.cons_append, List.nil_append, capitalNulls_pass,
    capitalNulls_capital, capitalNulls_other]
  rfl

theorem nulls_unequal (h : afterMatch? sameLetter spacedNull text = none) :
    nulls ('<' :: '>' :: text) = '<' :: '>' :: nulls text := by
  have hnone := afterMatch?_unequal text
  rw [h] at hnone
  rw [nulls_eq, equalNulls_pass (by decide), equalNulls_pass (by decide), unequalNulls,
    replaceWith_cons hnone, ← unequalNulls, unequalNulls_pass (by decide),
    capitalNulls_pass (by decide), capitalNulls_pass (by decide)]
  rfl

theorem nulls_less (h : text.head? ≠ some '>') : nulls ('<' :: text) = '<' :: nulls text := by
  have hhead : (equalNulls text).head?.any (sameLetter '>') = false := by
    refine any_head?_replaceWith (fun _ _ hspace => ?_) ?_
    · rw [sameLetter_eq_false (by decide) (by decide)] at hspace
      cases hspace
    · cases text with
      | nil => rfl
      | cons c text =>
        have hc : c ≠ '>' := fun hc => h (congrArg some hc)
        exact sameLetter_eq_false (by decide) ⟨hc, hc⟩
  rw [nulls_eq, equalNulls_pass (by decide), unequalNulls, replaceWith_cons_of_head hhead,
    capitalNulls_pass (by decide)]
  rfl

theorem nulls_letter {c : Char} (hc : c = 'n' ∨ c = 'N') (h : afterNull? (c :: text) = none) :
    nulls (c :: text) = c :: nulls text := by
  have hsign : c ≠ '=' ∧ c ≠ '<' := by
    rcases hc with rfl | rfl <;> decide
  have hnone : afterNull? (c :: unequalNulls (equalNulls text)) = none := by
    rw [← unequalNulls_pass hsign.2, ← equalNulls_pass hsign.1, afterNull?_unequalNulls, afterNull?,
      afterMatch?_equalNulls (.inl rfl), ← afterNull?, h]
    rfl
  rw [nulls_eq, equalNulls_pass hsign.1, unequalNulls_pass hsign.2, capitalNulls,
    replaceWith_cons hnone]
  rfl

theorem nulls_capital {d : Char} (hd : d ≠ 'u' ∧ d ≠ 'U') (text : List Char) :
    nulls ('N' :: d :: text) = 'N' :: nulls (d :: text) := by
  refine nulls_letter (.inr rfl) ?_
  rw [afterNull?, nullWord, afterMatch?_letter (by decide) (by decide),
    afterMatch?_eq_none (sameLetter_eq_false (by decide) hd)]

theorem respelled_nil : respelled [] = [] := by
  simp only [respelled, squeeze, operators_nil, nulls_eq, equalNulls, unequalNulls, capitalNulls,
    replaceWith_nil]

theorem respelled_pass {c : Char} (hc : c ∉ fronts) (text : List Char) :
    respelled (c :: text) = c :: respelled text := by
  have hspace : c ≠ ' ' := by
    rintro rfl
    exact hc (by decide)
  have hoperator : c ∉ operatorFronts := fun h => hc (List.mem_append_left _ h)
  rw [respelled, squeeze_cons hspace, operators_pass hoperator, nulls_pass (.inl hc),
    squeeze_cons hspace, respelled]

/-- What the first character is not, it does not become in front of the operators. -/
theorem any_head?_operators {p : Char → Bool} (hless : p '<' = false) (hspace : p ' ' = false)
    (h : text.head?.any p = false) : (operators text).head?.any p = false := by
  rw [operators_eq]
  refine any_head?_replaceWith (fun _ _ hp => absurd hp (by simp [hspace])) ?_
  refine any_head?_replaceWith (fun _ _ hp => absurd hp (by simp [hspace])) ?_
  refine any_head?_replaceWith (fun _ _ hp => absurd hp (by simp [hspace])) ?_
  refine any_head?_replaceWith (fun c hc hp => beq_iff_eq.1 hc ▸ hp) ?_
  exact any_head?_replaceWith (fun _ _ hp => absurd hp (by simp [hless])) h

/-- What the first character of a rule is not, it does not become, unless it is the sign for
less, a space or a capital. -/
theorem any_head?_respelled {p : Char → Bool} (hless : p '<' = false) (hspace : p ' ' = false)
    (hcapital : p 'N' = true → p 'n' = true) (h : text.head?.any p = false) :
    (respelled text).head?.any p = false := by
  rw [respelled, head?_squeeze, nulls_eq]
  refine any_head?_replaceWith (fun c hc hp => ?_) ?_
  · rcases eq_of_sameLetter (by decide) hc with rfl | rfl
    · exact hcapital hp
    · exact hp
  refine any_head?_replaceWith (fun _ _ hp => absurd hp (by simp [hspace])) ?_
  refine any_head?_replaceWith (fun _ _ hp => absurd hp (by simp [hspace])) ?_
  exact any_head?_operators hless hspace (by rwa [head?_squeeze])

/-- A space stands before what the rest becomes, unless that begins with one. -/
theorem respelled_space (text : List Char) :
    respelled (' ' :: text) = squeeze (' ' :: nulls (operators (squeeze text))) := by
  by_cases hhead : text.head? = some ' '
  · obtain ⟨rest, rfl⟩ : ∃ rest, text = ' ' :: rest := by
      cases text with
      | nil => cases hhead
      | cons c rest => cases hhead; exact ⟨rest, rfl⟩
    obtain ⟨tail, htail⟩ : ∃ tail, squeeze (' ' :: rest) = ' ' :: tail := by
      have := head?_squeeze (' ' :: rest)
      cases hs : squeeze (' ' :: rest) with
      | nil => rw [hs] at this; cases this
      | cons c tail => rw [hs] at this; cases this; exact ⟨tail, rfl⟩
    rw [respelled, squeeze_pair, htail, operators_pass (by decide), nulls_pass (.inr rfl),
      squeeze_pair]
  · rw [respelled, squeeze_space hhead, operators_pass (by decide), nulls_pass (.inr rfl)]

theorem squeeze_space_cases (text : List Char) :
    squeeze (' ' :: text) = squeeze text ∨ squeeze (' ' :: text) = ' ' :: squeeze text := by
  by_cases hhead : text.head? = some ' '
  · cases text with
    | nil => cases hhead
    | cons c text =>
      cases hhead
      exact .inl (squeeze_pair text)
  · exact .inr (squeeze_space hhead)

theorem respelled_space_cases (text : List Char) :
    respelled (' ' :: text) = respelled text ∨ respelled (' ' :: text) = ' ' :: respelled text := by
  rw [respelled_space]
  exact squeeze_space_cases _

theorem squeeze_space_eq (text : List Char) :
    squeeze (' ' :: text) = ' ' :: squeeze (text.dropWhile (· == ' ')) := by
  induction text with
  | nil => rfl
  | cons c text ih =>
    by_cases hc : c = ' '
    · subst hc
      rw [squeeze_pair, ih]
      rfl
    · rw [squeeze_space (by simpa using hc), List.dropWhile_cons_of_neg (by simpa using hc)]

/-- The word for nothing is found in any mixture of capitals and small letters. -/
theorem afterMatch?_capitals (text : List Char) :
    afterMatch? sameLetter ['N', 'U', 'L', 'L'] text = afterNull? text := by
  have hsame : ∀ x ∈ ['n', 'u', 'l'], sameLetter x.toUpper = sameLetter x := by
    intro x hx
    have hcases : x ∈ nullLetters ∧ x.toUpper ∈ nullLetters ∧ x.toUpper.toLower = x.toLower ∧
        x.toUpper.toUpper = x.toUpper := by
      revert x
      decide
    funext c
    rw [sameLetter_eq hcases.1, sameLetter_eq hcases.2.1, hcases.2.2.1, hcases.2.2.2]
  have hn : sameLetter 'N' = sameLetter 'n' := hsame 'n' (by decide)
  have hu : sameLetter 'U' = sameLetter 'u' := hsame 'u' (by decide)
  have hl : sameLetter 'L' = sameLetter 'l' := hsame 'l' (by decide)
  unfold afterNull? nullWord
  rcases text with _ | ⟨a, _ | ⟨b, _ | ⟨c, _ | ⟨d, rest⟩⟩⟩⟩ <;>
    simp only [afterMatch?, hn, hu, hl]

theorem afterNull?_word (text : List Char) :
    afterNull? (['N', 'U', 'L', 'L'] ++ text) = some text := by
  rw [← afterMatch?_capitals, afterMatch?_letters (by decide)]

/-- Dropping spaces neither makes nor spoils the word for nothing. -/
theorem afterNull?_squeeze (text : List Char) :
    afterNull? (squeeze text) = (afterNull? text).map squeeze := by
  refine afterMatch?_squeeze (fun d hd => ?_) text
  have hne : d ∈ nullLetters ∧ ' ' ≠ d.toLower ∧ ' ' ≠ d.toUpper := by
    revert d
    decide
  exact sameLetter_eq_false hne.1 hne.2

theorem afterNull?_capitalNulls (text : List Char) :
    afterNull? (capitalNulls text) = (afterNull? text).map capitalNulls := by
  cases hfound : afterNull? text with
  | some rest =>
    have hmatch : afterMatch? sameLetter ['n', 'u', 'l', 'l'] text = some rest := hfound
    rw [capitalNulls, replaceWith_of_match hmatch, ← capitalNulls, afterNull?_word]
    rfl
  | none =>
    cases text with
    | nil =>
      rw [capitalNulls, replaceWith_nil]
      rfl
    | cons c text =>
      rw [capitalNulls, replaceWith_cons hfound, afterNull?, nullWord, afterMatch?]
      rw [afterNull?, nullWord, afterMatch?] at hfound
      split
      · rename_i hc
        rw [if_pos hc] at hfound
        -- Behind its first letter the word holds no letter that the capitals begin with.
        have hapart : ∀ d ∈ ['u', 'l', 'l'], sameLetter d 'N' = false := by
          intro d hd
          have hne : d ∈ nullLetters ∧ 'N' ≠ d.toLower ∧ 'N' ≠ d.toUpper := by
            revert d
            decide
          exact sameLetter_eq_false hne.1 hne.2
        exact afterMatch?_of_replaceWith hapart hfound
      · rfl

/-- Before the capitals are written the word for nothing is where it was. -/
theorem afterNull?_unequalNulls_operators (text : List Char) :
    afterNull? (unequalNulls (equalNulls (operators (squeeze text)))) =
      (afterNull? text).map fun rest => unequalNulls (equalNulls (operators (squeeze rest))) := by
  rw [afterNull?_unequalNulls, afterNull?, afterMatch?_equalNulls (.inl rfl),
    afterMatch?_operators (.inl rfl), ← afterNull?, afterNull?_squeeze]
  simp only [Option.map_map]
  rfl

theorem afterNull?_respelled (text : List Char) :
    afterNull? (respelled text) = (afterNull? text).map respelled := by
  rw [respelled, nulls_eq, afterNull?_squeeze, afterNull?_capitalNulls,
    afterNull?_unequalNulls_operators]
  simp only [Option.map_map]
  rfl

/-- The word for nothing behind spaces is found behind the one space that is left of them. -/
theorem afterMatch?_spacedNull_squeeze (text : List Char) :
    afterMatch? sameLetter spacedNull (squeeze text) = (afterSpacedNull? text).map squeeze := by
  cases text with
  | nil => rfl
  | cons c text =>
    by_cases hc : c = ' '
    · subst hc
      rw [squeeze_space_eq, spacedNull, afterMatch?_letter (by decide) (by decide),
        afterMatch?_capitals]
      exact afterNull?_squeeze _
    · rw [squeeze_cons hc, spacedNull, afterSpacedNull?_of_ne hc,
        afterMatch?_eq_none (sameLetter_eq_false (by decide) ⟨hc, hc⟩)]
      rfl

def afterEqual (text : List Char) : List Char :=
  match afterSpacedNull? text with
  | some rest => [' ', 'I', 'S', ' ', 'N', 'U', 'L', 'L'] ++ respelled (' ' :: rest)
  | none => '=' :: respelled text

def afterUnequal (text : List Char) : List Char :=
  match afterSpacedNull? text with
  | some rest =>
    [' ', 'I', 'S', ' ', 'N', 'O', 'T', ' ', 'N', 'U', 'L', 'L'] ++ respelled (' ' :: rest)
  | none => '<' :: '>' :: respelled text

theorem afterMatch?_spacedNull (text : List Char) :
    afterMatch? sameLetter spacedNull (operators (squeeze text)) =
      (afterSpacedNull? text).map fun rest => operators (squeeze rest) := by
  rw [afterMatch?_operators (.inr rfl), afterMatch?_spacedNull_squeeze, Option.map_map]
  rfl

theorem squeeze_nulls_equal (text : List Char) :
    squeeze (nulls ('=' :: operators (squeeze text))) = afterEqual text := by
  have hfound := afterMatch?_spacedNull text
  unfold afterEqual
  split
  · rename_i rest hrest
    rw [hrest] at hfound
    rw [nulls_equal_null hfound, respelled_space]
    rfl
  · rename_i hnone
    rw [hnone] at hfound
    rw [nulls_equal hfound, squeeze_cons (by decide), respelled]

theorem squeeze_nulls_unequal (text : List Char) :
    squeeze (nulls ('<' :: '>' :: operators (squeeze text))) = afterUnequal text := by
  have hfound := afterMatch?_spacedNull text
  unfold afterUnequal
  split
  · rename_i rest hrest
    rw [hrest] at hfound
    rw [nulls_unequal_null hfound, respelled_space]
    rfl
  · rename_i hnone
    rw [hnone] at hfound
    rw [nulls_unequal hfound, squeeze_cons (by decide), squeeze_cons (by decide), respelled]

theorem respelled_equal (h : text.head? ≠ some '=') :
    respelled ('=' :: text) = afterEqual text := by
  rw [respelled, squeeze_cons (by decide), operators_single (by rwa [head?_squeeze]),
    squeeze_nulls_equal]

theorem respelled_double_equal (text : List Char) :
    respelled ('=' :: '=' :: text) = afterEqual text := by
  rw [respelled, squeeze_cons (by decide), squeeze_cons (by decide), operators_equal,
    squeeze_nulls_equal]

theorem respelled_unequal (text : List Char) :
    respelled ('<' :: '>' :: text) = afterUnequal text := by
  rw [respelled, squeeze_cons (by decide), squeeze_cons (by decide), operators_pass (by decide),
    operators_pass (by decide), squeeze_nulls_unequal]

theorem respelled_not_equal (text : List Char) :
    respelled ('!' :: '=' :: text) = afterUnequal text := by
  rw [respelled, squeeze_cons (by decide), squeeze_cons (by decide), operators_unequal,
    squeeze_nulls_unequal]

theorem respelled_less (h : text.head? ≠ some '>') :
    respelled ('<' :: text) = '<' :: respelled text := by
  have hhead : (operators (squeeze text)).head? ≠ some '>' := by
    refine any_head?_eq_false.1 (any_head?_operators (by decide) (by decide) ?_)
    rw [head?_squeeze]
    exact any_head?_eq_false.2 h
  rw [respelled, squeeze_cons (by decide), operators_pass (by decide), nulls_less hhead,
    squeeze_cons (by decide), respelled]

theorem respelled_negation (h : text.head? ≠ some '=') :
    respelled ('!' :: text) = [' ', 'N', 'O', 'T'] ++ respelled (' ' :: text) := by
  rw [respelled, squeeze_cons (by decide), operators_negation (by rwa [head?_squeeze]),
    respelled_space]
  simp (disch := decide) only [List.cons_append, List.nil_append, nulls_capital, nulls_pass]
  rfl

theorem respelled_and (text : List Char) :
    respelled ('&' :: '&' :: text) = [' ', 'A', 'N', 'D'] ++ respelled (' ' :: text) := by
  rw [respelled, squeeze_cons (by decide), squeeze_cons (by decide), operators_and,
    respelled_space]
  simp (disch := decide) only [List.cons_append, List.nil_append, nulls_capital, nulls_pass]
  rfl

theorem respelled_or (text : List Char) :
    respelled ('|' :: '|' :: text) = [' ', 'O', 'R'] ++ respelled (' ' :: text) := by
  rw [respelled, squeeze_cons (by decide), squeeze_cons (by decide), operators_or,
    respelled_space]
  simp (disch := decide) only [List.cons_append, List.nil_append, nulls_pass]
  rfl

theorem respelled_null (h : afterNull? text = some rest) :
    respelled text = ['N', 'U', 'L', 'L'] ++ respelled rest := by
  have hfound := afterNull?_unequalNulls_operators text
  rw [h] at hfound
  rw [respelled, nulls_eq, capitalNulls, replaceWith_of_match hfound]
  exact squeeze_append (by decide) _

theorem respelled_letter {c : Char} (hc : c = 'n' ∨ c = 'N') (h : afterNull? (c :: text) = none) :
    respelled (c :: text) = c :: respelled text := by
  have hmarks : c ≠ ' ' ∧ c ∉ operatorFronts := by
    rcases hc with rfl | rfl <;> decide
  have hnone : afterNull? (c :: operators (squeeze text)) = none := by
    rw [← operators_pass hmarks.2, ← squeeze_cons hmarks.1, afterNull?,
      afterMatch?_operators (.inl rfl), ← afterNull?, afterNull?_squeeze, h]
    rfl
  rw [respelled, squeeze_cons hmarks.1, operators_pass hmarks.2, nulls_letter hc hnone,
    squeeze_cons hmarks.1, respelled]

theorem operators_single_and (h : text.head? ≠ some '&') :
    operators ('&' :: text) = '&' :: operators text := by
  have hhead : (replaceWith (· == ·) '!' [] [' ', 'N', 'O', 'T', ' ']
      (replaceWith (· == ·) '=' ['='] ['=']
        (replaceWith (· == ·) '!' ['='] ['<', '>'] text))).head?.any ('&' == ·) = false := by
    refine any_head?_replaceWith (fun _ _ h => by cases h) ?_
    refine any_head?_replaceWith (fun _ _ h => by cases h) ?_
    exact any_head?_replaceWith (fun _ _ h => by cases h) (any_head?_eq_false.2 h)
  simp (disch := decide) only [operators_eq, replaceWith_pass, replaceWith_cons_of_head hhead]

theorem operators_single_or (h : text.head? ≠ some '|') :
    operators ('|' :: text) = '|' :: operators text := by
  have hhead : (replaceWith (· == ·) '&' ['&'] [' ', 'A', 'N', 'D', ' ']
      (replaceWith (· == ·) '!' [] [' ', 'N', 'O', 'T', ' ']
        (replaceWith (· == ·) '=' ['='] ['=']
          (replaceWith (· == ·) '!' ['='] ['<', '>'] text)))).head?.any ('|' == ·) = false := by
    refine any_head?_replaceWith (fun _ _ h => by cases h) ?_
    refine any_head?_replaceWith (fun _ _ h => by cases h) ?_
    refine any_head?_replaceWith (fun _ _ h => by cases h) ?_
    exact any_head?_replaceWith (fun _ _ h => by cases h) (any_head?_eq_false.2 h)
  simp (disch := decide) only [operators_eq, replaceWith_pass, replaceWith_cons_of_head hhead]

theorem respelled_sign {c : Char} (hc : c = '&' ∨ c = '|') (h : text.head? ≠ some c) :
    respelled (c :: text) = c :: respelled text := by
  have hoperators : operators (c :: squeeze text) = c :: operators (squeeze text) := by
    rcases hc with rfl | rfl
    · exact operators_single_and (by rwa [head?_squeeze])
    · exact operators_single_or (by rwa [head?_squeeze])
  have hne : c ≠ ' ' ∧ c ≠ '=' ∧ c ≠ '<' ∧ c ≠ 'n' ∧ c ≠ 'N' := by
    rcases hc with rfl | rfl <;> decide
  obtain ⟨hspace, hequal, hless, hletter⟩ := hne
  rw [respelled, squeeze_cons hspace, hoperators, nulls_eq, equalNulls_pass hequal,
    unequalNulls_pass hless, capitalNulls_pass hletter, squeeze_cons hspace]
  rfl

end

end RuleCheck.Authored
