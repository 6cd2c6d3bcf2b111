import RuleCheck.Proofs.Authored.Apart
import RuleCheck.Proofs.Token.Taken

/-!
# Tokens of a respelled rule

Each token of an authored rule becomes the same lexemes wherever it stands: words, numbers,
texts and names in brackets are read as they are respelled, operators become those of the
grammar. The one exception is an equality with the word for nothing behind it, which becomes
a test for nothing only where plain spaces stand between.
-/

set_option autoImplicit false

namespace RuleCheck.Authored

open Text Lexeme

def prepend (ls : List Lexeme) (x : Except Misspelling (List Lexeme)) :
    Except Misspelling (List Lexeme) := x.map (ls ++ ·)

theorem prepend_nil (x : Except Misspelling (List Lexeme)) : prepend [] x = x := by
  cases x <;> rfl

theorem prepend_append (ls ms : List Lexeme) (x : Except Misspelling (List Lexeme)) :
    prepend (ls ++ ms) x = prepend ls (prepend ms x) := by
  cases x with
  | error mistake => rfl
  | ok ns => exact congrArg Except.ok (List.append_assoc ls ms ns)

theorem scan_of_read_prepend {c : Char} {cs rest : List Char} {l : Lexeme}
    (hc : isSpace c = false) (h : Lexeme.read c cs = .ok (l, rest)) :
    scan (c :: cs) = prepend [l] (scan rest) := scan_of_read hc h

section

variable {text : List Char}

theorem scan_gap {gap : List Char} (hgap : isBlank gap = true) (text : List Char) :
    scan (respelled (gap ++ text)) = scan (respelled text) := by
  induction gap with
  | nil => rfl
  | cons c gap ih =>
    rw [isBlank, List.all_cons, Bool.and_eq_true] at hgap
    rw [← ih hgap.2, List.cons_append]
    by_cases hc : c = ' '
    · subst hc
      rcases respelled_space_cases (gap ++ text) with h | h
      · rw [h]
      · rw [h, scan_space hgap.1]
    · have hfronts : ∀ d ∈ fronts, isSpace d = true → d = ' ' := by decide
      rw [respelled_pass (fun h => hc (hfronts c h hgap.1)), scan_space hgap.1]

theorem scan_respelled_space (text : List Char) :
    scan (respelled (' ' :: text)) = scan (respelled text) :=
  scan_gap (by decide : isBlank [' '] = true) text

theorem not_mem_of_all_false {p : Char → Bool} {cs : List Char} (hcs : ∀ d ∈ cs, p d = false)
    {c : Char} (hc : p c = true) : c ∉ cs := fun h => Bool.eq_false_iff.1 (hcs c h) hc

theorem inNumeral_front {c : Char} (hc : inNumeral c = true) : c ∉ fronts :=
  not_mem_of_all_false (by decide) hc

theorem steady_respelled : Steady respelled where
  pass hc := respelled_pass (inNumeral_front hc) _
  head h := any_head?_respelled (by decide) (by decide)
    (fun hc => absurd hc (by decide)) h

theorem inNumeral_of_startsNumber {c : Char} {cs : List Char}
    (h : startsNumber (c :: cs) = true) : inNumeral c = true := by
  by_cases hpoint : c = '.'
  · exact inNumeral_of_mem (by simp [hpoint])
  · rw [startsNumber_cons hpoint] at h
    exact inNumeral_of_isDigit h

theorem solid_of_inNumeral {c : Char} (h : inNumeral c = true) : isSpace c = false := by
  cases hc : isSpace c with
  | false => rfl
  | true =>
    rw [(apart_of_isSpace hc).2.1] at h
    cases h

theorem scan_number {raw : List Char} (hstart : startsNumber (raw ++ text) = true)
    (hraw : numeral (raw ++ text) = (raw, text)) :
    scan (respelled (raw ++ text)) =
      prepend [number (String.ofList raw)] (scan (respelled text)) := by
  have hstart' := steady_respelled.startsNumber (raw ++ text)
  have hraw' := steady_respelled.numeral (raw ++ text)
  rw [hstart] at hstart'
  rw [hraw] at hraw'
  cases hcs : raw ++ text with
  | nil => rw [hcs] at hstart; cases hstart
  | cons c cs =>
    rw [hcs] at hstart hstart' hraw'
    have hc := inNumeral_of_startsNumber hstart
    rw [steady_respelled.pass hc] at hstart' hraw' ⊢
    refine scan_of_read_prepend (solid_of_inNumeral hc) ?_
    rw [read_number hstart', hraw']

theorem not_mem_respelled {c : Char} (hc : c ∉ written) {cs : List Char} (h : c ∉ cs) :
    c ∉ respelled cs := fun hmem => (mem_respelled hmem).elim h hc

/-- Quotes part a text, so they may be doubled before or after respelling. -/
theorem respelled_doubled (cs : List Char) : respelled (doubled cs) = doubled (respelled cs) := by
  by_cases h : '\'' ∈ cs
  · obtain ⟨a, b, rfl, ha⟩ := List.eq_append_cons_of_mem h
    have hquote : '\'' ∉ marks := by decide
    have hlength : b.length < (a ++ '\'' :: b).length := by
      rw [List.length_append, List.length_cons]
      omega
    have hb := respelled_doubled b
    rw [doubled_append, doubled_quote, doubled_of_not_mem ha, respelled_append_cons hquote,
      respelled_pass (by decide), hb, respelled_append_cons hquote, doubled_append, doubled_quote,
      doubled_of_not_mem (not_mem_respelled (by decide) ha)]
  · rw [doubled_of_not_mem h, doubled_of_not_mem (not_mem_respelled (by decide) h)]
termination_by cs.length

theorem contains_doubled (cs : List Char) :
    contains placeholder (doubled cs) = contains placeholder cs := by
  by_cases h : '\'' ∈ cs
  · obtain ⟨a, b, rfl, ha⟩ := List.eq_append_cons_of_mem h
    have hquote : '\'' ∉ ['{', '0', '}'] := by decide
    have hlength : b.length < (a ++ '\'' :: b).length := by
      rw [List.length_append, List.length_cons]
      omega
    have hb := contains_doubled b
    rw [placeholder] at hb ⊢
    rw [doubled_append, doubled_quote, doubled_of_not_mem ha, contains_append_cons hquote,
      contains_append_cons hquote, contains_pass (by decide), hb]
  · rw [doubled_of_not_mem h]
termination_by cs.length

theorem scan_text (s : List Char) (h : text.head? ≠ some '\'') :
    scan (respelled ('\'' :: doubled s ++ ['\''] ++ text)) =
      prepend [.text (String.ofList (respelled s))] (scan (respelled text)) := by
  have hhead : (respelled text).head? ≠ some '\'' :=
    any_head?_eq_false.1 (any_head?_respelled (by decide) (by decide) (by decide)
      (any_head?_eq_false.2 h))
  rw [List.append_assoc, List.cons_append, List.cons_append, List.nil_append,
    respelled_pass (by decide), respelled_append_cons (by decide), respelled_doubled]
  exact scan_of_read_prepend (by decide) (read_text (quotedContent?_doubled _ hhead))

theorem scan_name {content : List Char} (hbracket : ']' ∉ content)
    (hblank : isBlank content = false) :
    scan (respelled ('[' :: content ++ [']'] ++ text)) =
      prepend [name (String.ofList (respelled content))] (scan (respelled text)) := by
  have hblank' : isBlank (respelled content) = false := by
    cases h : isBlank (respelled content) with
    | false => rfl
    | true =>
      rw [isBlank_of_respelled h] at hblank
      cases hblank
  rw [List.append_assoc, List.cons_append, List.cons_append, List.nil_append,
    respelled_pass (by decide), respelled_append_cons (by decide)]
  refine scan_of_read_prepend (by decide) ?_
  rw [read_bracket, bracketName_closed (not_mem_respelled (by decide) hbracket), hblank']
  rfl

theorem isWordPart_sign {c : Char} (hc : isWordPart c = true) : c ∉ signs :=
  not_mem_of_all_false (by decide) hc

theorem isWordPart_of_continuesNull {c : Char} (h : continuesNull c = true) :
    isWordPart c = true := by
  have hletters : ∀ d ∈ nullWord, isWordPart d.toLower = true ∧ isWordPart d.toUpper = true := by
    decide
  obtain ⟨d, hd, hc⟩ := List.any_eq_true.1 h
  rw [eitherCase, Bool.or_eq_true, beq_iff_eq, beq_iff_eq] at hc
  rcases hc with rfl | rfl
  · exact (hletters d hd).1
  · exact (hletters d hd).2

theorem scan_word {c : Char} {cs : List Char} (hc : BeginsWord c)
    (hcs : ∀ d ∈ cs, isWordPart d = true) (h : text.head?.any isWordPart = false) :
    scan (respelled (c :: cs ++ text)) =
      prepend [ofWord (String.ofList (respelled (c :: cs)))] (scan (respelled text)) := by
  have hparts : ∀ d ∈ c :: cs, isWordPart d = true :=
    List.forall_mem_cons.2 ⟨isWordPart_of_isWordStart hc.2.2.1, hcs⟩
  have hsigns : ∀ d ∈ c :: cs, d ∉ signs := fun d hd => isWordPart_sign (hparts d hd)
  have hcontinues : text.head?.any continuesNull = false :=
    any_head?_mono (fun _ => isWordPart_of_continuesNull) h
  have hhead : (respelled text).head?.any isWordPart = false :=
    any_head?_respelled (by decide) (by decide) (fun _ => by decide) h
  obtain ⟨d, ds, hword, hd, hds⟩ := respelled_plain_cons hsigns
  have hd : BeginsWord d := by
    rcases hd with rfl | rfl
    · exact hc
    · decide
  have hds : ∀ e ∈ ds, isWordPart e = true := by
    have hcapitals : ∀ e ∈ ['N', 'U', 'L', 'L'], isWordPart e = true := by decide
    exact fun e he => (hds e he).elim (hcs e) (hcapitals e)
  rw [respelled_plain_append hsigns hcontinues, hword, List.cons_append]
  exact scan_of_read_prepend hd.1 (read_word hd hds hhead)

theorem afterNull?_nullWord (text : List Char) : afterNull? (nullWord ++ text) = some text :=
  afterMatch?_letters (by decide) text

theorem scan_null (h : text.head?.any isWordPart = false) :
    scan (respelled (nullWord ++ text)) = prepend [keyword .null] (scan (respelled text)) := by
  have hbegins : BeginsWord 'n' := by decide
  have hparts : ∀ d ∈ ['u', 'l', 'l'], isWordPart d = true := by decide
  have hword := scan_word hbegins hparts h
  have hnull : respelled nullWord = ['N', 'U', 'L', 'L'] :=
    (respelled_null (afterNull?_nullWord [])).trans (by rw [respelled_nil]; rfl)
  rw [← nullWord, hnull] at hword
  exact hword

theorem scan_sign {c : Char} {cs rest : List Char} {l : Lexeme} (hspace : isSpace c = false)
    (hc : BeginsSign c) (h : symbol? (c :: cs) = some (l, rest)) :
    scan (c :: cs) = prepend [l] (scan rest) := scan_of_read_prepend hspace (read_sign hc h)

theorem scan_plain_sign {c : Char} {l : Lexeme} (hc : c ∈ ['+', '-', '*', '/', '%', '(', ')'])
    (hl : sign? c = some l) :
    scan (respelled (c :: text)) = prepend [l] (scan (respelled text)) := by
  have htable : ∀ c ∈ ['+', '-', '*', '/', '%', '(', ')'], c ∉ fronts ∧ isSpace c = false ∧
      BeginsSign c ∧ c ≠ '<' ∧ c ≠ '>' := by decide
  obtain ⟨hfront, hspace, hsign, hless, hgreater⟩ := htable c hc
  rw [respelled_pass hfront]
  refine scan_sign hspace hsign ?_
  rw [symbol?_of_ne hless hgreater, hl]
  rfl

theorem head?_respelled_ne {c : Char} (hc : c ≠ '<' ∧ c ≠ ' ' ∧ c ≠ 'N')
    (h : text.head? ≠ some c) : (respelled text).head? ≠ some c := by
  refine any_head?_eq_false.1 (any_head?_respelled ?_ ?_ (fun hn => ?_) (any_head?_eq_false.2 h))
  · exact beq_eq_false_iff_ne.2 hc.1
  · exact beq_eq_false_iff_ne.2 hc.2.1
  · exact absurd (beq_iff_eq.1 hn) hc.2.2

theorem scan_greater (h : text.head? ≠ some '=') :
    scan (respelled ('>' :: text)) = prepend [comparison .gt] (scan (respelled text)) := by
  rw [respelled_pass (by decide)]
  exact scan_sign (by decide) (by decide)
    (symbol?_greater (head?_respelled_ne (by decide) h))

theorem scan_less (hgreater : text.head? ≠ some '>') (hequal : text.head? ≠ some '=') :
    scan (respelled ('<' :: text)) = prepend [comparison .lt] (scan (respelled text)) := by
  rw [respelled_less hgreater]
  exact scan_sign (by decide) (by decide)
    (symbol?_less (head?_respelled_ne (by decide) hgreater) (head?_respelled_ne (by decide) hequal))

theorem scan_keyword (k : Keyword) {rest : List Char} (h : rest.head?.any isWordPart = false) :
    scan (k.word.toList ++ rest) = prepend [keyword k] (scan rest) := by
  obtain ⟨c, cs, hspelling, hspace, hread⟩ := exists_read_keyword k
  rw [hspelling, List.cons_append]
  exact scan_of_read_prepend hspace (hread rest h)

def spacedWords (ks : List Keyword) : List Char := ks.flatMap fun k => ' ' :: k.word.toList

theorem scan_spacedWords (ks : List Keyword) {rest : List Char}
    (h : rest.head?.any isWordPart = false) :
    scan (spacedWords ks ++ rest) = prepend (ks.map keyword) (scan rest) := by
  induction ks with
  | nil => exact (prepend_nil _).symm
  | cons k ks ih =>
    have hhead : (spacedWords ks ++ rest).head?.any isWordPart = false := by
      cases ks with
      | nil => exact h
      | cons k' ks => exact (by decide : isWordPart ' ' = false)
    have happ :
        spacedWords (k :: ks) ++ rest = ' ' :: (k.word.toList ++ (spacedWords ks ++ rest)) := by
      rw [spacedWords, List.flatMap_cons, ← spacedWords, List.append_assoc]
      rfl
    rw [happ, scan_space (by decide), scan_keyword k hhead, ih, ← prepend_append]
    rfl

theorem any_head?_respelled_space (text : List Char) :
    (respelled (' ' :: text)).head?.any isWordPart = false :=
  any_head?_respelled (by decide) (by decide) (fun _ => by decide)
    (by exact (by decide : isWordPart ' ' = false))

theorem scan_negation (h : text.head? ≠ some '=') :
    scan (respelled ('!' :: text)) = prepend [keyword .not] (scan (respelled text)) := by
  rw [respelled_negation h]
  exact (scan_spacedWords [.not] (any_head?_respelled_space text)).trans
    (congrArg _ (scan_respelled_space text))

theorem scan_and (text : List Char) :
    scan (respelled ('&' :: '&' :: text)) = prepend [keyword .and] (scan (respelled text)) := by
  rw [respelled_and]
  exact (scan_spacedWords [.and] (any_head?_respelled_space text)).trans
    (congrArg _ (scan_respelled_space text))

theorem scan_or (text : List Char) :
    scan (respelled ('|' :: '|' :: text)) = prepend [keyword .or] (scan (respelled text)) := by
  rw [respelled_or]
  exact (scan_spacedWords [.or] (any_head?_respelled_space text)).trans
    (congrArg _ (scan_respelled_space text))

def equality? : List Char → Option (Lexeme × List Lexeme)
  | ['='] => some (comparison .eq, [keyword .is, keyword .null])
  | ['=', '='] => some (comparison .eq, [keyword .is, keyword .null])
  | ['!', '='] => some (comparison .ne, [keyword .is, keyword .not, keyword .null])
  | ['<', '>'] => some (comparison .ne, [keyword .is, keyword .not, keyword .null])
  | ['<', '='] => some (comparison .le, [comparison .lt, keyword .is, keyword .null])
  | ['>', '='] => some (comparison .ge, [comparison .gt, keyword .is, keyword .null])
  | _ => none

variable {rest : List Char}

theorem afterEqual_null (h : afterSpacedNull? text = some rest) :
    afterEqual text = spacedWords [.is, .null] ++ respelled (' ' :: rest) := by
  rw [afterEqual, h]
  rfl

theorem afterUnequal_null (h : afterSpacedNull? text = some rest) :
    afterUnequal text = spacedWords [.is, .not, .null] ++ respelled (' ' :: rest) := by
  rw [afterUnequal, h]
  rfl

theorem scan_test (ks : List Keyword) (rest : List Char) :
    scan (spacedWords ks ++ respelled (' ' :: rest)) =
      prepend (ks.map keyword) (scan (respelled rest)) := by
  rw [scan_spacedWords ks (any_head?_respelled_space rest)]
  exact congrArg _ (scan_respelled_space rest)

/-- An equality with plain spaces and the word for nothing behind it is read as a test. -/
theorem scan_equality_null {op : List Char} {plain : Lexeme} {test : List Lexeme}
    (hop : equality? op = some (plain, test)) (h : afterSpacedNull? text = some rest) :
    scan (respelled (op ++ text)) = prepend test (scan (respelled rest)) := by
  have hequal : text.head? ≠ some '=' := by
    rintro heq
    cases text with
    | nil => cases heq
    | cons c text =>
      cases heq
      cases h
  have htest (tail : List Char) :
      (spacedWords [.is, .null] ++ tail).head? ≠ some '>' ∧
        (spacedWords [.is, .null] ++ tail).head? ≠ some '=' :=
    ⟨(by simp [spacedWords]), (by simp [spacedWords])⟩
  unfold equality? at hop
  split at hop <;> cases hop
  · exact (congrArg scan ((respelled_equal hequal).trans (afterEqual_null h))).trans
      (scan_test [.is, .null] rest)
  · exact (congrArg scan ((respelled_double_equal text).trans (afterEqual_null h))).trans
      (scan_test [.is, .null] rest)
  · exact (congrArg scan ((respelled_not_equal text).trans (afterUnequal_null h))).trans
      (scan_test [.is, .not, .null] rest)
  · exact (congrArg scan ((respelled_unequal text).trans (afterUnequal_null h))).trans
      (scan_test [.is, .not, .null] rest)
  · show scan (respelled ('<' :: '=' :: text)) = _
    rw [respelled_less (by simp), respelled_equal hequal, afterEqual_null h,
      scan_sign (by decide) (by decide) (symbol?_less (htest _).1 (htest _).2), scan_test]
    exact (prepend_append [comparison .lt] _ _).symm
  · show scan (respelled ('>' :: '=' :: text)) = _
    rw [respelled_pass (by decide), respelled_equal hequal, afterEqual_null h,
      scan_sign (by decide) (by decide) (symbol?_greater (htest _).2), scan_test]
    exact (prepend_append [comparison .gt] _ _).symm

def runOn : List (List Char) := [['='], ['<', '='], ['>', '=']]

/-- Any other equality is read as the sign of the grammar, if it runs together with nothing. -/
theorem scan_equality {op : List Char} {plain : Lexeme} {test : List Lexeme}
    (hop : equality? op = some (plain, test))
    (hseam : op ∈ runOn → text.head? ≠ some '=') (h : afterSpacedNull? text = none) :
    scan (respelled (op ++ text)) = prepend [plain] (scan (respelled text)) := by
  have hequal : afterEqual text = '=' :: respelled text := by rw [afterEqual, h]
  have hunequal : afterUnequal text = '<' :: '>' :: respelled text := by rw [afterUnequal, h]
  have scan_eq : scan ('=' :: respelled text) = prepend [comparison .eq] (scan (respelled text)) :=
    scan_sign (by decide) (by decide) rfl
  have scan_ne : scan ('<' :: '>' :: respelled text) =
      prepend [comparison .ne] (scan (respelled text)) :=
    scan_sign (by decide) (by decide) rfl
  unfold equality? at hop
  split at hop <;> cases hop
  · exact (congrArg scan ((respelled_equal (hseam (by decide))).trans hequal)).trans scan_eq
  · exact (congrArg scan ((respelled_double_equal text).trans hequal)).trans scan_eq
  · exact (congrArg scan ((respelled_not_equal text).trans hunequal)).trans scan_ne
  · exact (congrArg scan ((respelled_unequal text).trans hunequal)).trans scan_ne
  · show scan (respelled ('<' :: '=' :: text)) = _
    rw [respelled_less (by simp), respelled_equal (hseam (by decide)), hequal]
    exact scan_sign (by decide) (by decide) rfl
  · show scan (respelled ('>' :: '=' :: text)) = _
    rw [respelled_pass (by decide), respelled_equal (hseam (by decide)), hequal]
    exact scan_sign (by decide) (by decide) rfl

end

end RuleCheck.Authored
