import RuleCheck.Proofs.Authored.Checked
import RuleCheck.Proofs.Authored.Untouched
import RuleCheck.Proofs.Expr.Verdict

/-!
# Expressions as rules

An expression can be written as a rule in the style of programming languages: with the signs
`==`, `!=`, `!`, `&&` and `||`, the word `null` in small letters, and every operation that is
an operand in parentheses. Such a rule is respelled and read as the expression again, up to
the positions of members, where an equality with nothing becomes the test for nothing.
-/

set_option autoImplicit false

namespace RuleCheck

open Text Authored

namespace Expr

def comparisonSpelling : Comparison → List Char
  | .eq => ['=', '=']
  | .ne => ['!', '=']
  | .lt => ['<']
  | .gt => ['>']
  | .le => ['<', '=']
  | .ge => ['>', '=']

def arithmeticSpelling : Arithmetic → Char
  | .add => '+'
  | .sub => '-'
  | .mul => '*'
  | .div => '/'
  | .rem => '%'

def signSpelling : Sign → Char
  | .minus => '-'
  | .plus => '+'

def literalSpelling : Value → List Char
  | .null => nullWord
  | .bool true => Keyword.true.word.toList
  | .bool false => Keyword.false.word.toList
  | .int n => Nat.toDigits 10 n.toNat
  | .text s => '\'' :: Lexeme.doubled s.toList ++ ['\'']
  | _ => []

def operandText : Expr → List Char → List Char
  | member _ _, cs => cs
  | literal _, cs => cs
  | foreign _, cs => cs
  | _, cs => '(' :: cs ++ [')']

def between (left op right : List Char) : List Char := left ++ ' ' :: (op ++ ' ' :: right)

def authored : Expr → List Char
  | member name _ => name.toList
  | literal v => literalSpelling v
  | sign op x => signSpelling op :: x.operandText x.authored
  | compute op x y =>
    between (x.operandText x.authored) [arithmeticSpelling op] (y.operandText y.authored)
  | compare op x y =>
    between (x.operandText x.authored) (comparisonSpelling op) (y.operandText y.authored)
  | isNull negated x =>
    between (x.operandText x.authored) (comparisonSpelling (if negated then .ne else .eq)) nullWord
  | not x => '!' :: x.operandText x.authored
  | and x y => between (x.operandText x.authored) ['&', '&'] (y.operandText y.authored)
  | or x y => between (x.operandText x.authored) ['|', '|'] (y.operandText y.authored)
  | foreign _ => []

def operand (e : Expr) : List Char := e.operandText e.authored

def tested : Expr → Expr
  | compare .eq x (literal .null) => isNull false x.tested
  | compare .ne x (literal .null) => isNull true x.tested
  | compare op x y => compare op x.tested y.tested
  | sign op x => sign op x.tested
  | compute op x y => compute op x.tested y.tested
  | isNull negated x => isNull negated x.tested
  | not x => not x.tested
  | and x y => and x.tested y.tested
  | or x y => or x.tested y.tested
  | e => e

end Expr

structure PlainName (name : List Char) : Prop where
  start : name.head?.any (fun c => c.isAlpha || c == '_') = true
  parts : ∀ c ∈ name, (c.isAlphanum || c == '_') = true
  notKeyword : Keyword.ofWord? (String.ofList name) = none
  notNull : containsNull name = false

theorem PlainName.exists_cons {name : List Char} (h : PlainName name) :
    ∃ c cs, name = c :: cs ∧ (c.isAlpha || c == '_') = true := by
  have hstart := h.start
  cases name with
  | nil => cases hstart
  | cons c cs => exact ⟨c, cs, rfl, hstart⟩

namespace Expr

inductive Authorable : Expr → Prop
  | member {name : String} {position : Nat} (hname : PlainName name.toList) :
      Authorable (member name position)
  | null : Authorable (literal .null)
  | bool (b : Bool) : Authorable (literal (.bool b))
  | int {n : Nat} (hn : (Nat.toDigits 10 n).length ≤ Number.maxDigits) :
      Authorable (literal (.int n))
  | text {s : String} (hs : Untouched s.toList) : Authorable (literal (.text s))
  | sign (op : Sign) {x : Expr} (hx : Authorable x) : Authorable (sign op x)
  | compute (op : Arithmetic) {x y : Expr} (hx : Authorable x) (hy : Authorable y) :
      Authorable (compute op x y)
  | compare {op : Comparison} {x y : Expr} (hnull : op ∈ [.eq, .ne] ∨ y ≠ literal .null)
      (hx : Authorable x) (hy : Authorable y) : Authorable (compare op x y)
  | isNull (negated : Bool) {x : Expr} (hx : Authorable x) : Authorable (isNull negated x)
  | not {x : Expr} (hx : Authorable x) : Authorable (not x)
  | and {x y : Expr} (hx : Authorable x) (hy : Authorable y) : Authorable (and x y)
  | or {x y : Expr} (hx : Authorable x) (hy : Authorable y) : Authorable (or x y)

end Expr

namespace Authored

open Lexeme

def Closes (text : List Char) : Prop := ∀ c ∈ text.head?, c = ' ' ∨ c = ')'

theorem closes_nil : Closes [] := fun _ h => by cases h

theorem closes_space (text : List Char) : Closes (' ' :: text) := fun _ h => by
  cases h
  exact .inl rfl

theorem closes_closing (text : List Char) : Closes (')' :: text) := fun _ h => by
  cases h
  exact .inr rfl

theorem Closes.any_head? {text : List Char} (h : Closes text) {p : Char → Bool}
    (hspace : p ' ' = false) (hclosing : p ')' = false) : text.head?.any p = false := by
  cases text with
  | nil => rfl
  | cons c text =>
    rcases h c rfl with rfl | rfl
    · exact hspace
    · exact hclosing

def Reads (n : Nat) (cs : List Char) (e : Expr) : Prop :=
  ∃ ls, Spells n ls e ∧ ∀ text, Closes text →
    scan (respelled (cs ++ text)) = prepend ls (scan (respelled text))

namespace Reads

variable {n : Nat} {cs ds : List Char} {x y : Expr}

theorem loosen {m : Nat} (hmn : m ≤ n) (h : Reads n cs x) : Reads m cs x := by
  obtain ⟨ls, hls, hscan⟩ := h
  exact ⟨ls, hls.loosen hmn, hscan⟩

theorem paren (hn : 1 ≤ n) (h : Reads n cs x) : Reads 9 ('(' :: cs ++ [')']) x := by
  obtain ⟨ls, hls, hscan⟩ := h
  have hspells : Spells 9 (.opening :: ls ++ [.closing]) x :=
    (hls.loosen hn).enclosed (by decide) (Nat.le_refl 9)
  refine ⟨_, hspells, fun text _ => ?_⟩
  rw [List.cons_append, List.cons_append, List.append_assoc, List.cons_append, List.nil_append,
    scan_plain_sign (by decide) rfl, hscan _ (closes_closing text),
    scan_plain_sign (by decide) rfl, ← prepend_append, ← prepend_append]
  rfl

theorem between {op : List Char} {l : Lexeme} {f : Expr → Expr → Expr}
    (hspells : ∀ {ls rs}, Spells 9 ls x → Spells 9 rs y → Spells n (ls ++ l :: rs) (f x y))
    (hop : ∀ text, Closes text → scan (respelled (op ++ ' ' :: (ds ++ text))) =
      prepend [l] (scan (respelled (' ' :: (ds ++ text)))))
    (hx : Reads 9 cs x) (hy : Reads 9 ds y) : Reads n (Expr.between cs op ds) (f x y) := by
  obtain ⟨ls, hls, hx⟩ := hx
  obtain ⟨rs, hrs, hy⟩ := hy
  refine ⟨ls ++ l :: rs, hspells hls hrs, fun text htext => ?_⟩
  rw [Expr.between, List.append_assoc, List.cons_append, List.append_assoc, List.cons_append,
    hx _ (closes_space _), scan_respelled_space, hop text htext, scan_respelled_space,
    hy text htext, ← prepend_append, ← prepend_append]
  simp

theorem join {op : List Char} {l : Lexeme} {f : Expr → Expr → Expr} (hl : Joins l n f)
    (hop : ∀ text, scan (respelled (op ++ text)) = prepend [l] (scan (respelled text)))
    (hx : Reads 9 cs x) (hy : Reads 9 ds y) : Reads n (Expr.between cs op ds) (f x y) := by
  have hlevel := hl.level
  exact between (fun hls hrs => .join hl (hls.loosen (by omega)) (hrs.loosen (by omega)))
    (fun _ _ => hop _) hx hy

theorem compute (op : Arithmetic) (hx : Reads 9 cs x) (hy : Reads 9 ds y) :
    Reads 1 (Expr.between cs [Expr.arithmeticSpelling op] ds) (.compute op x y) := by
  have hjoin {n : Nat} {c : Char} {l : Lexeme} (hl : Joins l n (Expr.compute op))
      (hc : c ∈ ['+', '-', '*', '/', '%', '(', ')']) (hsign : sign? c = some l) :
      Reads 1 (Expr.between cs [c] ds) (.compute op x y) := by
    have hop (text : List Char) :
        scan (respelled ([c] ++ text)) = prepend [l] (scan (respelled text)) :=
      scan_plain_sign hc hsign
    have hlevel := hl.level
    exact (Reads.join hl hop hx hy).loosen (by omega)
  cases op with
  | add => exact hjoin .add (by decide) rfl
  | sub => exact hjoin .sub (by decide) rfl
  | mul => exact hjoin .mul (by decide) rfl
  | div => exact hjoin .div (by decide) rfl
  | rem => exact hjoin .rem (by decide) rfl

theorem compare (op : Comparison) (hx : Reads 9 cs x) (hy : Reads 9 ds y)
    (hnull : ∀ text, Closes text → afterSpacedNull? (' ' :: (ds ++ text)) = none) :
    Reads 4 (Expr.between cs (Expr.comparisonSpelling op) ds) (.compare op x y) := by
  refine between (fun hls hrs => .compare op (hls.loosen (by decide)) (hrs.loosen (by decide)))
    (fun text htext => ?_) hx hy
  have hequal : (' ' :: (ds ++ text)).head? ≠ some '=' := by simp
  have hgreater : (' ' :: (ds ++ text)).head? ≠ some '>' := by simp
  cases op with
  | eq => exact scan_equality rfl (fun _ => hequal) (hnull text htext)
  | ne => exact scan_equality rfl (fun _ => hequal) (hnull text htext)
  | lt => exact scan_less hgreater hequal
  | gt => exact scan_greater hequal
  | le => exact scan_equality rfl (fun _ => hequal) (hnull text htext)
  | ge => exact scan_equality rfl (fun _ => hequal) (hnull text htext)

theorem test (negated : Bool) (hx : Reads 9 cs x) :
    Reads 4 (Expr.between cs (Expr.comparisonSpelling (if negated then .ne else .eq)) nullWord)
      (.isNull negated x) := by
  obtain ⟨ls, hls, hx⟩ := hx
  have hls := hls.loosen (by decide : 5 ≤ 9)
  have hscan {op : List Char} {plain : Lexeme} {test : List Lexeme} (text : List Char)
      (hop : equality? op = some (plain, test)) :
      scan (respelled (Expr.between cs op nullWord ++ text)) =
        prepend (ls ++ test) (scan (respelled text)) := by
    have hnull : afterSpacedNull? (' ' :: (nullWord ++ text)) = some text :=
      afterNull?_nullWord text
    rw [Expr.between, List.append_assoc, List.cons_append, List.append_assoc, List.cons_append,
      hx _ (closes_space _), scan_respelled_space, scan_equality_null hop hnull, ← prepend_append]
  cases negated with
  | false => exact ⟨_, .isNull hls, fun text _ => hscan text rfl⟩
  | true => exact ⟨_, .isNotNull hls, fun text _ => hscan text rfl⟩

theorem sign (op : Sign) (hx : Reads 9 cs x) :
    Reads 8 (Expr.signSpelling op :: cs) (.sign op x) := by
  obtain ⟨ls, hls, hx⟩ := hx
  refine ⟨_, .sign op (hls.loosen (by decide)), fun text htext => ?_⟩
  rw [List.cons_append]
  cases op with
  | minus =>
    rw [Expr.signSpelling, scan_plain_sign (by decide) rfl, hx text htext, ← prepend_append]
    rfl
  | plus =>
    rw [Expr.signSpelling, scan_plain_sign (by decide) rfl, hx text htext, ← prepend_append]
    rfl

theorem not (hequal : ∀ text, (cs ++ text).head? ≠ some '=') (hx : Reads 9 cs x) :
    Reads 3 ('!' :: cs) (.not x) := by
  obtain ⟨ls, hls, hx⟩ := hx
  refine ⟨_, .not (hls.loosen (by decide)), fun text htext => ?_⟩
  rw [List.cons_append, scan_negation (hequal text), hx text htext, ← prepend_append]
  rfl

end Reads

theorem toNat_lt_of_plain {c : Char} (h : (c.isAlphanum || c == '_') = true) : c.toNat < 128 := by
  rw [Bool.or_eq_true, beq_iff_eq, Char.isAlphanum, Bool.or_eq_true] at h
  rcases h with (halpha | hdigit) | rfl
  · rcases Bool.or_eq_true_iff.1 halpha with hupper | hlower
    · have hle : c.toNat ≤ 90 := (of_decide_eq_true hupper).2
      omega
    · have hle : c.toNat ≤ 122 := of_decide_eq_true (Bool.and_eq_true_iff.1 hlower).2
      omega
  · have hle : c.toNat ≤ 57 := of_decide_eq_true (Bool.and_eq_true_iff.1 hdigit).2
    omega
  · decide

theorem isWordPart_of_plain {c : Char} (h : (c.isAlphanum || c == '_') = true) :
    isWordPart c = true := by
  have htable : ∀ n < 128, ((Char.ofNat n).isAlphanum || Char.ofNat n == '_') = true →
      isWordPart (Char.ofNat n) = true := by decide
  have hc := htable c.toNat (toNat_lt_of_plain h)
  rw [Char.ofNat_toNat] at hc
  exact hc h

theorem beginsWord_of_plain {c : Char} (h : (c.isAlpha || c == '_') = true) : BeginsWord c := by
  have htable : ∀ n < 128, ((Char.ofNat n).isAlpha || Char.ofNat n == '_') = true →
      BeginsWord (Char.ofNat n) := by decide
  have hlt : c.toNat < 128 := by
    refine toNat_lt_of_plain ?_
    rw [Bool.or_eq_true] at h
    rw [Char.isAlphanum, Bool.or_eq_true, Bool.or_eq_true]
    exact h.imp .inl id
  have hc := htable c.toNat hlt
  rw [Char.ofNat_toNat] at hc
  exact hc h

section

variable {text : List Char}

theorem respelled_word {cs : List Char} (hparts : ∀ c ∈ cs, isWordPart c = true)
    (hnull : containsNull cs = false) : respelled cs = cs := by
  rw [respelled_eq_capitalNulls fun c hc => isWordPart_sign (hparts c hc), capitalNulls,
    replaceWith_of_absent fun t => absent_of_containsNull hnull]

/-- A word of plain letters, digits and low lines is read as the member that it is respelled
as, if that is no keyword. -/
theorem reads_word {cs : List Char} (position : Nat)
    (hstart : cs.head?.any (fun c => c.isAlpha || c == '_') = true)
    (hparts : ∀ c ∈ cs, (c.isAlphanum || c == '_') = true)
    (hkeyword : Keyword.ofWord? (String.ofList (respelled cs)) = none) :
    Reads 9 cs (.member (String.ofList (respelled cs)) position) := by
  cases cs with
  | nil => cases hstart
  | cons c cs =>
    refine ⟨[.name _], .atom fun t ht => ⟨_, .member ht, rfl⟩, fun text htext => ?_⟩
    have hcs : ∀ d ∈ cs, isWordPart d = true :=
      fun d hd => isWordPart_of_plain (hparts d (List.mem_cons_of_mem c hd))
    rw [scan_word (beginsWord_of_plain hstart) hcs (htext.any_head? (by decide) (by decide)),
      ofWord, hkeyword]

theorem reads_member {name : String} {position : Nat} (hname : PlainName name.toList) :
    Reads 9 name.toList (.member name position) := by
  have hrespelled : respelled name.toList = name.toList :=
    respelled_word (fun c hc => isWordPart_of_plain (hname.parts c hc)) hname.notNull
  have hkeyword : Keyword.ofWord? (String.ofList (respelled name.toList)) = none := by
    rw [hrespelled]
    exact hname.notKeyword
  have hreads := reads_word position hname.start hname.parts hkeyword
  rwa [hrespelled, String.ofList_toList] at hreads

theorem reads_null : Reads 9 nullWord (.literal .null) := by
  refine ⟨[.keyword .null], .atom fun t ht => ⟨_, .null ht, rfl⟩, fun text htext => ?_⟩
  exact scan_null (htext.any_head? (by decide) (by decide))

theorem reads_keyword {k : Keyword} {e : Expr} (hspells : Spells 9 [.keyword k] e)
    (hparts : ∀ c ∈ k.word.toList, isWordPart c = true)
    (hnull : containsNull k.word.toList = false) : Reads 9 k.word.toList e := by
  refine ⟨_, hspells, fun text htext => ?_⟩
  have hcontinues : text.head?.any continuesNull = false := htext.any_head? (by decide) (by decide)
  have hhead : (respelled text).head?.any isWordPart = false :=
    any_head?_respelled (by decide) (by decide) (fun _ => by decide)
      (htext.any_head? (by decide) (by decide))
  rw [respelled_plain_append (fun c hc => isWordPart_sign (hparts c hc)) hcontinues,
    respelled_word hparts hnull, scan_keyword k hhead]

theorem reads_bool (b : Bool) : Reads 9 (Expr.literalSpelling (.bool b)) (.literal (.bool b)) := by
  cases b with
  | true =>
    exact reads_keyword (k := .true) (.atom fun t ht => ⟨_, .true ht, rfl⟩) (by decide)
      (by decide)
  | false =>
    exact reads_keyword (k := .false) (.atom fun t ht => ⟨_, .false ht, rfl⟩) (by decide)
      (by decide)

theorem scan_toDigits (n : Nat) (htext : Closes text) :
    scan (respelled (Nat.toDigits 10 n ++ text)) =
      prepend [.number (String.ofList (Nat.toDigits 10 n))] (scan (respelled text)) := by
  obtain ⟨c, cs, hds, hplain⟩ := Number.exists_toDigits n
  have hc := hplain c List.mem_cons_self
  rw [hds]
  refine scan_number ?_ (numeral_digits (fun d hd => (hplain d hd).digit)
    (htext.any_head? (by decide) (by decide)))
  rw [List.cons_append, startsNumber_cons hc.ne_point, hc.digit]

theorem reads_int {n : Nat} (hn : (Nat.toDigits 10 n).length ≤ Number.maxDigits) :
    Reads 9 (Nat.toDigits 10 n) (.literal (.int n)) :=
  ⟨_, .atom fun _ ht => ⟨_, .number ht (Reading.numberValue?_toDigits hn), rfl⟩,
    fun _ htext => scan_toDigits n htext⟩

theorem reads_text {s : String} (hs : Untouched s.toList) :
    Reads 9 (Expr.literalSpelling (.text s)) (.literal (.text s)) := by
  refine ⟨[.text s], .atom fun t ht => ⟨_, .text ht, rfl⟩, fun text htext => ?_⟩
  have hquote : text.head? ≠ some '\'' :=
    any_head?_eq_false.1 (htext.any_head? (by decide) (by decide))
  rw [Expr.literalSpelling, scan_text s.toList hquote, hs.respelled_eq, String.ofList_toList]

/-- An operand begins neither with a space nor with a sign of equality. -/
theorem operand_front {e : Expr} (he : e.Authorable) :
    ∃ c cs, e.operand = c :: cs ∧ c ≠ ' ' ∧ c ≠ '=' := by
  have paren (cs : List Char) : ∃ c ds, '(' :: cs ++ [')'] = c :: ds ∧ c ≠ ' ' ∧ c ≠ '=' :=
    ⟨'(', cs ++ [')'], rfl, by decide, by decide⟩
  cases he with
  | @member name _ hname =>
    obtain ⟨c, cs, hcs, hstart⟩ := hname.exists_cons
    refine ⟨c, cs, hcs, ?_, ?_⟩
    all_goals
      rintro rfl
      exact absurd hstart (by decide)
  | null => exact ⟨'n', ['u', 'l', 'l'], rfl, by decide, by decide⟩
  | bool b => cases b <;> exact ⟨_, _, rfl, by decide, by decide⟩
  | @int n _ =>
    obtain ⟨c, cs, hds, hplain⟩ := Number.exists_toDigits n
    have hdigit := (hplain c List.mem_cons_self).digit
    refine ⟨c, cs, hds, ?_, ?_⟩
    all_goals
      rintro rfl
      exact absurd hdigit (by decide)
  | text => exact ⟨_, _, rfl, by decide, by decide⟩
  | sign => exact paren _
  | compute => exact paren _
  | compare => exact paren _
  | isNull => exact paren _
  | not => exact paren _
  | and => exact paren _
  | or => exact paren _

/-- No operand but the literal itself begins with the word for nothing. -/
theorem afterNull?_operand {e : Expr} (he : e.Authorable) (hnull : e ≠ .literal .null)
    (htext : Closes text) : afterNull? (e.operand ++ text) = none := by
  have plain {c : Char} {cs : List Char} (hc : c ≠ 'n' ∧ c ≠ 'N') : afterNull? (c :: cs) = none :=
    afterNull?_of_head (by exact sameLetter_eq_false (by decide) hc)
  cases he with
  | @member name _ hname =>
    show afterNull? (name.toList ++ text) = none
    rw [afterNull?_append (htext.any_head? (by decide) (by decide)),
      absent_of_containsNull hname.notNull List.suffix_rfl]
    rfl
  | null => exact absurd rfl hnull
  | bool b => cases b <;> exact plain (by decide)
  | @int n _ =>
    show afterNull? (Nat.toDigits 10 n ++ text) = none
    obtain ⟨c, cs, hds, hplain⟩ := Number.exists_toDigits n
    have hdigit := (hplain c List.mem_cons_self).digit
    rw [hds]
    refine plain ⟨?_, ?_⟩
    all_goals
      rintro rfl
      exact absurd hdigit (by decide)
  | text => exact plain (by decide)
  | sign => exact plain (by decide)
  | compute => exact plain (by decide)
  | compare => exact plain (by decide)
  | isNull => exact plain (by decide)
  | not => exact plain (by decide)
  | and => exact plain (by decide)
  | or => exact plain (by decide)

theorem afterSpacedNull?_operand {e : Expr} (he : e.Authorable) (hnull : e ≠ .literal .null)
    (htext : Closes text) : afterSpacedNull? (' ' :: (e.operand ++ text)) = none := by
  obtain ⟨c, cs, hcs, hspace, -⟩ := operand_front he
  have hnone := afterNull?_operand he hnull htext
  rw [hcs, List.cons_append] at hnone ⊢
  show afterNull? ((c :: (cs ++ text)).dropWhile (· == ' ')) = none
  rwa [List.dropWhile_cons_of_neg (by simpa using hspace)]

end

theorem tested_compare {op : Comparison} {x y : Expr} (h : y ≠ .literal .null) :
    (Expr.compare op x y).tested = .compare op x.tested y.tested := by
  rw [Expr.tested]
  · exact fun _ hy => h hy
  · exact fun _ hy => h hy

/-- The text of an expression is read as the expression, by itself and as an operand. -/
theorem reads_authored {e : Expr} (he : e.Authorable) :
    Reads 1 e.authored e.tested ∧ Reads 9 e.operand e.tested := by
  have atom {cs : List Char} {x : Expr} (h : Reads 9 cs x) : Reads 1 cs x ∧ Reads 9 cs x :=
    ⟨h.loosen (by decide), h⟩
  have operation {n : Nat} {cs : List Char} {x : Expr} (hn : 1 ≤ n) (h : Reads n cs x) :
      Reads 1 cs x ∧ Reads 9 ('(' :: cs ++ [')']) x := ⟨h.loosen hn, h.paren hn⟩
  induction he with
  | member hname => exact atom (reads_member hname)
  | null => exact atom reads_null
  | bool b => exact atom (reads_bool b)
  | int hn => exact atom (reads_int hn)
  | text hs => exact atom (reads_text hs)
  | sign op _ ih => exact operation (by decide) (Reads.sign op ih.2)
  | compute op _ _ ihx ihy => exact operation (by decide) (Reads.compute op ihx.2 ihy.2)
  | @compare op x y hnull _ hy ihx ihy =>
    by_cases hliteral : y = .literal .null
    · subst hliteral
      cases op with
      | eq => exact operation (by decide) (Reads.test false ihx.2)
      | ne => exact operation (by decide) (Reads.test true ihx.2)
      | lt => exact absurd hnull (by simp)
      | gt => exact absurd hnull (by simp)
      | le => exact absurd hnull (by simp)
      | ge => exact absurd hnull (by simp)
    · rw [tested_compare hliteral]
      exact operation (by decide) (Reads.compare op ihx.2 ihy.2 fun text htext =>
        afterSpacedNull?_operand hy hliteral htext)
  | isNull negated _ ih => exact operation (by decide) (Reads.test negated ih.2)
  | @not x hx ih =>
    obtain ⟨c, cs, hcs, -, hequal⟩ := operand_front hx
    have hhead (text : List Char) : (x.operand ++ text).head? ≠ some '=' := by
      rw [hcs]
      exact fun h => hequal (Option.some.inj h)
    exact operation (by decide) (Reads.not hhead ih.2)
  | and _ _ ihx ihy => exact operation (by decide) (Reads.join .and scan_and ihx.2 ihy.2)
  | or _ _ ihx ihy => exact operation (by decide) (Reads.join .or scan_or ihx.2 ihy.2)

def Unmarked (cs : List Char) : Prop :=
  ∀ text, contains placeholder (cs ++ text) = contains placeholder text

namespace Unmarked

variable {cs ds : List Char}

theorem of_not_mem (h : '{' ∉ cs) : Unmarked cs := by
  have hne : ∀ c ∈ cs, c ≠ '{' := by
    rintro c hc rfl
    exact h hc
  exact contains_pass_all hne

theorem append (hcs : Unmarked cs) (hds : Unmarked ds) : Unmarked (cs ++ ds) := fun text => by
  rw [List.append_assoc, hcs, hds]

theorem cons {c : Char} (hc : c ≠ '{') (hcs : Unmarked cs) : Unmarked (c :: cs) := fun text => by
  rw [List.cons_append, placeholder, contains_pass hc]
  exact hcs text

theorem paren (hcs : Unmarked cs) : Unmarked ('(' :: cs ++ [')']) :=
  (hcs.cons (by decide)).append (of_not_mem (by decide))

theorem between {op : List Char} (hcs : Unmarked cs) (hop : '{' ∉ op) (hds : Unmarked ds) :
    Unmarked (Expr.between cs op ds) :=
  hcs.append (.cons (by decide) ((of_not_mem hop).append (.cons (by decide) hds)))

end Unmarked

theorem unmarked_toDigits (n : Nat) : Unmarked (Nat.toDigits 10 n) := by
  refine .of_not_mem fun hmem => ?_
  have hbrace : Number.Plain '{' := Number.plain_of_mem_toDigits hmem
  exact absurd hbrace.digit (by decide)

theorem unmarked_authored {e : Expr} (he : e.Authorable) :
    Unmarked e.authored ∧ Unmarked e.operand := by
  have atom {cs : List Char} (h : Unmarked cs) : Unmarked cs ∧ Unmarked cs := ⟨h, h⟩
  have operation {cs : List Char} (h : Unmarked cs) :
      Unmarked cs ∧ Unmarked ('(' :: cs ++ [')']) := ⟨h, h.paren⟩
  induction he with
  | member hname =>
    exact atom (.of_not_mem fun hmem => absurd (hname.parts _ hmem) (by decide))
  | null => exact atom (.of_not_mem (by decide))
  | bool b => cases b <;> exact atom (.of_not_mem (by decide))
  | @int n _ => exact atom (unmarked_toDigits n)
  | @text s hs =>
    have hquote : '\'' ∉ ['{', '0', '}'] := by decide
    refine atom fun text => ?_
    rw [Expr.authored, Expr.literalSpelling, List.append_assoc, List.cons_append, List.cons_append,
      List.nil_append, placeholder, contains_pass (by decide), contains_append_cons hquote,
      ← placeholder, contains_doubled, hs.unmarked, Bool.false_or]
  | sign op _ ih => cases op <;> exact operation (ih.2.cons (by decide))
  | compute op _ _ ihx ihy => cases op <;> exact operation (ihx.2.between (by decide) ihy.2)
  | @compare op _ _ _ _ _ ihx ihy =>
    cases op <;> exact operation (ihx.2.between (by decide) ihy.2)
  | isNull negated _ ih =>
    cases negated <;> exact operation (ih.2.between (by decide) (.of_not_mem (by decide)))
  | not _ ih => exact operation (ih.2.cons (by decide))
  | and _ _ ihx ihy => exact operation (ihx.2.between (by decide) ihy.2)
  | or _ _ ihx ihy => exact operation (ihx.2.between (by decide) ihy.2)

/-- What a rule is read as wherever it stands, it is read as by itself. -/
theorem exists_normalize {cs : List Char} {ls : List Lexeme}
    (hscan : ∀ text, Closes text →
      scan (respelled (cs ++ text)) = prepend ls (scan (respelled text)))
    (hcs : Unmarked cs) (member : Option String) :
    ∃ source, normalize (String.ofList cs) member = .ok source ∧ scan source.toList = .ok ls := by
  have hcontains := hcs []
  have hself := hscan [] closes_nil
  rw [List.append_nil] at hcontains hself
  refine ⟨_, normalize_of_not_contains hcontains, ?_⟩
  rw [String.toList_ofList, scan_canonical, hself, respelled_nil, scan_nil]
  exact congrArg Except.ok (List.append_nil ls)

theorem Reads.exists_read {cs : List Char} {e : Expr} (h : Reads 1 cs e) (hcs : Unmarked cs)
    (member : Option String) :
    ∃ source x, normalize (String.ofList cs) member = .ok source ∧ Expr.read source = .ok x ∧
      x.unplaced = e.unplaced := by
  obtain ⟨ls, hspells, hscan⟩ := h
  obtain ⟨source, hsource, htokens⟩ := exists_normalize hscan hcs member
  obtain ⟨x, hx, hunplaced⟩ := Expr.exists_read_of_scan htokens hspells
  exact ⟨source, x, hsource, hx, hunplaced⟩

/-- A text that is read as an expression is a rule with the verdict on that expression. -/
theorem Reads.validate_eq [Things] {cs : List Char} {e : Expr} {st : Settings} {candidate : Candidate}
    {c : Check} {bindings : List Binding} {holds : Bool} (h : Reads 1 cs e) (hcs : Unmarked cs)
    (hblank : isBlank cs = false) (hbindings : candidate.bindings c.members = .ok bindings)
    (hverdict : e.verdict bindings st.keepCase = .ok holds) :
    validate (.ok st) candidate { c with expression := some (String.ofList cs) } =
      Check.conclude (.ok st) candidate c holds := by
  obtain ⟨ls, hspells, hscan⟩ := h
  have hcontains := hcs []
  have hself := hscan [] closes_nil
  rw [List.append_nil] at hcontains hself
  rw [respelled_nil, scan_nil, prepend, Except.map, List.append_nil] at hself
  obtain ⟨found, hfound, rfl⟩ := Expr.exists_evaluation hverdict
  exact validate_of_scan hblank hcontains hself hspells hbindings hfound

end Authored

namespace Expr

def rule (enclosed : Bool) (e : Expr) : String :=
  String.ofList (if enclosed then e.operand else e.authored)

/-- The rule of an expression is read as the expression, up to positions, where each equality
with nothing is the test for nothing. -/
theorem exists_read_rule {e : Expr} (he : e.Authorable) (enclosed : Bool) (member : Option String) :
    ∃ source x, normalize (e.rule enclosed) member = .ok source ∧ read source = .ok x ∧
      x.unplaced = e.tested.unplaced := by
  have hreads := reads_authored he
  have hunmarked := unmarked_authored he
  cases enclosed with
  | false => exact hreads.1.exists_read hunmarked.1 member
  | true => exact (hreads.2.loosen (by decide)).exists_read hunmarked.2 member

def ruleSample : Expr :=
  .or
    (.and (.compare .ne (.compute .add (.member "Stock" 0) (.literal (.int 10))) (.literal .null))
      (.not (.compare .eq (.member "Name" 0) (.literal (.text "it's")))))
    (.compare .le (.sign .minus (.member "_rate2" 0))
      (.compute .mul (.literal .null) (.literal (.int 7))))

example : ruleSample.rule false =
    "(((Stock + 10) != null) && (!(Name == 'it''s'))) || ((-_rate2) <= (null * 7))" := by
  decide

theorem exists_read_ruleSample :
    ruleSample.Authorable ∧ ∃ source x, normalize (ruleSample.rule false) none = .ok source ∧
      read source = .ok x ∧ x.unplaced = ruleSample.tested.unplaced := by
  have hname : ∀ name ∈ ["Stock", "Name", "_rate2"], PlainName name.toList := by
    have htable : ∀ name ∈ ["Stock", "Name", "_rate2"],
        name.toList.head?.any (fun c => c.isAlpha || c == '_') = true ∧
          (∀ c ∈ name.toList, (c.isAlphanum || c == '_') = true) ∧
          Keyword.ofWord? (String.ofList name.toList) = none ∧
          containsNull name.toList = false := by decide
    intro name hmem
    obtain ⟨hstart, hparts, hkeyword, hnull⟩ := htable name hmem
    exact ⟨hstart, hparts, hkeyword, hnull⟩
  have member {name : String} (hmem : name ∈ ["Stock", "Name", "_rate2"]) :
      Authorable (.member name 0) := .member (hname name hmem)
  have number {n : Nat} (hn : (Nat.toDigits 10 n).length ≤ Number.maxDigits) :
      Authorable (.literal (.int n)) := .int hn
  have htext : Untouched "it's".toList :=
    ⟨by decide, by decide, by decide, by decide, by decide, by decide, by decide⟩
  have hsample : ruleSample.Authorable :=
    .or
      (.and
        (.compare (.inl (by decide))
          (.compute .add (member (by decide)) (number (n := 10) (by decide))) .null)
        (.not (.compare (.inl (by decide)) (member (by decide)) (.text htext))))
      (.compare (.inr nofun) (.sign .minus (member (by decide)))
        (.compute .mul .null (number (n := 7) (by decide))))
  exact ⟨hsample, exists_read_rule hsample false none⟩

theorem read_of_long {n : Nat} (hn : Number.maxDigits < (Nat.toDigits 10 n).length)
    {source : String}
    (hscan : Lexeme.scan source.toList = .ok [.number (String.ofList (Nat.toDigits 10 n))]) :
    read source = .error .numeral := by
  have hvalue : Reading.numberValue? (String.ofList (Nat.toDigits 10 n)) = none := by
    rw [Reading.numberValue?_toDigits_eq, Number.readInt?_toDigits_eq, if_neg (Nat.not_le_of_lt hn)]
    rfl
  rcases Token.scan_cases 0 source.toList with ⟨ts, hts, hls⟩ | ⟨mistake, place, -, hls⟩
  · rw [hscan] at hls
    obtain ⟨t, us, rfl, ht, hus⟩ := List.map_eq_cons_iff.1 (Except.ok.inj hls).symm
    obtain rfl := List.map_eq_nil_iff.1 hus
    have hstep : (Reading.wanting []).step t = .error .numeral := by
      rw [Reading.step, Reading.wantOperand, ht]
      simp only [hvalue]
    rw [read, tokens, hts]
    show attaching source (Reading.run _ (.wanting []) [t]) = _
    rw [Reading.run, hstep]
    rfl
  · rw [hscan] at hls
    cases hls

theorem read_rule_of_long {n : Nat} (hn : Number.maxDigits < (Nat.toDigits 10 n).length)
    (member : Option String) :
    ∃ source, normalize ((literal (.int n)).rule false) member = .ok source ∧
      read source = .error .numeral := by
  obtain ⟨source, hsource, hscan⟩ :=
    exists_normalize (fun _ htext => scan_toDigits n htext) (unmarked_toDigits n) member
  exact ⟨source, hsource, read_of_long hn hscan⟩

theorem lt_length_toDigits_pow {k : Nat} (hk : 0 < k) :
    k < (Nat.toDigits 10 (Nat.pow 10 k)).length := by
  refine Nat.lt_of_not_le fun hlength => ?_
  rw [Nat.length_toDigits_le_iff (by decide) hk] at hlength
  exact Nat.lt_irrefl _ hlength

theorem read_rule_longNumber :
    ∃ source,
      normalize ((literal (.int (Nat.pow 10 Number.maxDigits))).rule false) none = .ok source ∧
      read source = .error .numeral :=
  read_rule_of_long (lt_length_toDigits_pow (by decide)) none

end Expr

end RuleCheck
