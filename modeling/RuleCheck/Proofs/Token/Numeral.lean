import RuleCheck.Token.Scan

/-!
# Changes that keep numerals

A numeral ends where a character follows that it cannot go on with. A change of the text that
keeps the characters of numerals and puts none in front of others therefore keeps every
numeral, and changes only what follows it.
-/

set_option autoImplicit false

namespace RuleCheck

open Text

namespace Lexeme

theorem front_of_head {p : Char → Bool} {cs : List Char} (h : cs.head?.any p = false) :
    front p cs = ([], cs) := by
  cases cs with
  | nil => rfl
  | cons c cs =>
    have hc : ¬p c = true := by simpa using h
    rw [front, List.takeWhile_cons_of_neg hc, List.dropWhile_cons_of_neg hc]

theorem any_head?_mono {p q : Char → Bool} {text : List Char} (hpq : ∀ c, p c = true → q c = true)
    (h : text.head?.any q = false) : text.head?.any p = false := by
  cases text with
  | nil => rfl
  | cons c text =>
    cases hp : p c with
    | false => exact hp
    | true => exact absurd (hpq c hp) (by simpa using h)

theorem front_append_of_head {p : Char → Bool} {cs r : List Char}
    (hcs : ∀ c ∈ cs, p c = true) (h : r.head?.any p = false) :
    front p (cs ++ r) = (cs, r) := by
  have hrest := front_of_head h
  rw [front, Prod.mk.injEq] at hrest ⊢
  rw [List.takeWhile_append_of_pos hcs, List.dropWhile_append_of_pos hcs, hrest.1, hrest.2,
    List.append_nil]
  exact ⟨rfl, rfl⟩

theorem front_of_all {p : Char → Bool} {cs : List Char} (hcs : ∀ c ∈ cs, p c = true) :
    front p cs = (cs, []) := by
  have h := front_append_of_head hcs (r := []) rfl
  rwa [List.append_nil] at h

theorem fraction_of_head {cs : List Char} (h : cs.head?.any (· == '.') = false) :
    fraction cs = ([], cs) := by
  unfold fraction
  split
  · simp at h
  · rfl

theorem exponentSign_of_head {cs : List Char}
    (h : cs.head?.any (fun c => c == '+' || c == '-') = false) :
    exponentSign cs = ([], cs) := by
  unfold exponentSign
  split
  · simp at h
  · simp at h
  · rfl

def isExponentLetter (c : Char) : Bool := c == 'e' || c == 'E'

theorem exponent_of_head {cs : List Char} (h : cs.head?.any isExponentLetter = false) :
    exponent cs = ([], cs) := by
  unfold exponent
  split
  · exact if_neg (by simpa [isExponentLetter] using h)
  · rfl

theorem startsNumber_of_head {cs : List Char} (h : cs.head?.any (· == '.') = false) :
    startsNumber cs = cs.head?.any isDigit := by
  unfold startsNumber
  split
  · simp at h
  · rfl
  · rfl

theorem startsNumber_cons {c : Char} (hc : c ≠ '.') (cs : List Char) :
    startsNumber (c :: cs) = isDigit c := startsNumber_of_head (beq_eq_false_iff_ne.2 hc)

theorem startsNumber_point (cs : List Char) :
    startsNumber ('.' :: cs) = cs.head?.any isDigit := by
  cases cs with
  | nil => decide
  | cons c cs => rfl

def inNumeral (c : Char) : Bool := isDigit c || ['.', 'e', 'E', '+', '-'].contains c

theorem inNumeral_of_mem {c : Char} (h : c ∈ ['.', 'e', 'E', '+', '-']) : inNumeral c = true := by
  rw [inNumeral, Bool.or_eq_true]
  exact .inr (List.contains_iff_mem.2 h)

theorem inNumeral_of_isDigit {c : Char} (h : isDigit c = true) : inNumeral c = true := by
  rw [inNumeral, h, Bool.true_or]

theorem inNumeral_of_isExponentLetter {c : Char} (h : isExponentLetter c = true) :
    inNumeral c = true := by
  rw [isExponentLetter, Bool.or_eq_true, beq_iff_eq, beq_iff_eq] at h
  exact inNumeral_of_mem (by rcases h with rfl | rfl <;> decide)

structure Steady (f : List Char → List Char) : Prop where
  pass : ∀ {c cs}, inNumeral c = true → f (c :: cs) = c :: f cs
  head : ∀ {cs}, cs.head?.any inNumeral = false → (f cs).head?.any inNumeral = false

namespace Steady

variable {f : List Char → List Char}

/-- What the first character is not, it does not become, for characters of numerals. -/
theorem any_head? (hf : Steady f) {p : Char → Bool} (hp : ∀ c, p c = true → inNumeral c = true)
    {cs : List Char} (h : cs.head?.any p = false) : (f cs).head?.any p = false := by
  cases hc : cs.head?.any inNumeral with
  | false =>
    have hhead := hf.head hc
    cases hfc : (f cs).head? with
    | none => rfl
    | some c =>
      rw [hfc] at hhead
      cases hpc : p c with
      | false => exact hpc
      | true => exact absurd (hp c hpc) (by simpa using hhead)
  | true =>
    cases cs with
    | nil => cases hc
    | cons c cs => rwa [hf.pass hc]

theorem front_digits (hf : Steady f) (cs : List Char) :
    front isDigit (f cs) = ((front isDigit cs).1, f (front isDigit cs).2) := by
  induction cs with
  | nil => exact front_of_head (hf.any_head? (fun _ => inNumeral_of_isDigit) rfl)
  | cons c cs ih =>
    by_cases hc : isDigit c = true
    · rw [hf.pass (inNumeral_of_isDigit hc)]
      rw [front, Prod.mk.injEq] at ih ⊢
      rw [front, List.takeWhile_cons_of_pos hc, List.dropWhile_cons_of_pos hc,
        List.takeWhile_cons_of_pos hc, List.dropWhile_cons_of_pos hc, ih.1, ih.2]
      exact ⟨rfl, rfl⟩
    · have hhead : (c :: cs).head?.any isDigit = false := by simpa using hc
      rw [front_of_head hhead]
      exact front_of_head (hf.any_head? (fun _ => inNumeral_of_isDigit) hhead)

theorem fraction (hf : Steady f) (cs : List Char) :
    Lexeme.fraction (f cs) = ((Lexeme.fraction cs).1, f (Lexeme.fraction cs).2) := by
  cases hhead : cs.head?.any (· == '.') with
  | false =>
    rw [fraction_of_head hhead]
    refine fraction_of_head (hf.any_head? (fun c hc => ?_) hhead)
    exact inNumeral_of_mem (by simp [beq_iff_eq.1 hc])
  | true =>
    cases cs with
    | nil => cases hhead
    | cons c cs =>
      obtain rfl : c = '.' := by simpa using hhead
      rw [hf.pass (inNumeral_of_mem (by decide))]
      simp only [Lexeme.fraction, hf.front_digits]

theorem exponentSign (hf : Steady f) (cs : List Char) :
    Lexeme.exponentSign (f cs) = ((Lexeme.exponentSign cs).1, f (Lexeme.exponentSign cs).2) := by
  cases hhead : cs.head?.any (fun c => c == '+' || c == '-') with
  | false =>
    rw [exponentSign_of_head hhead]
    refine exponentSign_of_head (hf.any_head? (fun c hc => ?_) hhead)
    rw [Bool.or_eq_true, beq_iff_eq, beq_iff_eq] at hc
    exact inNumeral_of_mem (by rcases hc with rfl | rfl <;> decide)
  | true =>
    cases cs with
    | nil => cases hhead
    | cons c cs =>
      have hc : c = '+' ∨ c = '-' := by simpa using hhead
      rcases hc with rfl | rfl
      · rw [hf.pass (inNumeral_of_mem (by decide))]
        rfl
      · rw [hf.pass (inNumeral_of_mem (by decide))]
        rfl

theorem exponent (hf : Steady f) (cs : List Char) :
    Lexeme.exponent (f cs) = ((Lexeme.exponent cs).1, f (Lexeme.exponent cs).2) := by
  cases hhead : cs.head?.any isExponentLetter with
  | false =>
    rw [exponent_of_head hhead]
    exact exponent_of_head (hf.any_head? (fun _ => inNumeral_of_isExponentLetter) hhead)
  | true =>
    cases cs with
    | nil => cases hhead
    | cons c cs =>
      have hc : isExponentLetter c = true := hhead
      rw [hf.pass (inNumeral_of_isExponentLetter hc)]
      rw [isExponentLetter] at hc
      simp only [Lexeme.exponent, hc, if_true, hf.exponentSign, hf.front_digits]
      rcases front isDigit (Lexeme.exponentSign cs).2 with ⟨digits, rest⟩
      cases digits with
      | nil => exact congrArg _ (hf.pass (inNumeral_of_isExponentLetter hc)).symm
      | cons d digits => rfl

/-- A steady change keeps every numeral, and changes what follows it. -/
theorem numeral (hf : Steady f) (cs : List Char) :
    Lexeme.numeral (f cs) = ((Lexeme.numeral cs).1, f (Lexeme.numeral cs).2) := by
  simp only [Lexeme.numeral, hf.front_digits, hf.fraction, hf.exponent]

theorem any_head?_digit (hf : Steady f) (cs : List Char) :
    (f cs).head?.any isDigit = cs.head?.any isDigit := by
  cases hhead : cs.head?.any isDigit with
  | false => exact hf.any_head? (fun _ => inNumeral_of_isDigit) hhead
  | true =>
    cases cs with
    | nil => cases hhead
    | cons c cs => rwa [hf.pass (inNumeral_of_isDigit hhead)]

theorem startsNumber (hf : Steady f) (cs : List Char) :
    Lexeme.startsNumber (f cs) = Lexeme.startsNumber cs := by
  cases hhead : cs.head?.any (· == '.') with
  | false =>
    have hpoint := hf.any_head? (fun c hc => inNumeral_of_mem (by simp [beq_iff_eq.1 hc])) hhead
    rw [startsNumber_of_head hpoint, startsNumber_of_head hhead, hf.any_head?_digit]
  | true =>
    cases cs with
    | nil => cases hhead
    | cons c cs =>
      obtain rfl : c = '.' := by simpa using hhead
      rw [hf.pass (inNumeral_of_mem (by decide)), startsNumber_point, startsNumber_point,
        hf.any_head?_digit]

end Steady

theorem mem_front {p : Char → Bool} {cs : List Char} : ∀ c ∈ (front p cs).1, p c = true :=
  fun _ hc => List.all_eq_true.1 List.all_takeWhile _ hc

/-- The front of a text stops before a character that does not pass. -/
theorem any_head?_front (p : Char → Bool) (cs : List Char) :
    (front p cs).2.head?.any p = false := by
  induction cs with
  | nil => rfl
  | cons c cs ih =>
    by_cases hc : p c = true
    · rw [front, List.dropWhile_cons_of_pos hc]
      exact ih
    · rw [front, List.dropWhile_cons_of_neg hc]
      exact Bool.eq_false_iff.2 hc

theorem exponentSign_mem (cs : List Char) : (exponentSign cs).1 ∈ [[], ['+'], ['-']] := by
  unfold exponentSign
  split <;> simp

/-- The parts of an exponent: nothing, or a letter, an optional sign and digits. -/
theorem exponent_parts (cs : List Char) :
    (exponent cs).1 = [] ∨ ∃ c sign d ds, (exponent cs).1 = c :: sign ++ d :: ds ∧
      isExponentLetter c = true ∧ sign ∈ [[], ['+'], ['-']] ∧ ∀ e ∈ d :: ds, isDigit e = true := by
  cases cs with
  | nil => exact .inl rfl
  | cons c cs =>
    cases hc : isExponentLetter c with
    | false => exact .inl (congrArg Prod.fst (exponent_of_head (by exact hc)))
    | true =>
      have hdigits : ∀ d ∈ (front isDigit (exponentSign cs).2).1, isDigit d = true := mem_front
      have hletter : (c == 'e' || c == 'E') = true := hc
      simp only [exponent, hletter, if_true]
      rcases hfront : front isDigit (exponentSign cs).2 with ⟨digits, rest⟩
      rw [hfront] at hdigits
      cases digits with
      | nil => exact .inl rfl
      | cons d ds =>
        exact .inr ⟨c, (exponentSign cs).1, d, ds, rfl, hc, exponentSign_mem cs, hdigits⟩

/-- A letter, an optional sign and digits are an exponent where no digit follows. -/
theorem exponent_of_parts {c d : Char} {sign ds rest : List Char} (hc : isExponentLetter c = true)
    (hsign : sign ∈ [[], ['+'], ['-']]) (hdigits : ∀ e ∈ d :: ds, isDigit e = true)
    (hrest : rest.head?.any isDigit = false) :
    exponent (c :: sign ++ d :: ds ++ rest) = (c :: sign ++ d :: ds, rest) := by
  have hd := hdigits d List.mem_cons_self
  have hnosign : (d :: ds ++ rest).head?.any (fun c => c == '+' || c == '-') = false := by
    have hsigns : isDigit '+' = false ∧ isDigit '-' = false := by decide
    show (d == '+' || d == '-') = false
    rw [Bool.or_eq_false_iff, beq_eq_false_iff_ne, beq_eq_false_iff_ne]
    constructor
    · rintro rfl
      rw [hsigns.1] at hd
      cases hd
    · rintro rfl
      rw [hsigns.2] at hd
      cases hd
  have hsplit : exponentSign (sign ++ (d :: ds ++ rest)) = (sign, d :: ds ++ rest) := by
    simp only [List.mem_cons, List.not_mem_nil, or_false] at hsign
    rcases hsign with rfl | rfl | rfl
    · exact exponentSign_of_head hnosign
    · rfl
    · rfl
  have hfront := front_append_of_head hdigits hrest
  have hletter : (c == 'e' || c == 'E') = true := hc
  rw [List.append_assoc, List.cons_append]
  simp only [exponent, hletter, if_true, hsplit, hfront]

theorem exponent_self (cs : List Char) : exponent (exponent cs).1 = ((exponent cs).1, []) := by
  rcases exponent_parts cs with h | ⟨c, sign, d, ds, h, hc, hsign, hdigits⟩
  · rw [h]
    rfl
  · rw [h]
    have hself : exponent (c :: sign ++ d :: ds ++ []) = (c :: sign ++ d :: ds, []) :=
      exponent_of_parts hc hsign hdigits rfl
    rwa [List.append_nil] at hself

/-- What begins an exponent begins neither digits nor a fraction. -/
theorem any_head?_exponent {p : Char → Bool} (hp : p 'e' = false ∧ p 'E' = false)
    (cs : List Char) : (exponent cs).1.head?.any p = false := by
  rcases exponent_parts cs with h | ⟨c, sign, d, ds, h, hc, -, -⟩
  · rw [h]
    rfl
  · rw [h]
    rw [isExponentLetter, Bool.or_eq_true, beq_iff_eq, beq_iff_eq] at hc
    rcases hc with rfl | rfl
    · exact hp.1
    · exact hp.2

theorem fraction_parts (cs : List Char) :
    (fraction cs).1 = [] ∨ ∃ digits, (fraction cs).1 = '.' :: digits ∧
      ∀ d ∈ digits, isDigit d = true := by
  unfold fraction
  split
  · rename_i cs
    exact .inr ⟨(front isDigit cs).1, rfl, mem_front⟩
  · exact .inl rfl

theorem fraction_append_of_head {cs power : List Char}
    (hdigit : power.head?.any isDigit = false) (hpoint : power.head?.any (· == '.') = false) :
    fraction ((fraction cs).1 ++ power) = ((fraction cs).1, power) := by
  rcases fraction_parts cs with h | ⟨digits, h, hdigits⟩
  · rw [h]
    exact fraction_of_head hpoint
  · rw [h, List.cons_append]
    simp only [fraction, front_append_of_head hdigits hdigit]

theorem numeral_digits {cs text : List Char} (hcs : ∀ c ∈ cs, isDigit c = true)
    (h : text.head?.any inNumeral = false) : numeral (cs ++ text) = (cs, text) := by
  have hhead {p : Char → Bool} (hp : ∀ c, p c = true → inNumeral c = true) :
      text.head?.any p = false := any_head?_mono hp h
  have hfraction : fraction text = ([], text) :=
    fraction_of_head (hhead fun c hc => inNumeral_of_mem (by simp [beq_iff_eq.1 hc]))
  have hexponent : exponent text = ([], text) :=
    exponent_of_head (hhead fun _ => inNumeral_of_isExponentLetter)
  simp only [numeral, front_append_of_head hcs (hhead fun _ => inNumeral_of_isDigit), hfraction,
    hexponent, List.append_nil]

theorem numeral_self (cs : List Char) : numeral (numeral cs).1 = ((numeral cs).1, []) := by
  have hdigit := any_head?_exponent (p := isDigit) (by decide)
    (fraction (front isDigit cs).2).2
  have hpoint := any_head?_exponent (p := (· == '.')) (by decide)
    (fraction (front isDigit cs).2).2
  have hpart : ((fraction (front isDigit cs).2).1 ++
      (exponent (fraction (front isDigit cs).2).2).1).head?.any isDigit = false := by
    rcases fraction_parts (front isDigit cs).2 with h | ⟨digits, h, -⟩
    · rw [h]
      exact hdigit
    · rw [h]
      exact (by decide : isDigit '.' = false)
  simp only [numeral, List.append_assoc, front_append_of_head mem_front hpart,
    fraction_append_of_head hdigit hpoint, exponent_self]

/-- A numeral by itself starts a number, as the text does that it was read from. -/
theorem startsNumber_numeral {cs : List Char} (h : startsNumber cs = true) :
    startsNumber (numeral cs).1 = true := by
  cases cs with
  | nil => cases h
  | cons c cs =>
    cases hdigit : isDigit c with
    | true =>
      have hpoint : c ≠ '.' := by
        rintro rfl
        exact absurd hdigit (by decide)
      have hfront : (front isDigit (c :: cs)).1 = c :: (front isDigit cs).1 :=
        List.takeWhile_cons_of_pos hdigit
      simp only [numeral, hfront, List.cons_append]
      exact (startsNumber_cons hpoint _).trans hdigit
    | false =>
      have hpoint : c = '.' := by
        by_cases hpoint : c = '.'
        · exact hpoint
        · rw [startsNumber_cons hpoint, hdigit] at h
          cases h
      subst hpoint
      rw [startsNumber_point] at h
      cases cs with
      | nil => cases h
      | cons d ds =>
        have hfront : front isDigit ('.' :: d :: ds) = ([], '.' :: d :: ds) :=
          front_of_head hdigit
        have hdigits : (front isDigit (d :: ds)).1 = d :: (front isDigit ds).1 :=
          List.takeWhile_cons_of_pos h
        simp only [numeral, hfront, fraction, hdigits]
        exact h

theorem inNumeral_of_mem_numeral {cs : List Char} :
    ∀ c ∈ (numeral cs).1, inNumeral c = true := by
  intro c hc
  simp only [numeral, List.mem_append] at hc
  rcases hc with (hc | hc) | hc
  · exact inNumeral_of_isDigit (mem_front c hc)
  · rcases fraction_parts (front isDigit cs).2 with h | ⟨digits, h, hdigits⟩
    · rw [h] at hc
      cases hc
    · rw [h] at hc
      rcases List.mem_cons.1 hc with rfl | hc
      · exact inNumeral_of_mem (by decide)
      · exact inNumeral_of_isDigit (hdigits c hc)
  · rcases exponent_parts (fraction (front isDigit cs).2).2 with
      h | ⟨e, sign, d, ds, h, he, hsign, hdigits⟩
    · rw [h] at hc
      cases hc
    · rw [h, List.mem_append, List.mem_cons] at hc
      rcases hc with (rfl | hc) | hc
      · exact inNumeral_of_isExponentLetter he
      · simp only [List.mem_cons, List.not_mem_nil, or_false] at hsign
        rcases hsign with rfl | rfl | rfl
        · cases hc
        · exact inNumeral_of_mem (by rw [List.mem_singleton.1 hc]; decide)
        · exact inNumeral_of_mem (by rw [List.mem_singleton.1 hc]; decide)
      · exact inNumeral_of_isDigit (hdigits c hc)

end Lexeme

end RuleCheck
