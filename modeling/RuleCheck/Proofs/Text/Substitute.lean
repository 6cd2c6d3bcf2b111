import RuleCheck.Text.Blank
import RuleCheck.Text.Substitute

/-!
# What substitution leaves alone

A character that begins no occurrence is passed over, and a character that no occurrence can
hold cuts the text in two that are rewritten apart. An occurrence of one text is still found
after another has been replaced, if neither the two texts nor the replacement can overlap it.
Merging pairs of spaces until none is left is the same as dropping each space before a space.
-/

set_option autoImplicit false

namespace RuleCheck.Text

section

variable {same : Char → Char → Bool} {o : Char} {old new text rest : List Char}

theorem replaceWith_of_match (h : afterMatch? same (o :: old) text = some rest) :
    replaceWith same o old new text = new ++ replaceWith same o old new rest := by
  rw [replaceWith]
  split
  · rename_i heq
    rw [h] at heq
    cases heq
    rfl
  · rename_i heq
    rw [h] at heq
    cases heq

theorem replaceWith_nil : replaceWith same o old new [] = [] := by
  rw [replaceWith]
  rfl

theorem replaceWith_cons {c : Char} (h : afterMatch? same (o :: old) (c :: text) = none) :
    replaceWith same o old new (c :: text) = c :: replaceWith same o old new text := by
  rw [replaceWith]
  split
  · rename_i heq
    rw [h] at heq
    cases heq
  · rfl

theorem afterMatch?_cons {c : Char} (h : same o c = true) :
    afterMatch? same (o :: old) (c :: text) = afterMatch? same old text := if_pos h

theorem afterMatch?_eq_none {c : Char} (h : same o c = false) :
    afterMatch? same (o :: old) (c :: text) = none := if_neg (by simp [h])

theorem any_head?_eq_false {c : Char} : text.head?.any (c == ·) = false ↔ text.head? ≠ some c := by
  cases text with
  | nil => simp
  | cons d text => simpa using ne_comm

theorem afterMatch?_of_head (h : text.head?.any (same o) = false) :
    afterMatch? same (o :: old) text = none := by
  cases text with
  | nil => rfl
  | cons c text => exact afterMatch?_eq_none h

theorem suffix_of_afterMatch? {p : List Char} (h : afterMatch? same p text = some rest) :
    rest <:+ text := by
  induction p generalizing text with
  | nil =>
    cases h
    exact List.suffix_rfl
  | cons d p ih =>
    cases text with
    | nil => cases h
    | cons c text =>
      simp only [afterMatch?] at h
      split at h
      · exact (ih h).trans (List.suffix_cons c text)
      · cases h

theorem replaceWith_pass {c : Char} (h : same o c = false) :
    replaceWith same o old new (c :: text) = c :: replaceWith same o old new text :=
  replaceWith_cons (afterMatch?_eq_none h)

theorem replaceWith_pass_all {cs : List Char} (h : ∀ c ∈ cs, same o c = false) :
    replaceWith same o old new (cs ++ text) = cs ++ replaceWith same o old new text := by
  induction cs with
  | nil => rfl
  | cons c cs ih =>
    rw [List.cons_append, replaceWith_pass (h c List.mem_cons_self),
      ih fun d hd => h d (List.mem_cons_of_mem c hd)]
    rfl

theorem afterMatch?_append_cons {p b : List Char} {c : Char} (h : ∀ d ∈ p, same d c = false)
    (a : List Char) :
    afterMatch? same p (a ++ c :: b) = (afterMatch? same p a).map (· ++ c :: b) := by
  induction p generalizing a with
  | nil => rfl
  | cons d p ih =>
    have hp : ∀ d ∈ p, same d c = false := fun e he => h e (List.mem_cons_of_mem d he)
    cases a with
    | nil => exact afterMatch?_eq_none (h d List.mem_cons_self)
    | cons e a =>
      simp only [List.cons_append, afterMatch?]
      split
      · exact ih hp a
      · rfl

/-- A character that agrees with none of the text to be replaced parts what stands before it
from what stands behind it. -/
theorem replaceWith_append_cons {c : Char} (h : ∀ d ∈ o :: old, same d c = false)
    (a b : List Char) :
    replaceWith same o old new (a ++ c :: b) =
      replaceWith same o old new a ++ c :: replaceWith same o old new b := by
  have hmatch := afterMatch?_append_cons (b := b) h a
  cases hfound : afterMatch? same (o :: old) a with
  | some rest =>
    have hshorter := length_afterMatch? hfound
    have hlt : rest.length < a.length := by
      rw [List.length_cons] at hshorter
      omega
    rw [hfound] at hmatch
    rw [replaceWith_of_match hmatch, replaceWith_of_match hfound, replaceWith_append_cons h rest b,
      List.append_assoc]
  | none =>
    rw [hfound] at hmatch
    cases a with
    | nil =>
      rw [List.nil_append, replaceWith_pass (h o List.mem_cons_self), replaceWith_nil,
        List.nil_append]
    | cons e a =>
      rw [List.cons_append] at hmatch ⊢
      rw [replaceWith_cons hmatch, replaceWith_cons hfound, replaceWith_append_cons h a b,
        List.cons_append]
termination_by a.length

/-- Two texts are rewritten apart if no occurrence holds the first character of the second. -/
theorem replaceWith_append {b : List Char} (h : ∀ c ∈ b.head?, ∀ d ∈ o :: old, same d c = false)
    (a : List Char) :
    replaceWith same o old new (a ++ b) =
      replaceWith same o old new a ++ replaceWith same o old new b := by
  cases b with
  | nil => rw [replaceWith_nil, List.append_nil, List.append_nil]
  | cons c b =>
    have hc : ∀ d ∈ o :: old, same d c = false := h c rfl
    rw [replaceWith_append_cons hc, replaceWith_pass (hc o List.mem_cons_self)]

/-- No occurrence begins with a character that nothing fitting follows. -/
theorem replaceWith_cons_of_head {c p : Char} (h : text.head?.any (same p) = false) :
    replaceWith same o (p :: old) new (c :: text) =
      c :: replaceWith same o (p :: old) new text := by
  refine replaceWith_cons ?_
  simp only [afterMatch?]
  split
  · exact afterMatch?_of_head h
  · rfl

theorem any_head?_replaceWith {p : Char → Bool} {n : Char}
    (hn : ∀ c, same o c = true → p n = true → p c = true) (h : text.head?.any p = false) :
    (replaceWith same o old (n :: new) text).head?.any p = false := by
  cases text with
  | nil => rwa [replaceWith_nil]
  | cons c text =>
    cases hfound : afterMatch? same (o :: old) (c :: text) with
    | none => rwa [replaceWith_cons hfound]
    | some rest =>
      rw [replaceWith_of_match hfound]
      cases hc : same o c with
      | false =>
        rw [afterMatch?_eq_none hc] at hfound
        cases hfound
      | true =>
        cases hp : p n with
        | false => exact hp
        | true =>
          have : p c = false := h
          rw [hn c hc hp] at this
          cases this

def clash (same : Char → Char → Bool) : List Char → List Char → Bool
  | d :: p, c :: cs => !same d c || clash same p cs
  | _, _ => false

theorem afterMatch?_of_clash {p a : List Char} (h : clash same p a = true) (b : List Char) :
    afterMatch? same p (a ++ b) = none := by
  fun_induction clash same p a with
  | case1 d p c cs ih =>
    rw [List.cons_append]
    cases hd : same d c with
    | false => exact afterMatch?_eq_none hd
    | true =>
      rw [afterMatch?_cons hd]
      exact ih (by simpa [hd] using h)
  | case2 => cases h

theorem clash_congr {same' : Char → Char → Bool} {p : List Char}
    (h : ∀ d ∈ p, ∀ c, same d c = same' d c) (a : List Char) :
    clash same p a = clash same' p a := by
  induction p generalizing a with
  | nil => rfl
  | cons d p ih =>
    cases a with
    | nil => rfl
    | cons c a =>
      rw [clash, clash, h d List.mem_cons_self c, ih fun e he => h e (List.mem_cons_of_mem d he)]

/-- An occurrence of `p` is found as before if it cannot hold the beginning of what is
replaced, and no end of it is found where the replacement begins. -/
theorem afterMatch?_replaceWith {same' : Char → Char → Bool} {p : List Char}
    (hfirst : ∀ d ∈ p, ∀ c, same' d c = true → same o c = false)
    (hnew : ∀ n < p.length, clash same' (p.drop n) new = true) (text : List Char) :
    afterMatch? same' p (replaceWith same o old new text) =
      (afterMatch? same' p text).map (replaceWith same o old new) := by
  induction p generalizing text with
  | nil => rfl
  | cons d p ih =>
    have hrest := ih (fun e he => hfirst e (List.mem_cons_of_mem d he))
      fun n hn => hnew (n + 1) (Nat.succ_lt_succ hn)
    cases text with
    | nil => rw [replaceWith_nil]; rfl
    | cons c text =>
      cases hd : same' d c with
      | true =>
        rw [replaceWith_pass (hfirst d List.mem_cons_self c hd), afterMatch?_cons hd,
          afterMatch?_cons hd, hrest]
      | false =>
        rw [afterMatch?_eq_none hd]
        cases hfound : afterMatch? same (o :: old) (c :: text) with
        | some rest =>
          rw [replaceWith_of_match hfound]
          exact afterMatch?_of_clash (hnew 0 (Nat.zero_lt_succ _)) _
        | none =>
          rw [replaceWith_cons hfound]
          exact afterMatch?_eq_none hd

/-- A replacement brings nothing to the front that does not hold its first character. -/
theorem afterMatch?_of_replaceWith {same' : Char → Char → Bool} {n : Char} {p : List Char}
    (hp : ∀ d ∈ p, same' d n = false) (h : afterMatch? same' p text = none) :
    afterMatch? same' p (replaceWith same o old (n :: new) text) = none := by
  induction p generalizing text with
  | nil => cases h
  | cons d p ih =>
    have hrest := fun e he => hp e (List.mem_cons_of_mem d he)
    cases hfound : afterMatch? same (o :: old) text with
    | some rest =>
      rw [replaceWith_of_match hfound]
      exact afterMatch?_eq_none (hp d List.mem_cons_self)
    | none =>
      cases text with
      | nil =>
        rw [replaceWith_nil]
        rfl
      | cons c text =>
        rw [replaceWith_cons hfound]
        simp only [afterMatch?] at h ⊢
        split
        · rename_i hc
          rw [if_pos hc] at h
          exact ih hrest h
        · rfl

theorem mem_replaceWith {c : Char} (h : c ∈ replaceWith same o old new text) :
    c ∈ text ∨ c ∈ new := by
  fun_induction replaceWith same o old new text with
  | case1 text rest hfound ih =>
    rcases List.mem_append.1 h with h | h
    · exact .inr h
    · exact (ih h).imp_left fun hc => (suffix_of_afterMatch? hfound).subset hc
  | case2 => cases h
  | case3 d text hnone ih =>
    rcases List.mem_cons.1 h with rfl | h
    · exact .inl List.mem_cons_self
    · exact (ih h).imp_left (List.mem_cons_of_mem d)

theorem contains_pass {c d : Char} {p : List Char} (h : c ≠ d) (text : List Char) :
    contains (d :: p) (c :: text) = contains (d :: p) text := by
  rw [contains, afterMatch?_eq_none (beq_eq_false_iff_ne.2 h.symm)]
  rfl

theorem contains_pass_all {d : Char} {p cs : List Char} (h : ∀ c ∈ cs, c ≠ d)
    (text : List Char) : contains (d :: p) (cs ++ text) = contains (d :: p) text := by
  induction cs with
  | nil => rfl
  | cons c cs ih =>
    rw [List.cons_append, contains_pass (h c List.mem_cons_self),
      ih fun e he => h e (List.mem_cons_of_mem c he)]

/-- What has been matched without the first character of an occurrence holds no occurrence. -/
theorem contains_of_afterMatch? {d : Char} {p q : List Char}
    (hq : ∀ x ∈ q, ∀ c, same x c = true → c ≠ d) (h : afterMatch? same q text = some rest) :
    contains (d :: p) text = contains (d :: p) rest := by
  induction q generalizing text with
  | nil => cases h; rfl
  | cons x q ih =>
    cases text with
    | nil => cases h
    | cons c text =>
      simp only [afterMatch?] at h
      split at h
      · rename_i hc
        rw [contains_pass (hq x List.mem_cons_self c hc)]
        exact ih (fun y hy => hq y (List.mem_cons_of_mem x hy)) h
      · cases h

theorem clash_of_not_mem {n : Char} {p : List Char} (hp : p ≠ []) (hn : n ∉ p) :
    clash (· == ·) p (n :: new) = true := by
  cases p with
  | nil => exact absurd rfl hp
  | cons d p =>
    have hd : (d == n) = false := by
      rw [beq_eq_false_iff_ne]
      rintro rfl
      exact hn List.mem_cons_self
    simp [clash, hd]

/-- A text of other characters than are replaced or written occurs as before. -/
theorem contains_replaceWith {d n : Char} {p : List Char}
    (hold : ∀ e ∈ d :: p, ∀ x ∈ o :: old, same x e = false) (hnew : ∀ c ∈ n :: new, c ∉ d :: p)
    (text : List Char) :
    contains (d :: p) (replaceWith same o old (n :: new) text) = contains (d :: p) text := by
  have hfound (text : List Char) :
      afterMatch? (· == ·) (d :: p) (replaceWith same o old (n :: new) text) =
        (afterMatch? (· == ·) (d :: p) text).map (replaceWith same o old (n :: new)) := by
    refine afterMatch?_replaceWith (fun e he c hc => ?_) (fun k hk => ?_) text
    · exact beq_iff_eq.1 hc ▸ hold e he o List.mem_cons_self
    · refine clash_of_not_mem (fun hnil => ?_) fun hmem => ?_
      · rw [List.drop_eq_nil_iff] at hnil
        omega
      · exact hnew n List.mem_cons_self (List.mem_of_mem_drop hmem)
  fun_induction replaceWith same o old (n :: new) text with
  | case1 text rest hmatch ih =>
    have hother : ∀ x ∈ o :: old, ∀ c, same x c = true → c ≠ d := by
      rintro x hx c hc rfl
      rw [hold c List.mem_cons_self x hx] at hc
      cases hc
    rw [contains_pass_all fun c hc h => hnew c hc (h ▸ List.mem_cons_self),
      contains_of_afterMatch? hother hmatch, ih]
  | case2 => rfl
  | case3 c text hnone ih =>
    rw [contains, contains, ← replaceWith_cons hnone, hfound, Option.isSome_map, ih]

theorem contains_append_cons {c d : Char} {p : List Char} (hc : c ∉ d :: p) (a b : List Char) :
    contains (d :: p) (a ++ c :: b) = (contains (d :: p) a || contains (d :: p) b) := by
  have hparts : ∀ e ∈ d :: p, (e == c) = false :=
    fun e he => beq_eq_false_iff_ne.2 fun h => hc (h ▸ he)
  induction a with
  | nil =>
    have hne : c ≠ d := fun h => hc (h ▸ List.mem_cons_self)
    rw [List.nil_append, contains_pass hne]
    rfl
  | cons e a ih =>
    have hfound : afterMatch? (· == ·) (d :: p) (e :: (a ++ c :: b)) =
        (afterMatch? (· == ·) (d :: p) (e :: a)).map (· ++ c :: b) :=
      afterMatch?_append_cons hparts (e :: a)
    rw [List.cons_append]
    rw [contains, contains, hfound, Option.isSome_map, ih, Bool.or_assoc]

end

theorem squeeze_cons {c : Char} (hc : c ≠ ' ') (cs : List Char) :
    squeeze (c :: cs) = c :: squeeze cs := by
  rw [squeeze]
  simp [hc]

theorem squeeze_pair (cs : List Char) : squeeze (' ' :: ' ' :: cs) = squeeze (' ' :: cs) := by
  rw [squeeze]

theorem squeeze_space {cs : List Char} (h : cs.head? ≠ some ' ') :
    squeeze (' ' :: cs) = ' ' :: squeeze cs := by
  rw [squeeze]
  rintro rest - rfl
  exact h rfl

theorem head?_squeeze (cs : List Char) : (squeeze cs).head? = cs.head? := by
  fun_induction squeeze cs with
  | case1 rest ih => rw [ih]; rfl
  | case2 c rest _ ih => rfl
  | case3 => rfl

theorem squeeze_append {cs : List Char} (hcs : ∀ c ∈ cs, c ≠ ' ') (rest : List Char) :
    squeeze (cs ++ rest) = cs ++ squeeze rest := by
  induction cs with
  | nil => rfl
  | cons c cs ih =>
    rw [List.cons_append, squeeze_cons (hcs c List.mem_cons_self),
      ih fun d hd => hcs d (List.mem_cons_of_mem c hd), List.cons_append]

theorem squeeze_append_cons {c : Char} (hc : c ≠ ' ') (a b : List Char) :
    squeeze (a ++ c :: b) = squeeze a ++ c :: squeeze b := by
  fun_induction squeeze a with
  | case1 rest ih =>
    rw [List.cons_append, List.cons_append, squeeze_pair]
    exact ih
  | case2 d rest hne ih =>
    rw [List.cons_append, List.cons_append, ← ih]
    by_cases hd : d = ' '
    · subst hd
      refine squeeze_space ?_
      cases rest with
      | nil => simpa using hc
      | cons e rest =>
        rintro ⟨⟩
        exact hne rest rfl rfl
    · exact squeeze_cons hd _
  | case3 => exact squeeze_cons hc b

/-- Text without spaces is found again where spaces have been dropped. -/
theorem afterMatch?_squeeze {same : Char → Char → Bool} {p : List Char}
    (hp : ∀ d ∈ p, same d ' ' = false) (text : List Char) :
    afterMatch? same p (squeeze text) = (afterMatch? same p text).map squeeze := by
  induction p generalizing text with
  | nil => rfl
  | cons d p ih =>
    have hd := hp d List.mem_cons_self
    cases text with
    | nil => rfl
    | cons c text =>
      by_cases hc : c = ' '
      · subst hc
        rw [afterMatch?_eq_none hd]
        cases hs : squeeze (' ' :: text) with
        | nil => rfl
        | cons e rest =>
          have hhead := head?_squeeze (' ' :: text)
          rw [hs] at hhead
          cases hhead
          exact afterMatch?_eq_none hd
      · rw [squeeze_cons hc]
        simp only [afterMatch?]
        split
        · exact ih (fun e he => hp e (List.mem_cons_of_mem d he)) text
        · rfl

theorem squeeze_sublist (cs : List Char) : (squeeze cs).Sublist cs := by
  fun_induction squeeze cs with
  | case1 rest ih => exact ih.cons _
  | case2 c rest _ ih => exact ih.cons_cons c
  | case3 => exact List.Sublist.slnil

theorem mem_squeeze {c : Char} {cs : List Char} (h : c ∈ squeeze cs) : c ∈ cs :=
  (squeeze_sublist cs).subset h

theorem isBlank_squeeze (cs : List Char) : isBlank (squeeze cs) = isBlank cs := by
  unfold isBlank
  fun_induction squeeze cs with
  | case1 rest ih => rw [ih, List.all_cons, List.all_cons, List.all_cons, ← Bool.and_assoc,
      Bool.and_self]
  | case2 c rest _ ih => rw [List.all_cons, ih, List.all_cons]
  | case3 => rfl

theorem contains_squeeze {d : Char} {p : List Char} (hp : ' ' ∉ d :: p) (text : List Char) :
    contains (d :: p) (squeeze text) = contains (d :: p) text := by
  have hd : ' ' ≠ d := fun h => hp (h ▸ List.mem_cons_self)
  have hparts : ∀ e ∈ d :: p, (e == ' ') = false :=
    fun e he => beq_eq_false_iff_ne.2 fun h => hp (h ▸ he)
  fun_induction squeeze text with
  | case1 rest ih => rw [ih, contains_pass hd, contains_pass hd, contains_pass hd]
  | case2 c rest hne ih =>
    by_cases hc : c = ' '
    · subst hc
      rw [contains_pass hd, contains_pass hd, ih]
    · rw [contains, contains, ← squeeze_cons hc, afterMatch?_squeeze hparts, Option.isSome_map, ih]
  | case3 => rfl

/-- White space at the ends holds no occurrence of a text without it. -/
theorem contains_trim {d : Char} {p : List Char} (hp : ∀ c ∈ d :: p, isSpace c = false)
    (text : List Char) : contains (d :: p) (trim text) = contains (d :: p) text := by
  have hspace {c : Char} (hc : isSpace c = true) : c ∉ d :: p := fun hmem => by
    rw [hp c hmem] at hc
    cases hc
  have hleft (text : List Char) : contains (d :: p) (trimLeft text) = contains (d :: p) text := by
    induction text with
    | nil => rfl
    | cons c text ih =>
      by_cases hc : isSpace c = true
      · have hd : c ≠ d := fun h => hspace hc (by rw [h]; exact List.mem_cons_self)
        rw [trimLeft, List.dropWhile_cons_of_pos hc, ← trimLeft, ih, contains_pass hd]
      · rw [trimLeft, List.dropWhile_cons_of_neg hc]
  have hright (rev : List Char) : contains (d :: p) (rev.dropWhile isSpace).reverse =
      contains (d :: p) rev.reverse := by
    induction rev with
    | nil => rfl
    | cons c rev ih =>
      by_cases hc : isSpace c = true
      · rw [List.dropWhile_cons_of_pos hc, ih, List.reverse_cons,
          contains_append_cons (hspace hc)]
        exact (Bool.or_false _).symm
      · rw [List.dropWhile_cons_of_neg hc]
  rw [trim, trimRight, hright, List.reverse_reverse, hleft]

theorem squeeze_mergePairs (cs : List Char) : squeeze (mergePairs cs) = squeeze cs ∧
    squeeze (' ' :: mergePairs cs) = squeeze (' ' :: cs) := by
  fun_induction mergePairs cs with
  | case1 rest ih =>
    rw [squeeze_pair, squeeze_pair, squeeze_pair]
    exact ⟨ih.2, ih.2⟩
  | case2 c rest hne ih =>
    by_cases hc : c = ' '
    · subst hc
      rw [squeeze_pair, squeeze_pair]
      exact ⟨ih.2, ih.2⟩
    · have hhead (tail : List Char) : (c :: tail).head? ≠ some ' ' := by simpa using hc
      rw [squeeze_space (hhead _), squeeze_space (hhead _), squeeze_cons hc, squeeze_cons hc, ih.1]
      exact ⟨rfl, rfl⟩
  | case3 => exact ⟨rfl, rfl⟩

theorem squeeze_of_not_hasPair {cs : List Char} (h : hasPair cs = false) : squeeze cs = cs := by
  fun_induction squeeze cs with
  | case1 rest ih => simp [hasPair] at h
  | case2 c rest hne ih =>
    rw [ih]
    unfold hasPair at h
    split at h
    · cases h
    · rename_i heq
      cases heq
      exact h
    · rename_i heq
      cases heq
  | case3 => rfl

/-- Merging pairs until none is left drops every space before a space. -/
theorem collapse_eq_squeeze (cs : List Char) : collapse cs = squeeze cs := by
  fun_induction collapse cs with
  | case1 cs h ih => rw [ih, (squeeze_mergePairs cs).1]
  | case2 cs h => exact (squeeze_of_not_hasPair (by simpa using h)).symm

end RuleCheck.Text
