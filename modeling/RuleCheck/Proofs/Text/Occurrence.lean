import Mathlib.Data.List.DropRight
import Mathlib.Data.List.Forall2
import RuleCheck.Proofs.Text.Substitute

/-!
# Where a text occurs

What occurs nowhere in a text is not replaced in it, and occurs in no part of it. What is
replaced by other characters occurs no more, and what is replaced by itself stays. White space
is taken off the ends once and for all.
-/

set_option autoImplicit false

namespace RuleCheck.Text

section

variable {same : Char → Char → Bool} {o : Char} {old new text rest : List Char}

/-- A text is found at the front if a part of its length stands there that agrees with it in every
character. -/
theorem afterMatch?_eq_some_iff {p : List Char} : afterMatch? same p text = some rest ↔
    ∃ part, List.Forall₂ (fun d c => same d c = true) p part ∧ text = part ++ rest := by
  induction p generalizing text with
  | nil =>
    constructor
    · rintro ⟨⟩
      exact ⟨[], .nil, rfl⟩
    · rintro ⟨part, hpart, rfl⟩
      cases hpart
      rfl
  | cons d p ih =>
    constructor
    · intro h
      cases text with
      | nil => cases h
      | cons c text =>
        cases hc : same d c with
        | false =>
          rw [afterMatch?_eq_none hc] at h
          cases h
        | true =>
          rw [afterMatch?_cons hc] at h
          obtain ⟨part, hpart, rfl⟩ := ih.1 h
          exact ⟨c :: part, .cons hc hpart, rfl⟩
    · rintro ⟨part, hpart, rfl⟩
      obtain _ | ⟨hc, hpart⟩ := hpart
      exact (afterMatch?_cons hc).trans (ih.2 ⟨_, hpart, rfl⟩)

theorem eq_append_of_afterMatch? {p : List Char}
    (h : afterMatch? (· == ·) p text = some rest) : text = p ++ rest := by
  obtain ⟨part, hpart, rfl⟩ := afterMatch?_eq_some_iff.1 h
  have hsame : List.Forall₂ (· = ·) p part := hpart.imp fun _ _ => beq_iff_eq.1
  rw [List.forall₂_eq_eq_eq] at hsame
  rw [hsame]

theorem afterMatch?_append {p : List Char} (h : afterMatch? same p text = some rest)
    (more : List Char) : afterMatch? same p (text ++ more) = some (rest ++ more) := by
  obtain ⟨part, hpart, rfl⟩ := afterMatch?_eq_some_iff.1 h
  exact afterMatch?_eq_some_iff.2 ⟨part, hpart, List.append_assoc part rest more⟩

theorem afterMatch?_of_append {p more : List Char}
    (h : afterMatch? same p (text ++ more) = none) : afterMatch? same p text = none := by
  cases hfound : afterMatch? same p text with
  | none => rfl
  | some rest =>
    rw [afterMatch?_append hfound] at h
    cases h

theorem afterMatch?_longer {p : List Char} (h : afterMatch? same p text = none) (q : List Char) :
    afterMatch? same (p ++ q) text = none := by
  induction p generalizing text with
  | nil => cases h
  | cons d p ih =>
    cases text with
    | nil => rfl
    | cons c text =>
      simp only [List.cons_append, afterMatch?] at h ⊢
      split
      · rename_i hc
        rw [if_pos hc] at h
        exact ih h
      · rfl

def Absent (same : Char → Char → Bool) (p text : List Char) : Prop :=
  ∀ t, t <:+ text → afterMatch? same p t = none

/-- The end of a part of a text is the front of an end of the text. -/
theorem exists_suffix_append {part t : List Char} (hpart : part <:+: text) (ht : t <:+ part) :
    ∃ behind, t ++ behind <:+ text := by
  obtain ⟨before, behind, rfl⟩ := hpart
  obtain ⟨front, rfl⟩ := ht
  exact ⟨behind, before ++ front, by simp⟩

/-- What occurs nowhere in a text occurs nowhere in a part of it. -/
theorem Absent.part {p part : List Char} (h : Absent same p text) (hpart : part <:+: text) :
    Absent same p part := fun _ ht =>
  have ⟨_, hbehind⟩ := exists_suffix_append hpart ht
  afterMatch?_of_append (h _ hbehind)

/-- A text that begins like one that occurs nowhere occurs nowhere. -/
theorem Absent.append {p : List Char} (h : Absent same p text) (q : List Char) :
    Absent same (p ++ q) text :=
  fun t ht => afterMatch?_longer (h t ht) q

theorem absent_of_contains (h : contains (o :: old) text = false) :
    Absent (· == ·) (o :: old) text := by
  intro t ht
  induction text with
  | nil =>
    rw [List.suffix_nil.1 ht]
    rfl
  | cons c text ih =>
    rw [contains, Bool.or_eq_false_iff, Option.isSome_eq_false_iff, Option.isNone_iff_eq_none] at h
    rcases List.suffix_cons_iff.1 ht with rfl | ht
    · exact h.1
    · exact ih h.2 ht

theorem contains_of_absent (h : Absent (· == ·) (o :: old) text) :
    contains (o :: old) text = false := by
  induction text with
  | nil => rfl
  | cons c text ih =>
    rw [contains, h _ List.suffix_rfl, ih fun t ht => h t (ht.trans (List.suffix_cons c text))]
    rfl

theorem contains_replaceWith_self {n : Char} (hnew : ∀ c ∈ n :: new, c ∉ o :: old)
    (text : List Char) :
    contains (o :: old) (replaceWith (· == ·) o old (n :: new) text) = false := by
  fun_induction replaceWith (· == ·) o old (n :: new) text with
  | case1 text rest hfound ih =>
    rw [contains_pass_all fun c hc h => hnew c hc (h ▸ List.mem_cons_self), ih]
  | case2 => rfl
  | case3 c text hnone ih =>
    have hother : ∀ d ∈ o :: old, (d == n) = false := fun d hd =>
      beq_eq_false_iff_ne.2 fun h => hnew n List.mem_cons_self (h ▸ hd)
    have hfront : afterMatch? (· == ·) (o :: old)
        (c :: replaceWith (· == ·) o old (n :: new) text) = none := by
      rw [← replaceWith_cons hnone]
      exact afterMatch?_of_replaceWith hother hnone
    rw [contains, hfront, ih]
    rfl

/-- A replacement that does not hold a character makes it no more frequent. -/
theorem count_replaceWith_le {d : Char} (hnew : d ∉ new) (text : List Char) :
    (replaceWith same o old new text).count d ≤ text.count d := by
  fun_induction replaceWith same o old new text with
  | case1 text rest hfound ih =>
    rw [List.count_append, List.count_eq_zero_of_not_mem hnew, Nat.zero_add]
    exact Nat.le_trans ih ((suffix_of_afterMatch? hfound).sublist.count_le d)
  | case2 => exact Nat.le_refl _
  | case3 c text hnone ih =>
    rw [List.count_cons, List.count_cons]
    exact Nat.add_le_add_right ih _

/-- A replacement that holds a character less often makes it less frequent, unless the text to
be replaced occurs nowhere. -/
theorem count_replaceWith_lt {d : Char} (hnew : new.count d < (o :: old).count d)
    (text : List Char) :
    (replaceWith (· == ·) o old new text).count d ≤ text.count d ∧
      (contains (o :: old) text = true →
        (replaceWith (· == ·) o old new text).count d < text.count d) := by
  fun_induction replaceWith (· == ·) o old new text with
  | case1 text rest hfound ih =>
    rw [eq_append_of_afterMatch? hfound, List.count_append, List.count_append]
    have := ih.1
    exact ⟨by omega, fun _ => by omega⟩
  | case2 => exact ⟨Nat.le_refl _, fun h => by cases h⟩
  | case3 c text hnone ih =>
    rw [List.count_cons, List.count_cons, contains, hnone]
    exact ⟨Nat.add_le_add_right ih.1 _, fun h => Nat.add_lt_add_right (ih.2 h) _⟩

/-- Where each occurrence is what it is replaced by, nothing changes. -/
theorem replaceWith_eq_self
    (h : ∀ t, t <:+ text → ∀ rest, afterMatch? same (o :: old) t = some rest → t = new ++ rest) :
    replaceWith same o old new text = text := by
  fun_induction replaceWith same o old new text with
  | case1 text rest hfound ih =>
    rw [ih fun t ht => h t (ht.trans (suffix_of_afterMatch? hfound))]
    exact (h text List.suffix_rfl rest hfound).symm
  | case2 => rfl
  | case3 c text hnone ih => rw [ih fun t ht => h t (ht.trans (List.suffix_cons c text))]

theorem replaceWith_of_absent (h : Absent same (o :: old) text) :
    replaceWith same o old new text = text :=
  replaceWith_eq_self fun t ht rest hfound => by
    rw [h t ht] at hfound
    cases hfound

end

theorem afterMatch?_pair {c : Char} {rest : List Char}
    (h : ∀ tail, c = ' ' → rest = ' ' :: tail → False) :
    afterMatch? (· == ·) [' ', ' '] (c :: rest) = none := by
  by_cases hc : c = ' '
  · subst hc
    rw [afterMatch?_cons rfl]
    refine afterMatch?_of_head (any_head?_eq_false.2 fun hhead => ?_)
    obtain ⟨tail, rfl⟩ := List.head?_eq_some_iff.1 hhead
    exact h tail rfl rfl
  · exact afterMatch?_eq_none (beq_eq_false_iff_ne.2 (Ne.symm hc))

theorem hasPair_eq_contains (cs : List Char) : hasPair cs = contains [' ', ' '] cs := by
  fun_induction hasPair cs with
  | case1 rest => rfl
  | case2 c rest hne ih =>
    rw [contains, afterMatch?_pair hne, ih]
    rfl
  | case3 => rfl

theorem hasPair_squeeze (cs : List Char) : hasPair (squeeze cs) = false := by
  fun_induction squeeze cs with
  | case1 rest ih => exact ih
  | case2 c rest hne ih =>
    unfold hasPair
    split
    · rename_i tail heq
      obtain ⟨rfl, htail⟩ := List.cons.inj heq
      have hhead := head?_squeeze rest
      rw [htail] at hhead
      obtain ⟨more, rfl⟩ := List.head?_eq_some_iff.1 hhead.symm
      exact absurd rfl (hne more rfl)
    · rename_i heq
      cases heq
      exact ih
    · rfl
  | case3 => rfl

theorem trimRight_isPrefix (cs : List Char) : trimRight cs <+: cs :=
  List.rdropWhile_prefix isSpace cs

theorem trim_within (cs : List Char) : trim cs <:+: cs :=
  (trimRight_isPrefix _).isInfix.trans (List.dropWhile_suffix isSpace).isInfix

/-- White space is taken off at both ends of a text that holds none. -/
theorem trim_blanks {before body behind : List Char} (hbefore : isBlank before = true)
    (hbehind : isBlank behind = true) (hbody : ∀ c ∈ body, isSpace c = false) :
    trim (before ++ body ++ behind) = body := by
  have hback : ∀ c ∈ behind.reverse, isSpace c = true := fun c hc =>
    List.all_eq_true.1 hbehind c (List.mem_reverse.1 hc)
  have hkept (cs : List Char) (hcs : ∀ c ∈ cs, isSpace c = false) : cs.dropWhile isSpace = cs := by
    cases cs with
    | nil => rfl
    | cons c cs => exact List.dropWhile_cons_of_neg (by simp [hcs c List.mem_cons_self])
  rw [List.append_assoc, trim, trimLeft, List.dropWhile_append_of_pos (List.all_eq_true.1 hbefore)]
  cases body with
  | nil =>
    rw [List.nil_append, List.dropWhile_eq_nil_iff.2 (List.all_eq_true.1 hbehind)]
    rfl
  | cons c rest =>
    rw [List.cons_append, List.dropWhile_cons_of_neg (by simp [hbody c List.mem_cons_self]),
      ← List.cons_append, trimRight, List.reverse_append, List.dropWhile_append_of_pos hback,
      hkept _ fun d hd => hbody d (List.mem_reverse.1 hd), List.reverse_reverse]

theorem trim_trim (cs : List Char) : trim (trim cs) = trim cs := by
  have hleft : trimLeft (trim cs) = trim cs := by
    cases htrim : trim cs with
    | nil => rfl
    | cons c rest =>
      obtain ⟨more, hmore⟩ := trimRight_isPrefix (trimLeft cs)
      have hhead := List.head?_dropWhile_not isSpace cs
      rw [← trimLeft, ← hmore, ← trim, htrim] at hhead
      exact List.dropWhile_cons_of_neg (Bool.eq_false_iff.1 hhead)
  rw [trim, hleft]
  exact List.rdropWhile_idempotent isSpace (trimLeft cs)

end RuleCheck.Text
