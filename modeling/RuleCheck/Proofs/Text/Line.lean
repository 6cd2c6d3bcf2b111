import Mathlib.Data.List.Count
import RuleCheck.Text.Quoted

/-!
# Lines of a text

Readers differ in the characters that they take for the end of a line: a written break is one for
all of them, others are for some. A printable character never is, so a quoted text stays on its line
for every reader.
-/

set_option autoImplicit false

namespace RuleCheck.Text

def lineBreakRanges : Ranges := [(0xA, 0xD), (0x1C, 0x1E), (0x85, 0x85), (0x2028, 0x2029)]

def isLineBreak (c : Char) : Bool := lineBreakRanges.has c.toNat

structure EndsLines (isBreak : Char → Bool) : Prop where
  written : isBreak '\n' = true
  within : ∀ c, isBreak c = true → isLineBreak c = true

def OnOneLine (isBreak : Char → Bool) (cs : List Char) : Prop := ∀ c ∈ cs, isBreak c = false

instance (isBreak : Char → Bool) (cs : List Char) : Decidable (OnOneLine isBreak cs) :=
  inferInstanceAs (Decidable (∀ c ∈ cs, isBreak c = false))

def lines (isBreak : Char → Bool) : List Char → List (List Char)
  | [] => []
  | c :: cs =>
    if isBreak c then [] :: lines isBreak cs
    else
      match lines isBreak cs with
      | [] => [[c]]
      | l :: ls => (c :: l) :: ls

section

variable {isBreak : Char → Bool} {cs : List Char} {b : Char}

theorem lines_ended_ne_nil (hb : isBreak b = true) (cs : List Char) :
    lines isBreak (cs ++ [b]) ≠ [] := by
  cases cs with
  | nil => simp [lines, hb]
  | cons c cs =>
    rw [List.cons_append, lines]
    split
    · exact List.cons_ne_nil _ _
    · split <;> exact List.cons_ne_nil _ _

theorem lines_append_ended (hb : isBreak b = true) (cs rest : List Char) :
    lines isBreak (cs ++ b :: rest) = lines isBreak (cs ++ [b]) ++ lines isBreak rest := by
  induction cs with
  | nil => simp [lines, hb]
  | cons c cs ih =>
    rw [List.cons_append, List.cons_append, lines, lines, ih]
    obtain ⟨l, ls, hls⟩ := List.exists_cons_of_ne_nil (lines_ended_ne_nil hb cs)
    rw [hls]
    split <;> rfl

theorem length_lines_ended (hb : isBreak b = true) (cs : List Char) :
    (lines isBreak (cs ++ [b])).length = cs.countP isBreak + 1 := by
  induction cs with
  | nil => simp [lines, hb]
  | cons c cs ih =>
    obtain ⟨l, ls, hls⟩ := List.exists_cons_of_ne_nil (lines_ended_ne_nil hb cs)
    rw [hls, List.length_cons] at ih
    rw [List.cons_append, lines, List.countP_cons, hls]
    cases hc : isBreak c with
    | true => simpa using ih
    | false => simpa using ih

theorem countP_eq_zero_iff : cs.countP isBreak = 0 ↔ OnOneLine isBreak cs := by
  rw [List.countP_eq_zero]
  exact forall₂_congr fun c _ => iff_of_eq (Bool.not_eq_true _)

theorem lines_of_onOneLine (hb : isBreak b = true) (h : OnOneLine isBreak cs) :
    lines isBreak (cs ++ [b]) = [cs] := by
  induction cs with
  | nil => simp [lines, hb]
  | cons c cs ih =>
    obtain ⟨hc, hcs⟩ := List.forall_mem_cons.1 h
    rw [List.cons_append, lines, ih hcs, hc]
    rfl

/-- A text is one line of its own just if nothing in it ends a line. -/
theorem lines_eq_singleton_iff (hb : isBreak b = true) :
    lines isBreak (cs ++ [b]) = [cs] ↔ OnOneLine isBreak cs := by
  refine ⟨fun h => ?_, lines_of_onOneLine hb⟩
  have hlength := length_lines_ended hb cs
  rw [h, List.length_singleton] at hlength
  exact countP_eq_zero_iff.1 (by omega)

/-- The characters that end a line for some reader are these ten. -/
theorem mem_of_isLineBreak (h : isLineBreak b = true) :
    b.toNat ∈ [10, 11, 12, 13, 28, 29, 30, 0x85, 0x2028, 0x2029] := by
  simp only [isLineBreak, lineBreakRanges, Ranges.has] at h
  simp only [List.mem_cons, List.not_mem_nil, or_false]
  grind

theorem not_isLineBreak_of_isPrintable (h : isPrintable b = true) : isLineBreak b = false := by
  cases hb : isLineBreak b with
  | false => rfl
  | true =>
    have hbreaks : ∀ n ∈ [10, 11, 12, 13, 28, 29, 30, 0x85, 0x2028, 0x2029],
        printableRanges.has n = false := by decide +kernel
    rw [isPrintable, hbreaks b.toNat (mem_of_isLineBreak hb)] at h
    cases h

theorem isLineBreak_hexDigit {n : Nat} (h : n < 16) : isLineBreak (hexDigit n) = false := by
  revert n
  decide

theorem unbroken_hexDigits (width n : Nat) : ∀ b ∈ hexDigits width n, isLineBreak b = false := by
  induction width generalizing n with
  | zero => exact List.forall_mem_nil _
  | succ width ih =>
    rw [hexDigits, List.forall_mem_append, List.forall_mem_singleton]
    exact ⟨ih _, isLineBreak_hexDigit (Nat.mod_lt _ (by decide))⟩

theorem unbroken_codePointEscape (n : Nat) :
    ∀ b ∈ codePointEscape n, isLineBreak b = false := by
  unfold codePointEscape
  split_ifs <;> rw [List.forall_mem_cons, List.forall_mem_cons] <;>
    exact ⟨by decide, by decide, unbroken_hexDigits _ _⟩

theorem unbroken_escapeChar {quote : Char} (hquote : isLineBreak quote = false) (c : Char) :
    ∀ b ∈ escapeChar quote c, isLineBreak b = false := by
  unfold escapeChar
  split_ifs with hself hn hr ht hprintable
  · rw [List.forall_mem_cons, List.forall_mem_singleton]
    refine ⟨by decide, ?_⟩
    rcases Bool.or_eq_true_iff.1 hself with hc | hc
    · rwa [beq_iff_eq.1 hc]
    · rw [beq_iff_eq.1 hc]
      decide
  · decide
  · decide
  · decide
  · rw [List.forall_mem_singleton]
    exact not_isLineBreak_of_isPrintable hprintable
  · exact unbroken_codePointEscape _

theorem isLineBreak_quoteFor (cs : List Char) : isLineBreak (quoteFor cs) = false := by
  unfold quoteFor
  split <;> decide

end

namespace EndsLines

variable {isBreak : Char → Bool} (h : EndsLines isBreak) {cs : List Char}
include h

theorem onOneLine_of_isLineBreak (hcs : ∀ c ∈ cs, isLineBreak c = false) :
    OnOneLine isBreak cs := by
  intro c hc
  cases hbreak : isBreak c with
  | false => rfl
  | true => exact absurd (h.within c hbreak) (Bool.not_eq_true _ ▸ hcs c hc)

theorem onOneLine_quotedChars (cs : List Char) : OnOneLine isBreak (quotedChars cs) := by
  refine h.onOneLine_of_isLineBreak ?_
  have hquote := isLineBreak_quoteFor cs
  rw [quotedChars, List.cons_append, List.forall_mem_cons, List.forall_mem_append,
    List.forall_mem_singleton]
  refine ⟨hquote, fun b hb => ?_, hquote⟩
  obtain ⟨c, -, hc⟩ := List.mem_flatMap.1 hb
  exact unbroken_escapeChar hquote c b hc

end EndsLines

end RuleCheck.Text
