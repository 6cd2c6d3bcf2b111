import RuleCheck.Number.Numeral

/-!
# Decimal numerals

The ten plain digits among the digits of all scripts, and the decimal numeral of a natural
number, which is read as that number as long as it is not too long.
-/

set_option autoImplicit false

namespace RuleCheck

open Number Text

namespace Number

def plainDigits : List Char := ['0', '1', '2', '3', '4', '5', '6', '7', '8', '9']

structure Plain (c : Char) : Prop where
  value : digitValue? c = some (c.toNat - '0'.toNat)
  digit : Text.isDigit c = true
  solid : isSpace c = false
  ne_minus : c ≠ '-'
  ne_plus : c ≠ '+'
  ne_lowLine : c ≠ '_'
  ne_point : c ≠ '.'
  ne_e : c ≠ 'e'
  ne_E : c ≠ 'E'

theorem mem_plainDigits {c : Char} (h : c.isDigit = true) : c ∈ plainDigits := by
  have hc : 48 ≤ c.toNat ∧ c.toNat ≤ 57 := by
    simpa [Char.isDigit, UInt32.le_iff_toNat_le] using h
  have hall : ∀ n < 58, 48 ≤ n → Char.ofNat n ∈ plainDigits := by decide
  have hmem := hall c.toNat (by omega) hc.1
  rwa [Char.ofNat_toNat] at hmem

theorem plain_of_mem {c : Char} (h : c ∈ plainDigits) : Plain c := by
  simp only [plainDigits, List.mem_cons, List.not_mem_nil, or_false] at h
  rcases h with rfl | rfl | rfl | rfl | rfl | rfl | rfl | rfl | rfl | rfl <;>
    constructor <;> decide

theorem plain_of_mem_toDigits {n : Nat} {c : Char} (h : c ∈ Nat.toDigits 10 n) : Plain c :=
  plain_of_mem (mem_plainDigits (Nat.isDigit_of_mem_toDigits (by decide) (by decide) h))

theorem exists_toDigits (n : Nat) :
    ∃ c cs, Nat.toDigits 10 n = c :: cs ∧ ∀ d ∈ c :: cs, Plain d := by
  obtain ⟨c, cs, hds⟩ := List.exists_cons_of_ne_nil (Nat.toDigits_ne_nil (n := n) (b := 10))
  exact ⟨c, cs, hds, fun d hd => plain_of_mem_toDigits (hds ▸ hd)⟩

theorem withoutPadding_of_solid {cs : List Char} (h : ∀ c ∈ cs, isSpace c = false) :
    withoutPadding cs = cs := by
  have drop (ds : List Char) (hds : ∀ c ∈ ds, isSpace c = false) :
      ds.dropWhile isPadding = ds := by
    cases ds with
    | nil => rfl
    | cons d ds =>
      exact List.dropWhile_cons_of_neg (by simp [isPadding, hds d List.mem_cons_self])
  rw [withoutPadding, drop cs h, drop cs.reverse fun c hc => h c (List.mem_reverse.1 hc),
    List.reverse_reverse]

theorem withoutPadding_of_plain {cs : List Char} (h : ∀ c ∈ cs, Plain c) :
    withoutPadding cs = cs :=
  withoutPadding_of_solid fun c hc => (h c hc).solid

theorem splitSign_of_plain {cs : List Char} (h : ∀ c ∈ cs, Plain c) :
    splitSign cs = (false, cs) := by
  cases cs with
  | nil => rfl
  | cons c cs =>
    have hc := h c List.mem_cons_self
    unfold splitSign
    split
    · rename_i heq
      injection heq with heq
      exact absurd heq hc.ne_minus
    · rename_i heq
      injection heq with heq
      exact absurd heq hc.ne_plus
    · rfl

theorem groupedDigits?_of_plain {c : Char} {cs : List Char} (h : ∀ d ∈ c :: cs, Plain d) :
    groupedDigits? (c :: cs) = some ((c :: cs).map fun d => d.toNat - '0'.toNat) := by
  induction cs generalizing c with
  | nil => simp [groupedDigits?, (h c List.mem_cons_self).value]
  | cons d cs ih =>
    have hc := h c List.mem_cons_self
    have hd := h d (List.mem_cons_of_mem c List.mem_cons_self)
    have hrest := ih fun e he => h e (List.mem_cons_of_mem c he)
    rw [groupedDigits?, hc.value, hrest]
    · rfl
    · simp
    · intro rest heq
      injection heq with heq
      exact hd.ne_lowLine heq

/-- The decimal numeral of a natural number is read as this number, unless it is too long. -/
theorem readInt?_toDigits_eq (n : Nat) :
    readInt? (Nat.toDigits 10 n) =
      if (Nat.toDigits 10 n).length ≤ maxDigits then some (n : Int) else none := by
  have hplain : ∀ c ∈ Nat.toDigits 10 n, Plain c := fun c => plain_of_mem_toDigits
  have hplaces : groupedDigits? (Nat.toDigits 10 n) =
      some ((Nat.toDigits 10 n).map fun d => d.toNat - '0'.toNat) := by
    obtain ⟨c, cs, hds, hplain⟩ := exists_toDigits n
    rw [hds]
    exact groupedDigits?_of_plain hplain
  have hvalue : ofPlaces ((Nat.toDigits 10 n).map fun d => d.toNat - '0'.toNat) = n := by
    rw [ofPlaces, List.foldl_map]
    exact Nat.ofDigitChars_ten_toDigits
  unfold readInt?
  rw [withoutPadding_of_plain hplain, splitSign_of_plain hplain]
  show (groupedDigits? (Nat.toDigits 10 n)).bind _ = _
  rw [hplaces, Option.bind_some, List.length_map, hvalue]
  show (if _ then some () else none).bind _ = _
  by_cases hn : (Nat.toDigits 10 n).length ≤ maxDigits
  · rw [if_pos hn, if_pos hn]
    rfl
  · rw [if_neg hn, if_neg hn]
    rfl

theorem readInt?_toDigits {n : Nat} (hn : (Nat.toDigits 10 n).length ≤ maxDigits) :
    readInt? (Nat.toDigits 10 n) = some (n : Int) := by
  rw [readInt?_toDigits_eq, if_pos hn]

end Number

end RuleCheck
