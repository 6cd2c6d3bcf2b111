import Mathlib.Algebra.Group.Int.Defs
import RuleCheck.Column
import RuleCheck.Proofs.Number.Place

/-!
# What cells take

A cell takes nothing for nothing. Of other values a cell of truth values or of integers takes what
the value is equal to, where false is zero and true is one, a cell of floating point numbers the
double next to it, and a cell of texts its plain text. A NUL at the end of a text does not count
where the text is read as a number.
-/

set_option autoImplicit false

namespace RuleCheck

open Number Text

namespace Number

def Scalar.place? : Scalar → Option Rank
  | .int n => some (.ofInt n)
  | .word _ n => some (.ofInt n)
  | .float x => rank? x
  | .real _ x => rank? x

theorem Scalar.eq_of_place? {m n : Int} (h : (Scalar.int m).place? = some (.ofInt n)) : m = n := by
  have hunit : (twoTo 1074 : Int) ≠ 0 := Int.natCast_ne_zero.2 (Nat.ne_of_gt (twoTo_pos 1074))
  exact Int.eq_of_mul_eq_mul_right hunit (Rank.point.inj (Option.some.inj h))

end Number

namespace Value

/-- The integer that a value is equal to: that of a truth value, the one at the place of a number,
or the one that a text stands for. -/
inductive Worth (v : Value) : Int → Prop
  | truth {b : Bool} (h : v.truth? = some b) : Worth v b.toNat
  | number {x : Scalar} {n : Int} (h : v.number? = some x) (hplace : x.place? = some (.ofInt n)) :
      Worth v n
  | text {s : String} {n : Int} (h : v.text? = some s)
      (hread : readInt? (Column.withoutNul s) = some n) : Worth v n

inductive Near (v : Value) (x : Float) : Prop
  | whole {n : Int} (hworth : v.Worth n) (h : ofInt? n = some x) : Near v x
  | float (h : v.number? = some (.float x)) : Near v x
  | real {type : RealType} (h : v.number? = some (.real type x)) : Near v x
  | text {s : String} (h : v.text? = some s)
      (hread : readFloat? (Column.withoutNul s) = some x) : Near v x

theorem Worth.isNull {v : Value} {n : Int} (h : v.Worth n) : v.isNull = false := by
  have placed {x : Float} (hplace : rank? x = some (.ofInt n)) : isNaN x = false := by
    simpa [hplace] using isSome_rank? x
  cases v with
  | float x =>
    rcases h with h | ⟨h, hplace⟩ | ⟨h, -⟩ <;> cases h
    simp [Value.isNull, kind, placed hplace]
  | real t x =>
    rcases h with h | ⟨h, hplace⟩ | ⟨h, -⟩ <;> cases h
    simp [Value.isNull, kind, placed hplace]
  | null => rcases h with h | ⟨h, -⟩ | ⟨h, -⟩ <;> cases h
  | absent => rcases h with h | ⟨h, -⟩ | ⟨h, -⟩ <;> cases h
  | _ => rfl

end Value

namespace Column

theorem ofOption_eq_fits {o : Option Column} {c : Column} (h : ofOption o = .fits c) :
    o = some c := by
  cases o with
  | none => cases h
  | some d =>
    cases h
    rfl

theorem exists_of_truthOfInt {n : Int} {c : Column} (h : truthOfInt n = some c) :
    ∃ b : Bool, c = .bool (some b) ∧ n = b.toNat := by
  unfold truthOfInt at h
  split at h
  · cases h
    exact ⟨false, rfl, ‹n = 0›⟩
  · split at h
    · cases h
      exact ⟨true, rfl, ‹n = 1›⟩
    · cases h

theorem word64_has_iff {n : Int} : word64.has n = true ↔ -2 ^ 63 ≤ n ∧ n ≤ 2 ^ 63 - 1 := by
  rw [WordType.has, Bool.and_eq_true, decide_eq_true_eq, decide_eq_true_eq]
  rfl

theorem intIfFits_eq_some_iff {n : Int} {c : Column} :
    intIfFits n = some c ↔ word64.has n = true ∧ c = .int (some n) := by
  unfold intIfFits
  rw [Option.ite_none_right_eq_some, Option.some_inj, eq_comm (a := c)]

theorem intIfFits_toNat (b : Bool) : intIfFits b.toNat = some (.int (some b.toNat)) := by
  cases b <;> rfl

inductive Takes (v : Value) : Kind → Column → Prop
  | empty {k : Kind} {c : Column} (hnull : v.isNull = true) (hempty : empty? k = some c) :
      Takes v k c
  | bool {b : Bool} (hworth : v.Worth b.toNat) : Takes v .bool (.bool (some b))
  | int {n : Int} (hworth : v.Worth n) (hrange : word64.has n = true) :
      Takes v .int (.int (some n))
  | float {x : Float} (hnull : v.isNull = false) (hnear : v.Near x) :
      Takes v .float (.float (some x))
  | text {cs : List Char} (hnull : v.isNull = false) (hplain : v.plain? = some cs) :
      Takes v .string (.text (some (String.ofList cs)))
  | derivedText {className s : String} (hvalue : v = .derivedText className s) :
      Takes v .string (.derivedText className s)

section

variable {v : Value} {c : Column} {n : Int}

theorem takes_of_fitBool (h : fitBool v = .fits c) : Takes v .bool c := by
  have whole {n : Int} (hworth : v.Worth n) (h : ofOption (truthOfInt n) = .fits c) :
      Takes v .bool c := by
    obtain ⟨b, rfl, rfl⟩ := exists_of_truthOfInt (ofOption_eq_fits h)
    exact .bool hworth
  cases v with
  | bool b =>
    cases h
    exact .bool (.truth (b := b) rfl)
  | flag b =>
    cases h
    exact .bool (.truth (b := b) rfl)
  | int n => exact whole (.number rfl rfl) h
  | derivedInt _ n => exact whole (.number rfl rfl) h
  | enumerated _ _ n => exact whole (.number rfl rfl) h
  | float x =>
    obtain ⟨n, hn, hc⟩ := Option.bind_eq_some_iff.1 (ofOption_eq_fits h)
    exact whole (.number rfl (toInt?_eq_some_iff.1 hn)) (congrArg ofOption hc)
  | list items =>
    simp only [fitBool] at h
    split at h <;> cases h
  | _ => cases h

/-- A cell of integers takes a value that is equal to one just if it takes the integer. -/
theorem fitInt_of_worth (h : v.Worth n) : fitInt v = intIfFits n := by
  cases h with
  | truth h =>
    cases v with
    | bool _ =>
      cases h
      exact (intIfFits_toNat _).symm
    | flag _ =>
      cases h
      exact (intIfFits_toNat _).symm
    | _ => cases h
  | number h hplace =>
    cases v with
    | int m =>
      cases h
      rw [← Scalar.eq_of_place? hplace, fitInt]
    | derivedInt _ m =>
      cases h
      rw [← Scalar.eq_of_place? hplace, fitInt]
    | enumerated _ _ m =>
      cases h
      rw [← Scalar.eq_of_place? hplace, fitInt]
    | word _ m =>
      cases h
      rw [← Scalar.eq_of_place? hplace, fitInt]
    | float x =>
      cases h
      rw [fitInt, toInt?_eq_some_iff.2 hplace, Option.bind_some]
    | real _ x =>
      cases h
      rw [fitInt, toInt?_eq_some_iff.2 hplace, Option.bind_some]
    | _ => cases h
  | text h hread =>
    cases v with
    | text s =>
      cases h
      rw [fitInt, hread, Option.bind_some]
    | fixedText s =>
      cases h
      rw [fitInt, hread, Option.bind_some]
    | derivedText _ s =>
      cases h
      rw [fitInt, hread, Option.bind_some]
    | _ => cases h

theorem exists_worth_of_fitInt (h : fitInt v = some c) : ∃ n, v.Worth n := by
  have real {x : Float} {y : Scalar} (hv : v.number? = some y) (hy : y.place? = rank? x)
      (h : (toInt? x).bind intIfFits = some c) : ∃ n, v.Worth n := by
    obtain ⟨n, hn, -⟩ := Option.bind_eq_some_iff.1 h
    exact ⟨n, .number hv (hy.trans (toInt?_eq_some_iff.1 hn))⟩
  have text {s : String} (hv : v.text? = some s)
      (h : (readInt? (withoutNul s)).bind intIfFits = some c) : ∃ n, v.Worth n := by
    obtain ⟨n, hn, -⟩ := Option.bind_eq_some_iff.1 h
    exact ⟨n, .text hv hn⟩
  cases v with
  | bool b => exact ⟨_, .truth rfl⟩
  | flag b => exact ⟨_, .truth rfl⟩
  | int n => exact ⟨n, .number rfl rfl⟩
  | derivedInt _ n => exact ⟨n, .number rfl rfl⟩
  | enumerated _ _ n => exact ⟨n, .number rfl rfl⟩
  | word _ n => exact ⟨n, .number rfl rfl⟩
  | float x => exact real rfl rfl h
  | real _ x => exact real rfl rfl h
  | text s => exact text rfl h
  | fixedText s => exact text rfl h
  | derivedText _ s => exact text rfl h
  | _ => cases h

theorem takes_of_fitInt (h : fitInt v = some c) : Takes v .int c := by
  obtain ⟨n, hworth⟩ := exists_worth_of_fitInt h
  rw [fitInt_of_worth hworth] at h
  obtain ⟨hrange, rfl⟩ := intIfFits_eq_some_iff.1 h
  exact .int hworth hrange

theorem takes_of_fitFloat (hnull : v.isNull = false) (h : fitFloat v = some c) :
    Takes v .float c := by
  have whole {n : Int} (hworth : v.Worth n) (h : floatOfInt n = some c) : Takes v .float c := by
    obtain ⟨x, hx, rfl⟩ := Option.map_eq_some_iff.1 h
    exact .float hnull (.whole hworth hx)
  have text {s : String} (hv : v.text? = some s) (h : floatOfText s = some c) :
      Takes v .float c := by
    obtain ⟨x, hx, rfl⟩ := Option.map_eq_some_iff.1 h
    exact .float hnull (.text hv hx)
  cases v with
  | bool b => exact whole (.truth rfl) h
  | flag b => exact whole (.truth rfl) h
  | int n => exact whole (.number rfl rfl) h
  | derivedInt _ n => exact whole (.number rfl rfl) h
  | enumerated _ _ n => exact whole (.number rfl rfl) h
  | word _ n => exact whole (.number rfl rfl) h
  | float x =>
    cases h
    exact .float hnull (.float rfl)
  | real _ x =>
    cases h
    exact .float hnull (.real rfl)
  | text s => exact text rfl h
  | fixedText s => exact text rfl h
  | derivedText _ s => exact text rfl h
  | _ => cases h

theorem takes_of_fitText (hnull : v.isNull = false) (h : fitText v = some c) :
    Takes v .string c := by
  unfold fitText at h
  split at h
  · cases h
    exact .derivedText rfl
  · obtain ⟨cs, hplain, rfl⟩ := Option.map_eq_some_iff.1 h
    exact .text hnull hplain

/-- What fits into a column of a kind is what a cell of the kind takes. -/
theorem takes_of_fit {k : Kind} (h : fit? k v = some (.fits c)) : Takes v k c := by
  obtain ⟨empty, hempty, hfit⟩ := Option.map_eq_some_iff.1 h
  by_cases hnull : v.isNull = true
  · rw [if_pos hnull] at hfit
    cases hfit
    exact .empty hnull hempty
  · rw [if_neg hnull] at hfit
    rw [Bool.not_eq_true] at hnull
    cases k with
    | bool => exact takes_of_fitBool hfit
    | int => exact takes_of_fitInt (ofOption_eq_fits hfit)
    | float => exact takes_of_fitFloat hnull (ofOption_eq_fits hfit)
    | string => exact takes_of_fitText hnull (ofOption_eq_fits hfit)
    | unknown => cases hempty
    | missing => cases hempty

/-- An integer beyond the cells of integers does not fit, in whatever form it is given. -/
theorem fit?_int_of_worth (hworth : v.Worth n) (hrange : ¬ word64.has n = true) :
    fit? .int v = some .misfit := by
  have hfit : fitInt v = none := by
    rw [fitInt_of_worth hworth]
    exact if_neg hrange
  simp only [fit?, empty?, hworth.isNull, hfit]
  rfl

end

end Column

end RuleCheck
