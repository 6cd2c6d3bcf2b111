import RuleCheck.Proofs.Number.Place
import RuleCheck.Proofs.Value.Sorted

/-!
# The order of operands

Two operands of one sort are less, equal or greater, and the six comparisons say which. Operands
of two sorts are first brought to one, in the same way for every comparison, or refused by every
comparison. The exception is a text that spells a NaN beside a number: it is no longer nothing
when it is read, so the two are compared and found in no order.
-/

set_option autoImplicit false

namespace RuleCheck

open Number Text

structure Consistent (truth : Comparison → Bool) : Prop where
  one : [truth .lt, truth .eq, truth .gt].count true = 1
  ne : truth .ne = !truth .eq
  ge : truth .ge = !truth .lt
  le : truth .le = !truth .gt

theorem Comparison.consistent_holds (o : Ordering) : Consistent fun op => op.holds (some o) := by
  cases o <;> exact ⟨rfl, rfl, rfl, rfl⟩

namespace Number

theorem Scalar.isSome_order? (a b : Option Rank) :
    (order? a b).isSome = (a.isSome && b.isSome) := by
  cases a <;> cases b <;> rfl

end Number

/-- Two numbers of no fixed size compare, unless one of them is a NaN. -/
theorem Admitted.exists_compare {floats : Bool} {x y : Scalar} (hx : Admitted floats x)
    (hy : Admitted floats y) :
    ∃ o, x.compare? y = .ok o ∧ o.isSome = (!x.isNaN && !y.isNaN) := by
  cases hx with
  | int m =>
    cases hy with
    | int n => exact ⟨_, rfl, rfl⟩
    | float b _ =>
      refine ⟨_, rfl, ?_⟩
      rw [Scalar.isSome_order?, isSome_rank?]
      rfl
  | float a _ =>
    cases hy with
    | int n =>
      refine ⟨_, rfl, ?_⟩
      rw [Scalar.isSome_order?, isSome_rank?]
      rfl
    | float b _ =>
      refine ⟨_, rfl, ?_⟩
      rw [Scalar.isSome_order?, isSome_rank?, isSome_rank?]
      rfl

namespace Value

variable {v w : Value} {s t : String} {x y : Scalar} {o : Option Ordering}

theorem textOrder_eq_iff : textOrder s t = .eq ↔ s = t := by
  unfold textOrder compareOfLessAndEq
  by_cases hlt : s < t
  · rw [if_pos hlt]
    exact ⟨nofun, fun h => absurd (h ▸ hlt) (String.lt_irrefl t)⟩
  · rw [if_neg hlt]
    by_cases heq : s = t
    · rw [if_pos heq]
      exact ⟨fun _ => heq, fun _ => rfl⟩
    · rw [if_neg heq]
      exact ⟨nofun, fun h => absurd h heq⟩

theorem text?_of_scalar (hv : v.scalar? = some x) : v.text? = none := by
  cases v <;> first | rfl | cases hv

theorem scalar?_of_text (hv : v.text? = some s) : v.scalar? = none := by
  cases v <;> first | rfl | cases hv

inductive Aligned (v w : Value) : Option Ordering → Prop
  | scalars {x y : Scalar} {o : Option Ordering} (hv : v.scalar? = some x)
      (hw : w.scalar? = some y) (ho : x.compare? y = .ok o) : Aligned v w o
  | texts {s t : String} (hv : v.text? = some s) (hw : w.text? = some t) :
      Aligned v w (some (textOrder s t))

def byText {α : Type} (texts : String → String → α) (other : α) (v w : Value) : α :=
  match v.text?, w.text? with
  | some s, some t => texts s t
  | _, _ => other

def byContent {α : Type} (numbers : Scalar → Scalar → α) (texts : String → String → α) (other : α)
    (v w : Value) : α :=
  match v.scalar?, w.scalar? with
  | some x, some y => numbers x y
  | _, _ => byText texts other v w

/-- A value that is worth a number or holds a text is ordered by its content, beside anything. -/
theorem order?_eq (h : (v.scalar?.isSome ∨ v.text?.isSome) ∨
    (w.scalar?.isSome ∨ w.text?.isSome)) :
    order? v w = byContent (fun x y => (x.compare? y).mapError Failure.number)
      (fun s t => .ok (some (textOrder s t))) (.error .unordered) v w := by
  unfold order?
  split
  case h_3 => rfl
  all_goals rcases h with (h | h) | (h | h) <;> cases h

theorem same_eq (h : (v.scalar?.isSome ∨ v.text?.isSome) ∨
    (w.scalar?.isSome ∨ w.text?.isSome)) :
    same v w = byContent
      (fun x y => match x.compare? y with
        | .ok o => o == some .eq
        | .error _ => false)
      (· == ·) false v w := by
  unfold same
  split
  case h_6 => rfl
  all_goals rcases h with (h | h) | (h | h) <;> cases h

namespace Aligned

/-- Every comparison of two values of one sort follows from how they compare. -/
theorem compareAs (h : Aligned v w o) (op : Comparison) :
    Value.compareAs op v w = .ok (op.holds o) := by
  have hboth : order? v w = .ok o ∧ same v w = (o == some .eq) := by
    cases h with
    | scalars hv hw ho =>
      have hsome : v.scalar?.isSome ∨ v.text?.isSome := .inl (Option.isSome_of_eq_some hv)
      constructor
      · rw [order?_eq (.inl hsome), byContent, hv, hw]
        exact congrArg (Except.mapError Failure.number) ho
      · rw [same_eq (.inl hsome), byContent, hv, hw]
        simp only [ho]
    | @texts s t hv hw =>
      have hsome : v.scalar?.isSome ∨ v.text?.isSome := .inr (Option.isSome_of_eq_some hv)
      rw [order?_eq (.inl hsome), same_eq (.inl hsome), byContent, byContent, byText, byText,
        scalar?_of_text hv, hv, hw]
      refine ⟨rfl, ?_⟩
      rw [Bool.eq_iff_iff, beq_iff_eq, beq_iff_eq, Option.some_inj, textOrder_eq_iff]
  have hordered : (do return op.holds (← order? v w)) = Except.ok (ε := Failure) (op.holds o) := by
    rw [hboth.1]
    rfl
  cases op with
  | eq =>
    rw [Value.compareAs, hboth.2]
    cases o <;> rfl
  | ne =>
    rw [Value.compareAs, hboth.2]
    cases o with
    | none => rfl
    | some o => cases o <;> rfl
  | _ => exact hordered

/-- Without distinctions of case two values compare if they did before. -/
theorem exists_foldCase (h : Aligned v w o) :
    ∃ o', Aligned (foldCase v w).1 (foldCase v w).2 o' ∧ o'.isSome = o.isSome := by
  cases h with
  | scalars hv hw ho =>
    simp only [foldCase, text?_of_scalar hv]
    exact ⟨o, .scalars hv hw ho, rfl⟩
  | texts hv hw =>
    simp only [foldCase, hv, hw]
    refine ⟨_, .texts rfl rfl, ?_⟩
    rw [Option.isSome_some, Option.isSome_some]

end Aligned

/-- Truth values, numbers of no fixed size that are no NaN, and texts. -/
inductive Comparand : Value → ValueSort → Prop
  | truth {v : Value} {b : Bool} (h : v.truth? = some b) : Comparand v .truth
  | number {v : Value} {x : Scalar} (h : v.number? = some x) (hx : Admitted true x)
      (hnan : x.isNaN = false) : Comparand v .number
  | text {v : Value} {s : String} (h : v.text? = some s) : Comparand v .text

def spellsNaN (s : String) : Bool :=
  match readInt? (trim s.toList), readFloat? (trim s.toList) with
  | none, some x => isNaN x
  | _, _ => false

def besideNaN (a b : Value) : Bool :=
  match a.text?, b.text? with
  | some s, none => b.number?.isSome && spellsNaN s
  | none, some s => a.number?.isSome && spellsNaN s
  | _, _ => false

/-- A text is read as the same number for every symbol, or refused for every symbol. -/
theorem readNumber_cases (s : String) :
    (∃ x, Admitted true x ∧ x.isNaN = spellsNaN s ∧ ∀ symbol, readNumber symbol s = .ok x) ∨
      (spellsNaN s = false ∧
        ∀ symbol, readNumber symbol s = .error (.unfit (.numberText symbol s))) := by
  simp only [readNumber, spellsNaN]
  cases readInt? (trim s.toList) with
  | some n => exact .inl ⟨.int n, .int n, rfl, fun _ => rfl⟩
  | none =>
    cases readFloat? (trim s.toList) with
    | some x => exact .inl ⟨.float x, .float x rfl, rfl, fun _ => rfl⟩
    | none => exact .inr ⟨rfl, fun _ => rfl⟩

theorem readTruth_cases (s : String) :
    (∃ b, ∀ symbol, readTruth symbol s = .ok b) ∨
      ∀ symbol, readTruth symbol s = .error (.unfit (.truthText symbol s)) := by
  simp only [readTruth]
  split
  · exact .inl ⟨true, fun _ => rfl⟩
  · split
    · exact .inl ⟨false, fun _ => rfl⟩
    · exact .inr fun _ => rfl

namespace Comparand

variable {a b : Value} {r r' : ValueSort}

theorem sort?_kind (ha : Comparand a r) : a.kind.sort? = some r := by
  cases ha with
  | truth h => cases a <;> cases h <;> rfl
  | number h hx hnan =>
    cases a with
    | int n => rfl
    | derivedInt name n => rfl
    | enumerated name case n => rfl
    | float x =>
      cases h
      have hkind : (Value.float x).kind = .float := if_neg (Bool.eq_false_iff.1 hnan)
      rw [hkind]
      rfl
    | word t n =>
      cases h
      cases hx
    | real t x =>
      cases h
      cases hx
    | _ => cases h
  | text h => cases a <;> cases h <;> rfl

theorem isNull (ha : Comparand a r) : a.isNull = false := by
  have hsort := ha.sort?_kind
  rw [Value.isNull, beq_eq_false_iff_ne]
  intro hkind
  rw [hkind] at hsort
  cases hsort

theorem text?_eq_none (ha : Comparand a r) (hr : r ≠ .text) : a.text? = none := by
  cases ha with
  | truth h => cases a <;> first | rfl | cases h
  | number h _ _ => cases a <;> first | rfl | cases h
  | text h => exact absurd rfl hr

theorem scalar?_of_number {x : Scalar} (h : a.number? = some x) : a.scalar? = some x := by
  cases a <;> first | exact h | cases h

theorem scalar?_of_truth {c : Bool} (h : a.truth? = some c) :
    a.scalar? = some (.int c.toNat) := by
  cases a <;> cases h <;> rfl

theorem exists_scalar (ha : Comparand a r) (hr : r ≠ .text) :
    ∃ x, a.scalar? = some x ∧ Admitted true x ∧ x.isNaN = false := by
  cases ha with
  | truth h => exact ⟨_, scalar?_of_truth h, .int _, rfl⟩
  | number h hx hnan => exact ⟨_, scalar?_of_number h, hx, hnan⟩
  | text h => exact absurd rfl hr

theorem aligned (ha : Comparand a r) (hb : Comparand b r) : ∃ o, Aligned a b (some o) := by
  by_cases hr : r = .text
  · subst hr
    cases ha with
    | text hs =>
      cases hb with
      | text ht => exact ⟨_, .texts hs ht⟩
  · obtain ⟨x, hx, hadmitted, hnan⟩ := ha.exists_scalar hr
    obtain ⟨y, hy, hadmitted', hnan'⟩ := hb.exists_scalar hr
    obtain ⟨o, ho, hsome⟩ := hadmitted.exists_compare hadmitted'
    rw [hnan, hnan'] at hsome
    obtain ⟨o, rfl⟩ := Option.isSome_iff_exists.1 hsome
    exact ⟨o, .scalars hx hy ho⟩

theorem number?_of_truth {c : Bool} (h : a.truth? = some c) : a.number? = none := by
  cases a <;> first | rfl | cases h

end Comparand

inductive Met (a b : Value) : Bool → Prop
  | refused (h : ∀ symbol, ∃ u : Unfit, agree symbol a b = .error (.unfit u) ∧
      u.reason = .typeMismatch) : Met a b false
  | aligned {nan : Bool} {v w : Value} {o : Option Ordering}
      (hagree : ∀ symbol, agree symbol a b = .ok (v, w)) (ho : Aligned v w o)
      (hnan : o.isSome = !nan) : Met a b nan

section

variable {a b : Value} {r r' : ValueSort} {s symbol : String} {k : Kind}

theorem readBeside_numeric (hk : k.isNumeric = true) :
    readBeside symbol s k = do return some (ofScalar (← readNumber symbol s)) := by
  rcases Kind.eq_of_isNumeric hk with rfl | rfl
  · rfl
  · rfl

theorem Comparand.not_meets (ha : Comparand a r) (hb : Comparand b r') (hr : r ≠ r') :
    ¬ (a.kind = b.kind ∨ (a.kind.isNumeric ∧ b.kind.isNumeric)) := by
  rw [Kind.meets_iff ha.sort?_kind, ha.sort?_kind, hb.sort?_kind]
  exact fun h => hr (Option.some.inj h)

theorem Comparand.met_self (ha : Comparand a r) (hb : Comparand b r) :
    Met a b (besideNaN a b) := by
  have hkinds : a.kind = b.kind ∨ (a.kind.isNumeric ∧ b.kind.isNumeric) := by
    rw [Kind.meets_iff ha.sort?_kind, ha.sort?_kind, hb.sort?_kind]
  have hbeside : besideNaN a b = false := by
    by_cases hr : r = .text
    · subst hr
      cases ha with
      | text hs =>
        cases hb with
        | text ht => simp only [besideNaN, hs, ht]
    · simp only [besideNaN, ha.text?_eq_none hr, hb.text?_eq_none hr]
  obtain ⟨o, ho⟩ := ha.aligned hb
  rw [hbeside]
  exact .aligned (fun symbol => agree_of_kinds symbol hkinds) ho rfl

inductive Beside (s : String) (b : Value) : Prop
  | refused (h : ∀ symbol, ∃ u : Unfit, readBeside symbol s b.kind = .error (.unfit u) ∧
      u.reason = .typeMismatch) (hnan : (b.number?.isSome && spellsNaN s) = false) : Beside s b
  | read {v : Value} {x : Scalar} (h : ∀ symbol, readBeside symbol s b.kind = .ok (some v))
      (hv : v.scalar? = some x) (hx : Admitted true x)
      (hnan : x.isNaN = (b.number?.isSome && spellsNaN s)) : Beside s b

theorem Comparand.beside (hb : Comparand b r) (hr : r ≠ .text) (s : String) : Beside s b := by
  have hsort := hb.sort?_kind
  cases hb with
  | text h => exact absurd rfl hr
  | truth h =>
    have hkind : b.kind = .bool := by
      cases hk : b.kind <;> rw [hk] at hsort <;> first | rfl | cases hsort
    have hnumber : (b.number?.isSome && spellsNaN s) = false := by
      rw [number?_of_truth h, Option.isSome_none, Bool.false_and]
    rcases readTruth_cases s with ⟨c, hread⟩ | hrefused
    · refine .read (v := .bool c) (fun symbol => ?_) rfl (.int _) hnumber.symm
      rw [hkind, readBeside, hread]
      rfl
    · refine .refused (fun symbol => ⟨.truthText symbol s, ?_, rfl⟩) hnumber
      rw [hkind, readBeside, hrefused]
      rfl
  | number h hx hnan =>
    have hkind : b.kind.isNumeric = true := by
      cases hk : b.kind <;> rw [hk] at hsort <;> first | rfl | cases hsort
    have hnumber : (b.number?.isSome && spellsNaN s) = spellsNaN s := by
      rw [h, Option.isSome_some, Bool.true_and]
    rcases readNumber_cases s with ⟨y, hy, hspells, hread⟩ | ⟨hspells, hrefused⟩
    · refine .read (v := ofScalar y) (fun symbol => ?_) ?_ hy (hspells.trans hnumber.symm)
      · rw [readBeside_numeric hkind, hread]
        rfl
      · cases hy <;> rfl
    · refine .refused (fun symbol => ⟨.numberText symbol s, ?_, rfl⟩) (hnumber.trans hspells)
      rw [readBeside_numeric hkind, hrefused]
      rfl

/-- A text is read as a value of the sort of the operand beside it, on whichever side it is. -/
theorem Met.of_beside {c : Value} (pair : Value → Value × Value)
    (hread : ∀ symbol v, readBeside symbol s c.kind = .ok (some v) →
      agree symbol a b = .ok (pair v))
    (hrefuse : ∀ symbol f, readBeside symbol s c.kind = .error f → agree symbol a b = .error f)
    (halign : ∀ v x, v.scalar? = some x → Admitted true x →
      ∃ o, Aligned (pair v).1 (pair v).2 o ∧ o.isSome = !x.isNaN)
    (h : Beside s c) : Met a b (c.number?.isSome && spellsNaN s) := by
  cases h with
  | refused h hfalse =>
    rw [hfalse]
    refine .refused fun symbol => ?_
    obtain ⟨u, hu, hreason⟩ := h symbol
    exact ⟨u, hrefuse symbol _ hu, hreason⟩
  | read h hv hx hspells =>
    obtain ⟨o, ho, hsome⟩ := halign _ _ hv hx
    rw [hspells] at hsome
    exact .aligned (fun symbol => hread symbol _ (h symbol)) ho hsome

theorem Comparand.met_left (hs : a.text? = some s) (hb : Comparand b r) (hr : r ≠ .text) :
    Met a b (besideNaN a b) := by
  have hkinds := (Comparand.text hs).not_meets hb hr.symm
  have hnone := hb.text?_eq_none hr
  have hnan : besideNaN a b = (b.number?.isSome && spellsNaN s) := by
    simp only [besideNaN, hs, hnone]
  obtain ⟨y, hy, hadmitted, hdefinite⟩ := hb.exists_scalar hr
  rw [hnan]
  refine .of_beside (fun v => (v, b)) (fun symbol v h => ?_) (fun symbol f h => ?_)
    (fun v x hv hx => ?_) (hb.beside hr s)
  · simp only [agree, if_neg hkinds, hs, hnone, h]
    rfl
  · simp only [agree, if_neg hkinds, hs, hnone, h]
    rfl
  · obtain ⟨o, ho, hsome⟩ := hx.exists_compare hadmitted
    rw [hdefinite, Bool.not_false, Bool.and_true] at hsome
    exact ⟨o, .scalars hv hy ho, hsome⟩

theorem Comparand.met_right (ha : Comparand a r) (hr : r ≠ .text) (hs : b.text? = some s) :
    Met a b (besideNaN a b) := by
  have hkinds := ha.not_meets (Comparand.text hs) hr
  have hnone := ha.text?_eq_none hr
  have hnan : besideNaN a b = (a.number?.isSome && spellsNaN s) := by
    simp only [besideNaN, hs, hnone]
  obtain ⟨y, hy, hadmitted, hdefinite⟩ := ha.exists_scalar hr
  rw [hnan]
  refine .of_beside (fun v => (a, v)) (fun symbol v h => ?_) (fun symbol f h => ?_)
    (fun v x hv hx => ?_) (ha.beside hr s)
  · simp only [agree, if_neg hkinds, hs, hnone, h]
    rfl
  · simp only [agree, if_neg hkinds, hs, hnone, h]
    rfl
  · obtain ⟨o, ho, hsome⟩ := hadmitted.exists_compare hx
    rw [hdefinite, Bool.not_false, Bool.true_and] at hsome
    exact ⟨o, .scalars hy hv ho, hsome⟩

theorem Comparand.met (ha : Comparand a r) (hb : Comparand b r') : Met a b (besideNaN a b) := by
  by_cases hsame : r = r'
  · subst hsame
    exact ha.met_self hb
  by_cases hr : r = .text
  · subst hr
    cases ha with
    | text hs => exact met_left hs hb (Ne.symm hsame)
  by_cases hr' : r' = .text
  · subst hr'
    cases hb with
    | text hs => exact ha.met_right hr hs
  -- A number and a truth value are refused.
  have hnone := ha.text?_eq_none hr
  have hnone' := hb.text?_eq_none hr'
  have hnan : besideNaN a b = false := by simp only [besideNaN, hnone, hnone']
  rw [hnan]
  refine .refused fun symbol => ⟨.pair symbol a.kind b.kind, ?_, rfl⟩
  simp only [agree, if_neg (ha.not_meets hb hsame), hnone, hnone']
  rfl

/-- Two operands that are each a truth value, a number but no NaN, or a text are refused by all
comparisons for the mismatch of their types, or compared by all of them, and then one of less,
equal and greater holds and the other three comparisons are their contraries. The exception is
a text that spells a NaN beside a number, which are different and nothing else. -/
theorem compare_consistent (ha : Comparand a r) (hb : Comparand b r') (keepCase : Bool) :
    (besideNaN a b = false →
      (∀ op, ∃ u, compare op keepCase a b = .error (.unfit u) ∧ u.reason = .typeMismatch) ∨
        ∃ truth, Consistent truth ∧ ∀ op, compare op keepCase a b = .ok (some (truth op))) ∧
    (besideNaN a b = true → ∀ op, compare op keepCase a b = .ok (some (op == .ne))) := by
  have hnull : ¬ (a.isNull || b.isNull) = true := by
    rw [ha.isNull, hb.isNull]
    exact Bool.false_ne_true
  have compared {v w : Value} {o : Option Ordering}
      (hagree : ∀ symbol, agree symbol a b = .ok (v, w)) (ho : Aligned v w o) :
      ∃ o', o'.isSome = o.isSome ∧ ∀ op, compare op keepCase a b = .ok (some (op.holds o')) := by
    obtain ⟨o', ho', hsome⟩ := ho.exists_foldCase
    cases keepCase with
    | true =>
      refine ⟨o, rfl, fun op => ?_⟩
      simp only [compare, if_neg hnull, hagree, bind, Except.bind, if_true, ho.compareAs op]
      rfl
    | false =>
      refine ⟨o', hsome, fun op => ?_⟩
      simp only [compare, if_neg hnull, hagree, bind, Except.bind, Bool.false_eq_true, if_false,
        ho'.compareAs op]
      rfl
  have hmet := ha.met hb
  constructor
  · intro hfalse
    rw [hfalse] at hmet
    cases hmet with
    | refused h =>
      refine .inl fun op => ?_
      obtain ⟨u, hu, hreason⟩ := h op.symbol
      refine ⟨u, ?_, hreason⟩
      simp only [compare, if_neg hnull, hu, bind, Except.bind]
    | aligned hagree ho hnan =>
      obtain ⟨o', hsome, hcompare⟩ := compared hagree ho
      obtain ⟨o', rfl⟩ := Option.isSome_iff_exists.1 (hsome.trans hnan)
      exact .inr ⟨_, Comparison.consistent_holds o', hcompare⟩
  · intro htrue
    rw [htrue] at hmet
    cases hmet with
    | aligned hagree ho hnan =>
      obtain ⟨o', hsome, hcompare⟩ := compared hagree ho
      cases Option.not_isSome_iff_eq_none.1 (Bool.eq_false_iff.1 (hsome.trans hnan))
      exact hcompare

end

theorem compare_consistent_numeral :
    Comparand (.int 5) .number ∧ Comparand (.text " 12 ") .text ∧
      besideNaN (.int 5) (.text " 12 ") = false ∧
      ((∀ op, ∃ u, compare op false (.int 5) (.text " 12 ") = .error (.unfit u) ∧
          u.reason = .typeMismatch) ∨
        ∃ truth, Consistent truth ∧
          ∀ op, compare op false (.int 5) (.text " 12 ") = .ok (some (truth op))) :=
  have hint : Comparand (.int 5) .number := .number rfl (.int 5) rfl
  have htext : Comparand (.text " 12 ") .text := .text rfl
  have hbeside : besideNaN (.int 5) (.text " 12 ") = false := rfl
  ⟨hint, htext, hbeside, (compare_consistent hint htext false).1 hbeside⟩

/-- A NaN that a text spells is neither less than a number nor equal to it nor greater. -/
theorem compare_spelledNaN :
    Comparand (.text "nan") .text ∧ Comparand (.int 5) .number ∧
      compare .lt false (.text "nan") (.int 5) = .ok (some false) ∧
      compare .eq false (.text "nan") (.int 5) = .ok (some false) ∧
      compare .gt false (.text "nan") (.int 5) = .ok (some false) ∧
      compare .ge false (.text "nan") (.int 5) = .ok (some false) ∧
      ¬ (∀ op, ∃ u, compare op false (.text "nan") (.int 5) = .error (.unfit u) ∧
          u.reason = .typeMismatch) ∧
      ¬ ∃ truth, Consistent truth ∧
        ∀ op, compare op false (.text "nan") (.int 5) = .ok (some (truth op)) := by
  have hlt : compare .lt false (.text "nan") (.int 5) = .ok (some false) := rfl
  have hge : compare .ge false (.text "nan") (.int 5) = .ok (some false) := rfl
  refine ⟨.text rfl, .number rfl (.int 5) rfl, hlt, rfl, rfl, hge, ?_, ?_⟩
  · intro h
    obtain ⟨u, hu, -⟩ := h .lt
    cases hlt.symm.trans hu
  · rintro ⟨truth, htruth, h⟩
    have hless : truth .lt = false := Option.some.inj (Except.ok.inj ((h .lt).symm.trans hlt))
    have hnotless : truth .ge = false := Option.some.inj (Except.ok.inj ((h .ge).symm.trans hge))
    rw [htruth.ge, hless] at hnotless
    cases hnotless

end Value

end RuleCheck
