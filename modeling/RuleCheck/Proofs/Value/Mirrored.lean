import RuleCheck.Proofs.Alike
import RuleCheck.Proofs.Value.Trichotomy

/-!
# Comparisons from the other side

A comparison says of two operands what its mirror image says of them in the other order. From
either side the two are brought to the same values or refused, and how the values compare is
turned round.
-/

set_option autoImplicit false

namespace RuleCheck

open Number Text

namespace Comparison

def mirror : Comparison → Comparison
  | eq => eq
  | ne => ne
  | lt => gt
  | gt => lt
  | le => ge
  | ge => le

theorem holds_mirror (op : Comparison) (o : Option Ordering) :
    op.mirror.holds (o.map Ordering.swap) = op.holds o := by
  cases o with
  | none => cases op <;> rfl
  | some o => cases op <;> cases o <;> rfl

end Comparison

namespace Number

theorem Rank.lt_asymm {a b : Rank} (h : a.lt b = true) : b.lt a = false := by
  cases a with
  | below => cases b <;> rfl
  | above => cases b <;> cases h
  | point m =>
    cases b with
    | below => cases h
    | above => rfl
    | point n =>
      have hlt : m < n := of_decide_eq_true h
      exact decide_eq_false (by omega)

theorem Scalar.order?_swap (a b : Option Rank) : order? b a = (order? a b).map Ordering.swap := by
  cases a with
  | none => cases b <;> rfl
  | some a =>
    cases b with
    | none => rfl
    | some b =>
      simp only [order?, Option.map_some, Option.some_inj]
      cases hab : a.lt b with
      | true =>
        rw [Rank.lt_asymm hab]
        rfl
      | false => cases b.lt a <;> rfl

/-- Two numbers compare the other way round in the other order, or fail to compare alike. -/
theorem Scalar.compare?_swap (x y : Scalar) :
    y.compare? x = (x.compare? y).map (Option.map Ordering.swap) := by
  have hint (m n : Int) : compare n m = (compare m n).swap := Std.OrientedOrd.eq_swap
  have hfloat (n : Int) : (∃ z, toFloat n = .ok z) ∨ ∃ f, toFloat n = .error f := by
    cases h : toFloat n with
    | ok z => exact .inl ⟨z, rfl⟩
    | error f => exact .inr ⟨f, rfl⟩
  cases x <;> cases y <;> simp only [compare?, whole?, meet]
  case int.int m n => exact congrArg (Except.ok ∘ some) (hint m n)
  case int.word m _ n => exact congrArg (Except.ok ∘ some) (hint m n)
  case word.int _ m n => exact congrArg (Except.ok ∘ some) (hint m n)
  case word.word _ m _ n => exact congrArg (Except.ok ∘ some) (hint m n)
  case int.float => exact congrArg Except.ok (order?_swap _ _)
  case float.int => exact congrArg Except.ok (order?_swap _ _)
  case float.float => exact congrArg Except.ok (order?_swap _ _)
  case float.real => exact congrArg Except.ok (order?_swap _ _)
  case real.float => exact congrArg Except.ok (order?_swap _ _)
  case real.real => exact congrArg Except.ok (order?_swap _ _)
  -- In the other cases an integer is converted first, on the same side of both orders.
  all_goals
    rcases hfloat (by assumption) with ⟨z, hz⟩ | ⟨f, hf⟩
    · simp only [hz]
      exact congrArg Except.ok (order?_swap _ _)
    · simp only [hf]
      rfl

end Number

namespace Value

variable {a b v w : Value} {r r' : ValueSort} {o : Option Ordering} {op : Comparison}
  {keepCase : Bool}

theorem textOrder_swap (s t : String) : textOrder t s = (textOrder s t).swap := by
  unfold textOrder compareOfLessAndEq
  by_cases hlt : s < t
  · have hne : t ≠ s := fun h => String.lt_irrefl t (h ▸ hlt)
    rw [if_neg (String.lt_asymm hlt), if_neg hne, if_pos hlt]
    rfl
  · rw [if_neg hlt]
    by_cases hgt : t < s
    · have hne : s ≠ t := fun h => String.lt_irrefl t (h ▸ hgt)
      rw [if_pos hgt, if_neg hne]
      rfl
    · have heq : s = t := String.le_antisymm hgt hlt
      rw [if_neg hgt, if_pos heq, if_pos heq.symm]
      rfl

theorem dateOrder_swap (a b : Nat × Nat × Nat) : dateOrder b a = (dateOrder a b).swap := by
  have hnat (m n : Nat) : Ord.compare n m = (Ord.compare m n).swap := Std.OrientedOrd.eq_swap
  unfold dateOrder
  rw [hnat a.1, hnat a.2.1, hnat a.2.2, Ordering.swap_then, Ordering.swap_then]

theorem byText_swap {α : Type} {texts : String → String → α} {other : α} (turn : α → α)
    (htexts : ∀ s t, texts t s = turn (texts s t)) (hother : other = turn other) (v w : Value) :
    byText texts other w v = turn (byText texts other v w) := by
  unfold byText
  cases v.text? with
  | none => cases w.text? <;> exact hother
  | some s =>
    cases w.text? with
    | none => exact hother
    | some t => exact htexts s t

/-- What is turned round for numbers and for texts is turned round for all values. -/
theorem byContent_swap {α : Type} {numbers : Scalar → Scalar → α} {texts : String → String → α}
    {other : α} (turn : α → α) (hnumbers : ∀ x y, numbers y x = turn (numbers x y))
    (htexts : ∀ s t, texts t s = turn (texts s t)) (hother : other = turn other) (v w : Value) :
    byContent numbers texts other w v = turn (byContent numbers texts other v w) := by
  have htext := byText_swap turn htexts hother v w
  unfold byContent
  cases v.scalar? with
  | none => cases w.scalar? <;> exact htext
  | some x =>
    cases w.scalar? with
    | none => exact htext
    | some y => exact hnumbers x y

theorem order?_swap_of_leaf (hv : v.scalar?.isSome ∨ v.text?.isSome) (w : Value) :
    order? w v = (order? v w).map (Option.map Ordering.swap) := by
  rw [order?_eq (.inl hv), order?_eq (.inr hv)]
  refine byContent_swap _ (fun x y => ?_) (fun s t => ?_) rfl v w
  · rw [Scalar.compare?_swap x y]
    cases x.compare? y <;> rfl
  · exact congrArg (Except.ok ∘ some) (textOrder_swap s t)

theorem same_comm_of_leaf (hv : v.scalar?.isSome ∨ v.text?.isSome) (w : Value) :
    same w v = same v w := by
  rw [same_eq (.inl hv), same_eq (.inr hv)]
  refine byContent_swap id (fun x y => ?_) (fun s t => Bool.beq_comm) rfl v w
  rw [Scalar.compare?_swap x y]
  cases x.compare? y with
  | error f => rfl
  | ok o =>
    cases o with
    | none => rfl
    | some o => cases o <;> rfl

mutual

theorem same_comm (a b : Value) : same b a = same a b := by
  cases a with
  | null => cases b <;> rfl
  | absent => cases b <;> rfl
  | action => cases b <;> rfl
  | date y m d =>
    cases b with
    | date y' m' d' =>
      simp only [same]
      rw [dateOrder_swap]
      cases dateOrder (y, m, d) (y', m', d') <;> rfl
    | _ => rfl
  | list xs =>
    cases b with
    | list ys =>
      simp only [same]
      exact sameEach_comm xs ys
    | _ => rfl
  | text s => exact same_comm_of_leaf (.inr rfl) b
  | fixedText s => exact same_comm_of_leaf (.inr rfl) b
  | derivedText name s => exact same_comm_of_leaf (.inr rfl) b
  | _ => exact same_comm_of_leaf (.inl rfl) b

theorem sameEach_comm (xs ys : List Value) : sameEach ys xs = sameEach xs ys := by
  cases xs with
  | nil => cases ys <;> rfl
  | cons x xs =>
    cases ys with
    | nil => rfl
    | cons y ys =>
      simp only [sameEach]
      rw [same_comm x y, sameEach_comm xs ys]

end

mutual

/-- Values that are in order are so the other way round in the other order. -/
theorem order?_swap (a b : Value) : order? b a = (order? a b).map (Option.map Ordering.swap) := by
  cases a with
  | null => cases b <;> rfl
  | absent => cases b <;> rfl
  | action => cases b <;> rfl
  | date y m d =>
    cases b with
    | date y' m' d' => exact congrArg (Except.ok ∘ some) (dateOrder_swap _ _)
    | _ => rfl
  | list xs =>
    cases b with
    | list ys =>
      simp only [order?]
      exact orderEach?_swap xs ys
    | _ => rfl
  | text s => exact order?_swap_of_leaf (.inr rfl) b
  | fixedText s => exact order?_swap_of_leaf (.inr rfl) b
  | derivedText name s => exact order?_swap_of_leaf (.inr rfl) b
  | _ => exact order?_swap_of_leaf (.inl rfl) b

theorem orderEach?_swap (xs ys : List Value) :
    orderEach? ys xs = (orderEach? xs ys).map (Option.map Ordering.swap) := by
  cases xs with
  | nil => cases ys <;> rfl
  | cons x xs =>
    cases ys with
    | nil => rfl
    | cons y ys =>
      simp only [orderEach?]
      rw [same_comm x y, orderEach?_swap xs ys, order?_swap x y]
      cases same x y <;> rfl

end

theorem compareAs_mirror (op : Comparison) (a b : Value) :
    compareAs op.mirror b a = compareAs op a b := by
  have hordered : (do return op.mirror.holds (← order? b a)) =
      (do return op.holds (← order? a b) : Except Failure Bool) := by
    rw [order?_swap]
    cases order? a b with
    | error f => rfl
    | ok o => exact congrArg Except.ok (op.holds_mirror o)
  cases op with
  | eq => exact congrArg Except.ok (same_comm a b)
  | ne => exact congrArg (fun truth => Except.ok !truth) (same_comm a b)
  | _ => exact hordered

theorem foldCase_swap (a b : Value) : foldCase b a = (foldCase a b).swap := by
  simp only [foldCase]
  cases a.text? <;> cases b.text? <;> rfl

/-- The symbol of the operator is in the wording of a refusal only. -/
theorem readBeside_alike (symbol symbol' s : String) (k : Kind) :
    Alike Eq (readBeside symbol s k) (readBeside symbol' s k) := by
  have hnumber : Alike Eq (readNumber symbol s) (readNumber symbol' s) := by
    rcases readNumber_cases s with ⟨x, -, -, hread⟩ | ⟨-, hrefused⟩
    · rw [hread, hread]
      exact .ok rfl
    · rw [hrefused, hrefused]
      exact .error (.fault rfl)
  have htruth : Alike Eq (readTruth symbol s) (readTruth symbol' s) := by
    rcases readTruth_cases s with ⟨b, hread⟩ | hrefused
    · rw [hread, hread]
      exact .ok rfl
    · rw [hrefused, hrefused]
      exact .error (.fault rfl)
  cases k with
  | int => exact hnumber.bind fun x _ hxy => .ok (congrArg (some ∘ ofScalar) hxy)
  | float => exact hnumber.bind fun x _ hxy => .ok (congrArg (some ∘ ofScalar) hxy)
  | bool => exact htruth.bind fun b _ hbc => .ok (congrArg (some ∘ bool) hbc)
  | _ => exact .ok rfl

/-- Two operands are brought to the same two values from either side, or refused for the same
reason. -/
theorem agree_alike (symbol symbol' : String) (a b : Value) :
    Alike (fun p q => q = p.swap) (agree symbol a b) (agree symbol' b a) := by
  have hrefused : Alike (fun p q => q = p.swap)
      (.error (.unfit (.pair symbol a.kind b.kind)) : Except Failure (Value × Value))
      (.error (.unfit (.pair symbol' b.kind a.kind))) := .error (.fault rfl)
  unfold agree
  by_cases hkinds : a.kind = b.kind ∨ (a.kind.isNumeric ∧ b.kind.isNumeric)
  · have hkinds' : b.kind = a.kind ∨ (b.kind.isNumeric ∧ a.kind.isNumeric) :=
      hkinds.imp Eq.symm And.symm
    rw [if_pos hkinds, if_pos hkinds']
    exact .ok rfl
  · have hkinds' : ¬ (b.kind = a.kind ∨ (b.kind.isNumeric ∧ a.kind.isNumeric)) :=
      fun h => hkinds (h.imp Eq.symm And.symm)
    rw [if_neg hkinds, if_neg hkinds']
    cases a.text? with
    | none =>
      cases b.text? with
      | none => exact hrefused
      | some s =>
        refine (readBeside_alike symbol symbol' s a.kind).bind fun v _ hv => ?_
        subst hv
        cases v with
        | none => exact hrefused
        | some v => exact .ok rfl
    | some s =>
      cases b.text? with
      | none =>
        refine (readBeside_alike symbol symbol' s b.kind).bind fun v _ hv => ?_
        subst hv
        cases v with
        | none => exact hrefused
        | some v => exact .ok rfl
      | some t => exact hrefused

/-- Whatever the operands are, a comparison says of them what its mirror image says of them in
the other order, or both fail alike. -/
theorem compare_alike (op : Comparison) (keepCase : Bool) (a b : Value) :
    Alike Eq (compare op keepCase a b) (compare op.mirror keepCase b a) := by
  unfold compare
  rw [Bool.or_comm b.isNull]
  cases a.isNull || b.isNull with
  | true => exact .ok rfl
  | false =>
    refine (agree_alike op.symbol op.mirror.symbol a b).bind fun p q hpq => ?_
    subst hpq
    have compared (q : Value × Value) : Alike Eq
        (do return some (← compareAs op q.1 q.2) : Except Failure Truth)
        (do return some (← compareAs op.mirror q.2 q.1)) := by
      rw [compareAs_mirror]
      exact .refl (fun _ => rfl) _
    cases keepCase with
    | true => exact compared p
    | false =>
      have hfolded : foldCase p.2 p.1 = (foldCase p.1 p.2).swap := foldCase_swap p.1 p.2
      simp only [Bool.false_eq_true, if_false, Prod.fst_swap, Prod.snd_swap, hfolded]
      exact compared (foldCase p.1 p.2)

/-- Nothing, a truth value, a number of no fixed size or a text. -/
inductive Operand (v : Value) : Prop
  | nothing (h : v.isNull = true)
  | something {r : ValueSort} (h : Comparand v r)

/-- Operands that are brought to values of one sort are compared. -/
theorem Aligned.exists_compare (keepCase : Bool) (hnull : (a.isNull || b.isNull) = false)
    (hagree : agree op.symbol a b = .ok (v, w)) (h : Aligned v w o) :
    ∃ t, compare op keepCase a b = .ok t := by
  cases keepCase with
  | true =>
    refine ⟨some (op.holds o), ?_⟩
    simp only [compare, hnull, hagree, bind, Except.bind, if_true, h.compareAs op]
    rfl
  | false =>
    obtain ⟨o', ho', -⟩ := h.exists_foldCase
    refine ⟨some (op.holds o'), ?_⟩
    simp only [compare, hnull, hagree, bind, Except.bind, Bool.false_eq_true, if_false,
      ho'.compareAs op]
    rfl

/-- A comparison of operands fails by the mismatch of their types only. -/
theorem mismatch_of_compare {f : Failure} (ha : Operand a) (hb : Operand b)
    (h : compare op keepCase a b = .error f) :
    ∃ u : Unfit, f = .unfit u ∧ u.reason = .typeMismatch := by
  have known (hnull : (a.isNull || b.isNull) = true) : False := by
    rw [compare, if_pos hnull] at h
    cases h
  cases ha with
  | nothing hnull => exact (known (by rw [hnull, Bool.true_or])).elim
  | something ha =>
    cases hb with
    | nothing hnull => exact (known (by rw [hnull, Bool.or_true])).elim
    | something hb =>
      have hnull : (a.isNull || b.isNull) = false := by
        rw [ha.isNull, hb.isNull, Bool.or_false]
      have hmet := ha.met hb
      generalize besideNaN a b = nan at hmet
      cases hmet with
      | refused hrefused =>
        obtain ⟨u, hu, hreason⟩ := hrefused op.symbol
        simp only [compare, hnull, hu, bind, Except.bind, Bool.false_eq_true, if_false] at h
        exact ⟨u, (Except.error.inj h).symm, hreason⟩
      | aligned hagree ho _ =>
        obtain ⟨t, ht⟩ := ho.exists_compare keepCase hnull (hagree op.symbol)
        cases ht.symm.trans h

/-- Whatever the operands are, a comparison says of them what its mirror image says of them in
the other order, or both fail in the same way. If each is nothing, a truth value, a number of no
fixed size or a text, both fail for the mismatch of the types. -/
theorem compare_mirror (op : Comparison) (keepCase : Bool) (a b : Value) :
    Alike Eq (compare op keepCase a b) (compare op.mirror keepCase b a) ∧
      (Operand a → Operand b →
        (∃ t, compare op keepCase a b = .ok t ∧ compare op.mirror keepCase b a = .ok t) ∨
          ∃ u u' : Unfit, compare op keepCase a b = .error (.unfit u) ∧
            compare op.mirror keepCase b a = .error (.unfit u') ∧
            u.reason = .typeMismatch ∧ u'.reason = .typeMismatch) := by
  have halike := compare_alike op keepCase a b
  refine ⟨halike, fun ha hb => ?_⟩
  cases h : compare op keepCase a b with
  | ok t =>
    rw [h] at halike
    cases h' : compare op.mirror keepCase b a with
    | ok t' =>
      rw [h'] at halike
      cases halike with
      | ok htt => exact .inl ⟨t, rfl, congrArg Except.ok htt.symm⟩
    | error f =>
      rw [h'] at halike
      cases halike
  | error f =>
    obtain ⟨u, rfl, hreason⟩ := mismatch_of_compare ha hb h
    cases h' : compare op.mirror keepCase b a with
    | ok t =>
      rw [h, h'] at halike
      cases halike
    | error g =>
      obtain ⟨u', rfl, hreason'⟩ := mismatch_of_compare hb ha h'
      exact .inr ⟨u, u', rfl, rfl, hreason, hreason'⟩

theorem compare_mirror_numeral :
    Operand (.text " 12 ") ∧ Operand (.int 5) ∧
      compare .gt false (.text " 12 ") (.int 5) = .ok (some true) ∧
      ((∃ t, compare .gt false (.text " 12 ") (.int 5) = .ok t ∧
          compare .lt false (.int 5) (.text " 12 ") = .ok t) ∨
        ∃ u u' : Unfit, compare .gt false (.text " 12 ") (.int 5) = .error (.unfit u) ∧
          compare .lt false (.int 5) (.text " 12 ") = .error (.unfit u') ∧
          u.reason = .typeMismatch ∧ u'.reason = .typeMismatch) :=
  have htext : Operand (.text " 12 ") := .something (.text rfl)
  have hint : Operand (.int 5) := .something (.number rfl (.int 5) rfl)
  ⟨htext, hint, rfl, (compare_mirror .gt false _ _).2 htext hint⟩

end Value

end RuleCheck
