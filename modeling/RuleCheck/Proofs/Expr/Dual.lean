import RuleCheck.Proofs.Expr.Plain

/-!
# Connectives turned round

What is not both of two things is not the one or not the other, and what is neither is not the
one and not the other. This holds with the short way that each connective takes: the right side
is left out in both forms or in none, so the two have the same value or both fail. Only a truth
value of a fixed size on the left would be taken for one by a negation and not by the short way,
and no part of an expression that is read from a text has such a value.
-/

set_option autoImplicit false

namespace RuleCheck

namespace Truth

def decidedBy (d : Bool) (p q : Truth) : Truth := if d then p.or q else p.and q

theorem decidedBy_self (d : Bool) (q : Truth) : decidedBy d (some d) q = some d := by
  cases d <;> rfl

theorem not_decidedBy (d : Bool) (p q : Truth) :
    (decidedBy d p q).not = decidedBy (!d) p.not q.not := by
  rcases p with - | - | - <;> rcases q with - | - | - <;> cases d <;> rfl

theorem not_not (p : Truth) : p.not.not = p := by
  rcases p with - | - | - <;> rfl

def Joined (d : Bool) (P Q : Truth → Prop) (t : Truth) : Prop :=
  (P (some d) ∧ t = some d) ∨ ∃ p q, P p ∧ Q q ∧ t = decidedBy d p q

/-- A connective turns into the other one when its sides are negated. -/
theorem Joined.not {d : Bool} {P P' Q Q' : Truth → Prop} {t : Truth} (h : Joined d P Q t)
    (hP : ∀ p, P p → P' p.not) (hQ : ∀ q, Q q → Q' q.not) : Joined (!d) P' Q' t.not := by
  rcases h with ⟨hp, rfl⟩ | ⟨p, q, hp, hq, rfl⟩
  · exact .inl ⟨hP _ hp, rfl⟩
  · exact .inr ⟨p.not, q.not, hP p hp, hQ q hq, not_decidedBy d p q⟩

end Truth

namespace Value

variable {v w : Value} {p : Truth} {d : Bool}

/-- A value is the same truth value for every connective, or refused by every connective. -/
theorem logical_eq_ok (name name' : String) : v.logical name = .ok p ↔ v.logical name' = .ok p := by
  unfold logical
  split
  · exact Iff.rfl
  · split
    · exact Iff.rfl
    · exact ⟨nofun, nofun⟩

theorem logical_ofTruth (name : String) (p : Truth) : (ofTruth p).logical name = .ok p := by
  cases p <;> rfl

/-- The only value that is taken for a truth value is that truth value, but for those of a fixed
size. -/
theorem eq_bool_of_logical {name : String} (h : v.logical name = .ok (some d))
    (hflag : ∀ b, v ≠ .flag b) : v = .bool d := by
  unfold logical at h
  split at h
  · cases h
  · cases v with
    | bool b =>
      cases h
      rfl
    | flag b => exact absurd rfl (hflag b)
    | _ => cases h

def connect (d : Bool) (v w : Value) : Except Failure Truth :=
  if d then disjunction v w else conjunction v w

theorem connect_eq_ok {t : Truth} : connect d v w = .ok t ↔
    ∃ p q, v.logical "NOT" = .ok p ∧ w.logical "NOT" = .ok q ∧ t = p.decidedBy d q := by
  have hname : ∃ name, connect d v w =
      (do return Truth.decidedBy d (← v.logical name) (← w.logical name)) := by
    cases d with
    | true => exact ⟨"OR", rfl⟩
    | false => exact ⟨"AND", rfl⟩
  obtain ⟨name, hconnect⟩ := hname
  rw [hconnect]
  constructor
  · intro h
    obtain ⟨p, hp, h⟩ := exists_of_bind_eq_ok h
    obtain ⟨q, hq, h⟩ := exists_of_bind_eq_ok h
    exact ⟨p, q, (logical_eq_ok _ _).1 hp, (logical_eq_ok _ _).1 hq, (Except.ok.inj h).symm⟩
  · rintro ⟨p, q, hp, hq, rfl⟩
    rw [(logical_eq_ok _ name).1 hp, (logical_eq_ok _ name).1 hq]
    rfl

end Value

namespace Expr

variable {source : String} {bindings : List Binding} {keepCase : Bool}
  {used : Option (List String)} {x y : Expr} {row : Row} {v : Value} {f : Failure} {d : Bool}

def HasTruth (row : Row) (x : Expr) (p : Truth) : Prop :=
  ∃ v, x.value row = .ok v ∧ v.logical "NOT" = .ok p

def joined (d : Bool) (x y : Expr) : Expr := if d then x.or y else x.and y

theorem value_joined_error (y : Expr) (hx : x.value row = .error f) :
    (joined d x y).value row = .error f := by
  cases d <;> simp only [joined, value, hx, if_true, Bool.false_eq_true, if_false] <;> rfl

theorem value_joined_decided (y : Expr) (hx : x.value row = .ok (.bool d)) :
    (joined d x y).value row = .ok (.bool d) := by
  cases d <;> simp only [joined, value, hx, if_true, Bool.false_eq_true, if_false] <;> rfl

theorem value_joined_open (y : Expr) (hx : x.value row = .ok v) (hv : v ≠ .bool d) :
    (joined d x y).value row = do return .ofTruth (← v.connect d (← y.value row)) := by
  have hopen : (if d then isTrue v else isFalse v) = false := by
    cases v with
    | bool b => cases d <;> cases b <;> first | rfl | exact absurd rfl hv
    | _ => cases d <;> rfl
  cases d with
  | false =>
    have hfalse : isFalse v = false := hopen
    simp only [joined, value, hx, Bind.bind, Except.bind, hfalse, Bool.false_eq_true, if_false]
    rfl
  | true =>
    have htrue : isTrue v = false := hopen
    simp only [joined, value, hx, Bind.bind, Except.bind, htrue, Bool.false_eq_true, if_false,
      if_true]
    rfl

/-- The values of two expressions that are joined by a connective. -/
theorem value_joined_eq_ok (hflag : ∀ b, x.value row ≠ .ok (.flag b)) :
    (joined d x y).value row = .ok v ↔
      ∃ t, v = .ofTruth t ∧ Truth.Joined d (HasTruth row x) (HasTruth row y) t := by
  cases hx : x.value row with
  | error f =>
    rw [value_joined_error y hx]
    have hnone (p : Truth) : ¬ HasTruth row x p := by
      rintro ⟨w, hw, -⟩
      cases hx.symm.trans hw
    constructor
    · exact nofun
    · rintro ⟨t, -, ⟨hp, -⟩ | ⟨p, q, hp, -⟩⟩
      · exact absurd hp (hnone _)
      · exact absurd hp (hnone p)
  | ok w =>
    have htruth {p : Truth} : HasTruth row x p ↔ w.logical "NOT" = .ok p := by
      simp only [HasTruth, hx, Except.ok.injEq, exists_eq_left']
    by_cases hw : w = .bool d
    · subst hw
      rw [value_joined_decided y hx]
      constructor
      · intro h
        cases h
        exact ⟨some d, rfl, .inl ⟨htruth.2 rfl, rfl⟩⟩
      · rintro ⟨t, rfl, ⟨-, rfl⟩ | ⟨p, q, hp, -, rfl⟩⟩
        · rfl
        · cases htruth.1 hp
          rw [Truth.decidedBy_self]
          rfl
    · rw [value_joined_open y hx hw]
      constructor
      · intro h
        obtain ⟨z, hz, h⟩ := exists_of_bind_eq_ok h
        obtain ⟨t, ht, h⟩ := exists_of_bind_eq_ok h
        obtain ⟨p, q, hp, hq, rfl⟩ := Value.connect_eq_ok.1 ht
        exact ⟨_, (Except.ok.inj h).symm, .inr ⟨p, q, htruth.2 hp, ⟨z, hz, hq⟩, rfl⟩⟩
      · rintro ⟨t, rfl, ⟨hp, -⟩ | ⟨p, q, hp, ⟨z, hz, hq⟩, ht⟩⟩
        · exact absurd (Value.eq_bool_of_logical (htruth.1 hp) fun b hb => hflag b (hb ▸ hx)) hw
        · have hconnect : w.connect d z = .ok t := Value.connect_eq_ok.2 ⟨p, q, htruth.1 hp, hq, ht⟩
          rw [hz]
          simp only [Bind.bind, Except.bind, hconnect]
          rfl

theorem value_not_eq_ok :
    (not x).value row = .ok v ↔ ∃ p, HasTruth row x p ∧ v = .ofTruth p.not := by
  constructor
  · intro h
    obtain ⟨w, hw, h⟩ := exists_of_bind_eq_ok h
    obtain ⟨t, ht, h⟩ := exists_of_bind_eq_ok h
    obtain ⟨p, hp, ht⟩ := exists_of_bind_eq_ok ht
    cases ht
    exact ⟨p, ⟨w, hw, hp⟩, (Except.ok.inj h).symm⟩
  · rintro ⟨p, ⟨w, hw, hp⟩, rfl⟩
    simp only [value, hw, Bind.bind, Except.bind, Value.negation, hp]
    rfl

theorem hasTruth_joined (hflag : ∀ b, x.value row ≠ .ok (.flag b)) {t : Truth} :
    HasTruth row (joined d x y) t ↔
      Truth.Joined d (HasTruth row x) (HasTruth row y) t := by
  constructor
  · rintro ⟨v, hv, ht⟩
    obtain ⟨t', rfl, hjoined⟩ := (value_joined_eq_ok hflag).1 hv
    rw [Value.logical_ofTruth] at ht
    cases ht
    exact hjoined
  · intro h
    exact ⟨_, (value_joined_eq_ok hflag).2 ⟨t, rfl, h⟩, Value.logical_ofTruth _ t⟩

theorem hasTruth_not {p : Truth} : HasTruth row (not x) p ↔ HasTruth row x p.not := by
  constructor
  · rintro ⟨v, hv, hp⟩
    obtain ⟨q, hq, rfl⟩ := value_not_eq_ok.1 hv
    rw [Value.logical_ofTruth] at hp
    cases hp
    rwa [Truth.not_not]
  · intro h
    refine ⟨_, value_not_eq_ok.2 ⟨_, h, rfl⟩, ?_⟩
    rw [Value.logical_ofTruth, Truth.not_not]

theorem value_not_ne_flag (x : Expr) (row : Row) (b : Bool) : (not x).value row ≠ .ok (.flag b) := by
  intro h
  obtain ⟨p, -, hp⟩ := value_not_eq_ok.1 h
  rcases p with - | - | - <;> cases hp

theorem concur_not_joined (d : Bool) (y : Expr) (hflag : ∀ b, x.value row ≠ .ok (.flag b)) :
    Concur ((not (joined d x y)).value row) ((joined (!d) (not x) (not y)).value row) := by
  have hnot (z : Expr) (p : Truth) (h : HasTruth row z p) : HasTruth row (not z) p.not := by
    rwa [hasTruth_not, Truth.not_not]
  refine .of_ok_iff fun v => ?_
  rw [value_not_eq_ok, value_joined_eq_ok (value_not_ne_flag x row)]
  constructor
  · rintro ⟨t, ht, rfl⟩
    exact ⟨t.not, rfl, ((hasTruth_joined hflag).1 ht).not (hnot x) (hnot y)⟩
  · rintro ⟨t, rfl, ht⟩
    have hjoined := ht.not (fun p => hasTruth_not.1) (fun q => hasTruth_not.1)
    rw [Bool.not_not] at hjoined
    exact ⟨t.not, (hasTruth_joined hflag).2 hjoined, by rw [Truth.not_not]⟩

theorem self_mem_parts (x : Expr) : x ∈ x.parts := by
  cases x <;> exact List.mem_cons_self

/-- In a row of some members, the negation of a conjunction and the disjunction of the negations
have the same value or both fail, and so do the negation of a disjunction and the conjunction of
the negations, whatever the sides are and however they fail. -/
theorem concur_not_connective (hx : read source = .ok x)
    (hrow : Row.ofBindings bindings keepCase used = .ok row) (y : Expr) :
    Concur ((not (and x y)).value row) ((or (not x) (not y)).value row) ∧
      Concur ((not (or x y)).value row) ((and (not x) (not y)).value row) := by
  have hflag (b : Bool) : x.value row ≠ .ok (.flag b) := by
    intro h
    rcases plain_of_part hx hrow (self_mem_parts x) h with hplain | ⟨_, _, _, _, _, hderived, _⟩
    · cases hplain
    · cases hderived
  exact ⟨concur_not_joined false y hflag, concur_not_joined true y hflag⟩

def falseRow : Row := ⟨[("X", .bool false)], none, false⟩

theorem concur_not_connective_short :
    read "[X]" = .ok (.member "X" 0) ∧
      Row.ofBindings [⟨"X", .single .bool, .bool false⟩] false none = .ok falseRow ∧
      (not (and (.member "X" 0) (.literal (.text "a")))).value falseRow = .ok (.bool true) ∧
      Concur ((not (and (.member "X" 0) (.literal (.text "a")))).value falseRow)
        ((or (not (.member "X" 0)) (not (.literal (.text "a")))).value falseRow) :=
  have hrow : Row.ofBindings [⟨"X", .single .bool, .bool false⟩] false none = .ok falseRow := rfl
  ⟨read_member, hrow, rfl, (concur_not_connective read_member hrow _).1⟩

end Expr

end RuleCheck
