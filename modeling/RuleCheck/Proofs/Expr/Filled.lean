import RuleCheck.Proofs.Expr.Strict
import RuleCheck.Proofs.Value.Sorted

/-!
# Filling in members

A row is filled in where members that it holds nothing of get values. An expression without
tests for nothing has no way to notice that a member is missing other than to come to
nothing. So a value it has before stays its value after, unless the evaluation then fails.
-/

set_option autoImplicit false

namespace RuleCheck

def Value.Below (v w : Value) : Prop := v.isNull = true ∨ w = v

def Settles (r s : Except Failure Value) : Prop :=
  ∀ v w, r = .ok v → s = .ok w → v.Below w

namespace Settles

variable {r s : Except Failure Value}

theorem refl (r : Except Failure Value) : Settles r r := by
  intro v w hv hw
  rw [hv] at hw
  cases hw
  exact .inr rfl

theorem of_null {v : Value} (hv : v.isNull = true) : Settles (.ok v) s := by
  intro u w hu _
  cases hu
  exact .inl hv

theorem bind {f g : Value → Except Failure Value} (h : Settles r s)
    (hfg : ∀ v w, v.Below w → Settles (f v) (g w)) : Settles (r >>= f) (s >>= g) := by
  cases r with
  | error failure =>
    intro v w hv
    cases hv
  | ok a =>
    cases s with
    | error failure =>
      intro v w _ hw
      cases hw
    | ok b => exact hfg a b (h a b rfl rfl)

theorem strict {f : Value → Except Failure Value}
    (hf : ∀ v, v.isNull = true → f v = .ok .absent) {v w : Value} (h : v.Below w) :
    Settles (f v) (f w) := by
  rcases h with hnull | rfl
  · rw [hf v hnull]
    exact of_null rfl
  · exact refl _

/-- An operation on two operands that makes nothing of nothing on either side. -/
theorem strict₂ {f : Value → Value → Except Failure Value}
    (hf : ∀ v w, (v.isNull || w.isNull) = true → f v w = .ok .absent) {v v' w w' : Value}
    (hv : v.Below v') (hw : w.Below w') : Settles (f v w) (f v' w') := by
  rcases hv with hnull | rfl
  · rw [hf v w (by simp [hnull])]
    exact of_null rfl
  rcases hw with hnull | rfl
  · rw [hf v' w (by simp [hnull])]
    exact of_null rfl
  · exact refl _

end Settles

namespace Truth

def Below (x y : Truth) : Prop := x = none ∨ y = x

theorem Below.and {x x' y y' : Truth} (hx : x.Below x') (hy : y.Below y') :
    (x.and y).Below (x'.and y') := by
  rcases hx with rfl | rfl
  · rcases hy with rfl | rfl
    · exact .inl rfl
    · rcases y' with _ | _ | _
      · exact .inl rfl
      · exact .inr (by rcases x' with _ | _ | _ <;> rfl)
      · exact .inl rfl
  · rcases hy with rfl | rfl
    · rcases x' with _ | _ | _
      · exact .inl rfl
      · exact .inr rfl
      · exact .inl rfl
    · exact .inr rfl

theorem Below.or {x x' y y' : Truth} (hx : x.Below x') (hy : y.Below y') :
    (x.or y).Below (x'.or y') := by
  rcases hx with rfl | rfl
  · rcases hy with rfl | rfl
    · exact .inl rfl
    · rcases y' with _ | _ | _
      · exact .inl rfl
      · exact .inl rfl
      · exact .inr (by rcases x' with _ | _ | _ <;> rfl)
  · rcases hy with rfl | rfl
    · rcases x' with _ | _ | _
      · exact .inl rfl
      · exact .inl rfl
      · exact .inr rfl
    · exact .inr rfl

theorem Below.ofTruth {x y : Truth} (h : x.Below y) :
    (Value.ofTruth x).Below (Value.ofTruth y) := by
  rcases h with rfl | rfl
  · exact .inl rfl
  · exact .inr rfl

end Truth

namespace Value

theorem signed_null (op : Sign) (v : Value) (h : v.isNull = true) : v.signed op = .ok .absent := by
  unfold signed
  rw [if_pos h]
  rfl

theorem negation_null (v : Value) (h : v.isNull = true) :
    (do return .ofTruth (← v.negation)) = Except.ok (ε := Failure) Value.absent := by
  unfold negation logical
  rw [if_pos h]
  rfl

theorem compare_null (op : Comparison) (keepCase : Bool) (v w : Value)
    (h : (v.isNull || w.isNull) = true) :
    (do return .ofTruth (← compare op keepCase v w)) = Except.ok (ε := Failure) Value.absent := by
  unfold compare
  rw [if_pos h]
  rfl

/-- As an operand of a connective too a value keeps what is known of it. -/
theorem Below.logical {v w : Value} {connective : String} {x y : Truth} (h : v.Below w)
    (hx : v.logical connective = .ok x) (hy : w.logical connective = .ok y) : x.Below y := by
  rcases h with hnull | rfl
  · unfold Value.logical at hx
    rw [if_pos hnull] at hx
    cases hx
    exact .inl rfl
  · rw [hx] at hy
    cases hy
    exact .inr rfl

end Value

theorem Value.exists_of_conjunction {v w : Value} {t : Truth} (h : v.conjunction w = .ok t) :
    ∃ x y, v.logical "AND" = .ok x ∧ w.logical "AND" = .ok y ∧ t = x.and y := by
  obtain ⟨x, hx, h⟩ := exists_of_bind_eq_ok h
  obtain ⟨y, hy, h⟩ := exists_of_bind_eq_ok h
  cases h
  exact ⟨x, y, hx, hy, rfl⟩

theorem Value.exists_of_disjunction {v w : Value} {t : Truth} (h : v.disjunction w = .ok t) :
    ∃ x y, v.logical "OR" = .ok x ∧ w.logical "OR" = .ok y ∧ t = x.or y := by
  obtain ⟨x, hx, h⟩ := exists_of_bind_eq_ok h
  obtain ⟨y, hy, h⟩ := exists_of_bind_eq_ok h
  cases h
  exact ⟨x, y, hx, hy, rfl⟩

/-- A connective that its left side may decide. The two evaluations need not look at the same
sides: a left side that was unknown may decide once it is known, and then as it was decided
before, because what is known of a truth function stays. -/
theorem Settles.connective {name : String} {f : Truth → Truth → Truth}
    {join : Value → Value → Except Failure Truth} {decides : Value → Bool} {b : Bool}
    (hf : ∀ {x x' y y' : Truth}, x.Below x' → y.Below y' → (f x y).Below (f x' y'))
    (hleft : ∀ y, f (some b) y = some b) (hdecides : ∀ v, decides v = true → v = .bool b)
    (hjoin : ∀ v w t, join v w = .ok t →
      ∃ x y, v.logical name = .ok x ∧ w.logical name = .ok y ∧ t = f x y)
    {l l' r r' : Except Failure Value} (hl : Settles l l') (hr : Settles r r') :
    Settles (do
        let left ← l
        if decides left then return .bool b
        return .ofTruth (← join left (← r)))
      (do
        let left ← l'
        if decides left then return .bool b
        return .ofTruth (← join left (← r'))) := by
  refine hl.bind fun a a' ha => ?_
  by_cases hdec : decides a = true
  · obtain rfl := hdecides a hdec
    obtain rfl := ha.resolve_left nofun
    simp only [if_pos hdec]
    exact .refl _
  rw [if_neg hdec]
  intro v w hv hw
  obtain ⟨c, hc, hv⟩ := exists_of_bind_eq_ok hv
  obtain ⟨t, ht, hv⟩ := exists_of_bind_eq_ok hv
  cases hv
  obtain ⟨x, y, hx, hy, rfl⟩ := hjoin a c t ht
  by_cases hdec' : decides a' = true
  · rw [if_pos hdec'] at hw
    cases hw
    have hnull : a.isNull = true := by
      rcases ha with hnull | rfl
      · exact hnull
      · exact absurd hdec' hdec
    unfold Value.logical at hx
    rw [if_pos hnull] at hx
    cases hx
    have hbelow : (f none y).Below (f (some b) y) := hf (.inl rfl) (.inr rfl)
    rw [hleft] at hbelow
    exact hbelow.ofTruth
  · rw [if_neg hdec'] at hw
    obtain ⟨c', hc', hw⟩ := exists_of_bind_eq_ok hw
    obtain ⟨t', ht', hw⟩ := exists_of_bind_eq_ok hw
    cases hw
    obtain ⟨x', y', hx', hy', rfl⟩ := hjoin a' c' t' ht'
    exact (hf (ha.logical hx hx') ((hr c c' hc hc').logical hy hy')).ofTruth

/-- The second row has the columns of the first, each with the same in it unless the first
holds nothing there. -/
structure Row.Fills (row row' : Row) : Prop where
  columns : List.Forall₂ (fun c d : String × Column =>
    d.1 = c.1 ∧ (c.2.value.isNull = true ∨ d.2 = c.2)) row.columns row'.columns
  keepCase : row'.keepCase = row.keepCase

namespace Row.Fills

variable {row row' : Row}

theorem names (h : row.Fills row') : row'.names = row.names := by
  obtain ⟨hcolumns, _⟩ := h
  unfold Row.names
  generalize row.columns = columns at hcolumns
  generalize row'.columns = columns' at hcolumns
  induction hcolumns with
  | nil => rfl
  | cons hentry _ ih =>
    simp only [entryNames, List.map_cons] at ih ⊢
    rw [hentry.1, ih]

theorem resolve (h : row.Fills row') (name : String) : row'.resolve name = row.resolve name := by
  simp only [Row.resolve, h.names]

theorem below_lookup (h : row.Fills row') {name : String} {c d : Column}
    (hc : row.columns.lookup name = some c) (hd : row'.columns.lookup name = some d) :
    c.value.Below d.value := by
  obtain ⟨hcolumns, _⟩ := h
  generalize row.columns = columns at hcolumns hc
  generalize row'.columns = columns' at hcolumns hd
  induction hcolumns with
  | nil => cases hc
  | @cons entry entry' _ _ hentry _ ih =>
    obtain ⟨n, column⟩ := entry
    obtain ⟨n', column'⟩ := entry'
    obtain ⟨rfl, hcolumn⟩ := hentry
    rw [List.lookup_cons] at hc hd
    split at hc
    · rename_i hname
      simp only [hname] at hd
      cases hc
      cases hd
      exact hcolumn.imp id (congrArg Column.value)
    · rename_i hname
      simp only [hname] at hd
      exact ih hc hd

theorem settles_get (h : row.Fills row') (name : String) :
    Settles (row.get name) (row'.get name) := by
  intro v w hv hw
  obtain ⟨found, hfound, hv⟩ := exists_of_bind_eq_ok hv
  obtain ⟨found', hfound', hw⟩ := exists_of_bind_eq_ok hw
  rw [h.resolve, hfound] at hfound'
  cases hfound'
  split at hv
  · rename_i hc
    split at hw
    · rename_i hd
      cases hv
      cases hw
      exact h.below_lookup hc hd
    · cases hw
  · cases hv

end Row.Fills

namespace Expr

def Untested : Expr → Prop
  | member _ _ => True
  | literal _ => True
  | sign _ e => e.Untested
  | compute _ l r => l.Untested ∧ r.Untested
  | compare _ l r => l.Untested ∧ r.Untested
  | isNull _ _ => False
  | not e => e.Untested
  | and l r => l.Untested ∧ r.Untested
  | or l r => l.Untested ∧ r.Untested
  | foreign _ => True

theorem settles_value {row row' : Row} (hrow : row.Fills row') {e : Expr} (he : e.Untested) :
    Settles (e.value row) (e.value row') := by
  induction e with
  | member name position => exact hrow.settles_get name
  | literal v => cases v <;> exact .refl _
  | sign op x ih => exact (ih he).bind fun v w h => .strict (Value.signed_null op) h
  | compute op l r ihl ihr =>
    refine (ihl he.1).bind fun a a' ha => (ihr he.2).bind fun c c' hc => ?_
    exact .strict₂ (fun _ _ => Inhabits.compute_null) ha hc
  | compare op l r ihl ihr =>
    refine (ihl he.1).bind fun a a' ha => (ihr he.2).bind fun c c' hc => ?_
    rw [hrow.keepCase]
    exact .strict₂ (Value.compare_null op row.keepCase) ha hc
  | isNull negated x _ => exact he.elim
  | not x ih => exact (ih he).bind fun v w h => .strict Value.negation_null h
  | and l r ihl ihr =>
    exact .connective Truth.Below.and (fun _ => rfl) (fun _ => eq_of_isFalse)
      (fun _ _ _ => Value.exists_of_conjunction) (ihl he.1) (ihr he.2)
  | or l r ihl ihr =>
    exact .connective Truth.Below.or (fun _ => rfl) (fun _ => eq_of_isTrue)
      (fun _ _ _ => Value.exists_of_disjunction) (ihl he.1) (ihr he.2)
  | foreign kind => exact .refl _

/-- A value that is not nothing stays when members are filled in, unless the evaluation then
fails. So what holds can become a failure, but never be violated or unknown. -/
theorem value_filled {row row' : Row} (hrow : row.Fills row') {e : Expr} (he : e.Untested)
    (source : String) :
    (∀ v, attaching source (e.value row) = .ok v → v.isNull = false →
      attaching source (e.value row') = .ok v ∨
        ∃ failure, attaching source (e.value row') = .error failure) ∧
    (attaching source (e.value row) = .ok (.bool true) →
      ∀ w, attaching source (e.value row') = .ok w → w = .bool true) := by
  have hsettles := settles_value hrow he
  have attached {r : Except Failure Value} {v : Value} (h : attaching source r = .ok v) :
      r = .ok v := by
    cases r with
    | error failure => cases h
    | ok w => exact h
  constructor
  · intro v hv hnull
    cases hw : attaching source (e.value row') with
    | error failure => exact .inr ⟨failure, rfl⟩
    | ok w =>
      rcases hsettles v w (attached hv) (attached hw) with h | rfl
      · rw [hnull] at h
        cases h
      · exact .inl rfl
  · intro hv w hw
    exact (hsettles _ w (attached hv) (attached hw)).resolve_left nofun

def stockedOrFew : Expr :=
  .or (.compare .lt (.member "Limit" 0) (.literal (.int 5)))
    (.not (.compare .le (.member "Stock" 17) (.literal (.int 3))))

def openShelf : Row := ⟨[("Limit", .int none), ("Stock", .int (some 7))], none, false⟩

def filledShelf : Row := ⟨[("Limit", .int (some 2)), ("Stock", .int (some 7))], none, false⟩

theorem value_filledShelf :
    openShelf.Fills filledShelf ∧ stockedOrFew.Untested ∧
      attaching "" (stockedOrFew.value openShelf) = .ok (.bool true) ∧
      ∀ w, attaching "" (stockedOrFew.value filledShelf) = .ok w → w = .bool true := by
  have hfills : openShelf.Fills filledShelf :=
    ⟨.cons ⟨rfl, .inl rfl⟩ (.cons ⟨rfl, .inr rfl⟩ .nil), rfl⟩
  have huntested : stockedOrFew.Untested := ⟨⟨trivial, trivial⟩, ⟨trivial, trivial⟩⟩
  have hvalue : attaching "" (stockedOrFew.value openShelf) = .ok (.bool true) := rfl
  exact ⟨hfills, huntested, hvalue, (value_filled hfills huntested "").2 hvalue⟩

end Expr

end RuleCheck
