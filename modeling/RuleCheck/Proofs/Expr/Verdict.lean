import RuleCheck.Proofs.Reading.Unplaced

/-!
# Verdicts

The verdict on an expression is that of its value: what is true holds, and what is false or
unknown does not. It is found in the row of the members that the expression uses, and depends
on that row through the value alone.
-/

set_option autoImplicit false

namespace RuleCheck

namespace Value

theorem exists_truth_of_kind {v : Value} (h : v.kind = .bool) : ∃ b, v = bool b ∨ v = flag b := by
  have hnumber {x : Float} (hkind : (if Number.isNaN x then Kind.missing else .float) = .bool) :
      ∃ b, v = bool b ∨ v = flag b := by
    split at hkind <;> exact absurd hkind (by decide)
  cases v with
  | bool b => exact ⟨b, .inl rfl⟩
  | flag b => exact ⟨b, .inr rfl⟩
  | float x => exact hnumber h
  | real type x => exact hnumber h
  | _ => cases h

/-- A value that may be a result has a place in the result cell, and is the same truth value as
an operand. -/
theorem exists_result {v : Value} (h : checkResult v = .ok ()) :
    ∃ x : Truth, Column.result v = .ok x ∧ ∀ connective, v.logical connective = .ok x := by
  have hcases : v.isNull = true ∨ v.kind = .bool := by
    unfold checkResult at h
    split at h
    · assumption
    · cases h
  rcases hcases with hnull | hkind
  · refine ⟨none, ?_, fun connective => if_pos hnull⟩
    unfold Column.result
    split
    · cases hnull
    · simp [Column.fit?, Column.empty?, hnull]
  · obtain ⟨b, hv⟩ := exists_truth_of_kind hkind
    refine ⟨some b, ?_, ?_⟩
    · rcases hv with rfl | rfl <;> rfl
    · rcases hv with rfl | rfl <;> exact fun connective => rfl

end Value

def Value.verdict (v : Value) : Except Failure Bool := do
  checkResult v
  return (← Column.result v).getD false

def Expr.verdict (bindings : List Binding) (keepCase : Bool) (e : Expr) :
    Except Failure Bool := do
  let row ← Row.ofBindings bindings keepCase (some e.members)
  e.bind row
  let value ← e.value row
  value.verdict

namespace Expr

theorem bind_eq_ok {row : Row} {e : Expr}
    (h : ∀ name ∈ e.names, ∃ found, row.resolve name = .ok found) : e.bind row = .ok () := by
  have resolved (ns : List String) (hns : ∀ name ∈ ns, ∃ found, row.resolve name = .ok found) :
      (ns.forM fun name => do let _ ← row.resolve name) = Except.ok () := by
    induction ns with
    | nil => rfl
    | cons name ns ih =>
      obtain ⟨found, hfound⟩ := hns name List.mem_cons_self
      rw [List.forM, hfound]
      exact ih fun n hn => hns n (List.mem_cons_of_mem name hn)
  exact resolved e.members fun name hname => h name (mem_firsts.1 hname)

theorem exists_resolve_of_bind {row : Row} {e : Expr} (h : e.bind row = .ok ()) :
    ∀ name ∈ e.names, ∃ found, row.resolve name = .ok found := by
  have resolved (ns : List String)
      (hns : (ns.forM fun name => do let _ ← row.resolve name) = Except.ok ()) :
      ∀ name ∈ ns, ∃ found, row.resolve name = .ok found := by
    induction ns with
    | nil => exact List.forall_mem_nil _
    | cons name ns ih =>
      obtain ⟨_, hname, hrest⟩ := exists_of_bind_eq_ok hns
      obtain ⟨found, hfound, _⟩ := exists_of_bind_eq_ok hname
      exact List.forall_mem_cons.2 ⟨⟨found, hfound⟩, ih hrest⟩
  exact fun name hname => resolved e.members h name (mem_firsts.2 hname)

theorem verdict_eq (bindings : List Binding) (keepCase : Bool) (e : Expr) :
    (do return (← e.evaluation bindings keepCase).verdict) = e.verdict bindings keepCase := by
  rw [evaluation, verdict]
  cases Row.ofBindings bindings keepCase (some e.members) with
  | error failure => rfl
  | ok row =>
    simp only [Bind.bind, Except.bind]
    cases e.bind row with
    | error failure => rfl
    | ok _ =>
      cases e.value row with
      | error failure => rfl
      | ok v =>
        simp only [Value.verdict]
        cases checkResult v with
        | error failure => rfl
        | ok _ =>
          simp only [Row.store]
          cases Column.result v <;> rfl

theorem verdict_eq_ok {bindings : List Binding} {keepCase : Bool} {e : Expr} {b : Bool} :
    e.verdict bindings keepCase = .ok b ↔ ∃ row v,
      Row.ofBindings bindings keepCase (some e.members) = .ok row ∧ e.bind row = .ok () ∧
        e.value row = .ok v ∧ v.verdict = .ok b := by
  constructor
  · intro h
    obtain ⟨row, hrow, h⟩ := exists_of_bind_eq_ok h
    obtain ⟨_, hbind, h⟩ := exists_of_bind_eq_ok h
    obtain ⟨v, hv, h⟩ := exists_of_bind_eq_ok h
    exact ⟨row, v, hrow, hbind, hv, h⟩
  · rintro ⟨row, v, hrow, hbind, hv, h⟩
    rw [verdict, hrow]
    simp only [Bind.bind, Except.bind, hbind, hv]
    exact h

/-- Where there is a verdict, there is an evaluation with that verdict. -/
theorem exists_evaluation {bindings : List Binding} {keepCase : Bool} {e : Expr} {b : Bool}
    (h : e.verdict bindings keepCase = .ok b) :
    ∃ found, e.evaluation bindings keepCase = .ok found ∧ found.verdict = b := by
  rw [← verdict_eq] at h
  obtain ⟨found, hfound, hverdict⟩ := exists_of_bind_eq_ok h
  exact ⟨found, hfound, Except.ok.inj hverdict⟩

theorem verdict_congr {x y : Expr} (h : x.unplaced = y.unplaced) (bindings : List Binding)
    (keepCase : Bool) : x.verdict bindings keepCase = y.verdict bindings keepCase := by
  rw [← verdict_eq, ← verdict_eq, evaluation_congr h]

end Expr

theorem evaluate_eq (source : String) (bindings : List Binding) (keepCase : Bool) :
    evaluate source bindings keepCase = (do
      let e ← Expr.read source
      attaching source (e.verdict bindings keepCase)) := by
  rw [evaluate, evaluateIn_eq]
  cases Expr.read source with
  | error failure => rfl
  | ok e =>
    simp only [← Expr.verdict_eq, Bind.bind, Except.bind]
    cases e.evaluation bindings keepCase <;> rfl

theorem evaluate_eq_ok {source : String} {bindings : List Binding} {keepCase b : Bool} :
    evaluate source bindings keepCase = .ok b ↔
      ∃ e, Expr.read source = .ok e ∧ e.verdict bindings keepCase = .ok b := by
  rw [evaluate_eq]
  constructor
  · intro h
    obtain ⟨e, he, h⟩ := exists_of_bind_eq_ok h
    exact ⟨e, he, attaching_eq_ok.1 h⟩
  · rintro ⟨e, he, h⟩
    rw [he]
    exact attaching_eq_ok.2 h

end RuleCheck
