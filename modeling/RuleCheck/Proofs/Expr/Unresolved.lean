import RuleCheck.Proofs.Expr.Escaping
import RuleCheck.Proofs.Expr.Typed

/-!
# Identifiers that stand for nothing

All identifiers of an expression are looked up before it is evaluated, in the order in which the
parts of the expression stand. The first one that stands for no column, or for several, is what
the evaluation fails over, also where its value would never have been asked for. No operator
fails over an identifier, so once all are looked up none is missed.
-/

set_option autoImplicit false

namespace RuleCheck

def Failure.unresolved? : Failure → Option String
  | fault ⟨.unknownName name _, _⟩ => some name
  | fault ⟨.ambiguousName name _, _⟩ => some name
  | _ => none

theorem Failure.unresolved?_attach (source : String) (f : Failure) :
    (f.attach source).unresolved? = f.unresolved? := by
  cases f with
  | fault f =>
    obtain ⟨cause, expression⟩ := f
    cases cause <;> rfl
  | _ => rfl

def Resolved {α : Type} (x : Except Failure α) : Prop := ∀ f, x = .error f → f.unresolved? = none

theorem Rejection.resolved {f : Failure} (h : Rejection f) : f.unresolved? = none := by
  cases h <;> rfl

theorem Value.resolved_verdict (v : Value) : Resolved v.verdict := by
  unfold verdict
  cases hcheck : checkResult v with
  | error f =>
    unfold checkResult at hcheck
    split at hcheck <;> cases hcheck
    exact FailsBy.error rfl
  | ok _ =>
    obtain ⟨x, hx, -⟩ := exists_result hcheck
    rw [hx]
    exact FailsBy.ok _

namespace Row

def misses (row : Row) (name : String) : Bool :=
  match row.resolve name with
  | .ok _ => false
  | .error _ => true

variable {row : Row} {name : String}

theorem misses_eq_false : row.misses name = false ↔ ∃ found, row.resolve name = .ok found := by
  unfold misses
  split
  · exact ⟨fun _ => ⟨_, ‹_›⟩, fun _ => rfl⟩
  · rename_i f hf
    refine ⟨nofun, ?_⟩
    rintro ⟨found, hfound⟩
    cases hf.symm.trans hfound

theorem exists_cause_of_misses (h : row.misses name = true) :
    ∃ cause, row.resolve name = .error (.ofCause cause) ∧
      (Failure.ofCause cause).unresolved? = some name := by
  cases hresolve : row.resolve name with
  | ok found =>
    rw [misses_eq_false.2 ⟨found, hresolve⟩] at h
    cases h
  | error f =>
    unfold resolve at hresolve
    split at hresolve
    · cases hresolve
    · split at hresolve <;> cases hresolve <;> exact ⟨_, rfl, rfl⟩

end Row

theorem find?_firsts {α : Type} [DecidableEq α] (p : α → Bool) (xs : List α) :
    (firsts xs).find? p = xs.find? p := by
  induction xs with
  | nil => rfl
  | cons x xs ih =>
    rw [firsts, List.find?_cons, List.find?_cons]
    cases hx : p x with
    | true => rfl
    | false =>
      rw [List.find?_filter, ← ih]
      refine congrArg (List.find? · (firsts xs)) (funext fun y => ?_)
      by_cases hy : y = x
      · simp [hy, hx]
      · simp [hy]

namespace Expr

variable {row : Row} {e : Expr}

def missing? (row : Row) (e : Expr) : Option String := e.names.find? row.misses

/-- The look-up of all identifiers fails over the first one that is missed. -/
theorem bind_eq (row : Row) (e : Expr) :
    e.bind row =
      match e.missing? row with
      | none => .ok ()
      | some name => (row.resolve name).map fun _ => () := by
  have looked (names : List String) :
      (names.forM fun name => do let _ ← row.resolve name) =
        match names.find? row.misses with
        | none => .ok ()
        | some name => (row.resolve name).map fun _ => () := by
    induction names with
    | nil => rfl
    | cons name names ih =>
      rw [List.find?_cons, List.forM]
      cases hname : row.misses name with
      | false =>
        obtain ⟨found, hfound⟩ := Row.misses_eq_false.1 hname
        rw [hfound]
        exact ih
      | true =>
        obtain ⟨cause, hcause, -⟩ := Row.exists_cause_of_misses hname
        change _ = (row.resolve name).map fun _ => ()
        rw [hcause]
        rfl
  rw [missing?, ← find?_firsts]
  exact looked e.members

theorem misses_of_missing {name : String} (h : e.missing? row = some name) :
    row.misses name = true := List.find?_some h

theorem resolve_of_not_missing (h : e.missing? row = none) :
    ∀ name ∈ e.names, ∃ found, row.resolve name = .ok found := fun name hname =>
  Row.misses_eq_false.1 (Bool.eq_false_iff.2 (List.find?_eq_none.1 h name hname))

def identifier? : Expr → Option String
  | member name _ => some name
  | _ => none

theorem identifier?_eq_some {name : String} :
    e.identifier? = some name ↔ ∃ position, e = member name position := by
  cases e with
  | member n position =>
    constructor
    · rintro ⟨⟩
      exact ⟨position, rfl⟩
    · rintro ⟨_, ⟨⟩⟩
      rfl
  | _ => exact ⟨nofun, nofun⟩

/-- The names are those of the members among the parts, in their order. -/
theorem names_eq (e : Expr) : e.names = e.parts.filterMap identifier? := by
  induction e with
  | member name position => rfl
  | literal v => rfl
  | foreign kind => rfl
  | sign op x ih => exact ih
  | isNull negated x ih => exact ih
  | not x ih => exact ih
  | compute op l r ihl ihr =>
    rw [names, ihl, ihr, ← List.filterMap_append]
    rfl
  | compare op l r ihl ihr =>
    rw [names, ihl, ihr, ← List.filterMap_append]
    rfl
  | and l r ihl ihr =>
    rw [names, ihl, ihr, ← List.filterMap_append]
    rfl
  | or l r ihl ihr =>
    rw [names, ihl, ihr, ← List.filterMap_append]
    rfl

theorem mem_names {name : String} :
    name ∈ e.names ↔ ∃ position, member name position ∈ e.parts := by
  rw [names_eq, List.mem_filterMap]
  constructor
  · rintro ⟨x, hx, hname⟩
    obtain ⟨position, rfl⟩ := identifier?_eq_some.1 hname
    exact ⟨position, hx⟩
  · rintro ⟨position, hx⟩
    exact ⟨_, hx, rfl⟩

/-- All members that stand before the first missing one are looked up well. -/
theorem exists_split_of_missing {name : String} (h : e.missing? row = some name) :
    ∃ before position behind, e.parts = before ++ member name position :: behind ∧
      ∀ n p, member n p ∈ before → row.misses n = false := by
  obtain ⟨-, front, back, hsplit, hfront⟩ := List.find?_eq_some_iff_append.1 h
  rw [names_eq, List.filterMap_eq_append_iff] at hsplit
  obtain ⟨first, second, hparts, rfl, hsecond⟩ := hsplit
  obtain ⟨gap, x, rest, rfl, hgap, hx, -⟩ := List.filterMap_eq_cons_iff.1 hsecond
  obtain ⟨position, rfl⟩ := identifier?_eq_some.1 hx
  refine ⟨first ++ gap, position, rest, by rw [hparts, List.append_assoc], fun n p hmem => ?_⟩
  rcases List.mem_append.1 hmem with hmem | hmem
  · simpa using hfront n (List.mem_filterMap.2 ⟨_, hmem, rfl⟩)
  · cases hgap _ hmem

/-- Once all identifiers are looked up, no part of the expression fails over one. -/
theorem resolved_value (h : ∀ name ∈ e.names, ∃ found, row.resolve name = .ok found) :
    Resolved (e.value row) := by
  refine fails_value (fun f => Rejection.resolved) (fun name hname => ?_) fun kind _ => rfl
  obtain ⟨found, hfound⟩ := h name hname
  obtain ⟨c, -, hget⟩ := Row.exists_get hfound
  rw [hget]
  exact .ok _

end Expr

section

variable {source : String} {bindings : List Binding} {keepCase : Bool} {e : Expr} {row : Row}

theorem evaluate_of_missing {name : String} (he : Expr.read source = .ok e)
    (hrow : Row.ofBindings bindings keepCase (some e.members) = .ok row)
    (h : e.missing? row = some name) :
    ∃ cause, row.resolve name = .error (.ofCause cause) ∧
      (Failure.ofCause cause).unresolved? = some name ∧
      evaluate source bindings keepCase = .error (.fault ⟨cause, some source⟩) := by
  obtain ⟨cause, hcause, hname⟩ := Row.exists_cause_of_misses (Expr.misses_of_missing h)
  refine ⟨cause, hcause, hname, ?_⟩
  have hbind : e.bind row = .error (.ofCause cause) := by
    rw [Expr.bind_eq, h]
    simp only [hcause]
    rfl
  rw [evaluate_eq, he]
  simp only [Expr.verdict, hrow, hbind, bind, Except.bind]
  rfl

theorem resolved_evaluate (he : Expr.read source = .ok e)
    (hrow : Row.ofBindings bindings keepCase (some e.members) = .ok row)
    (h : e.missing? row = none) : Resolved (evaluate source bindings keepCase) := by
  have hbind : e.bind row = .ok () := by rw [Expr.bind_eq, h]
  have hverdict : Resolved (e.verdict bindings keepCase) := by
    simp only [Expr.verdict, hrow, hbind, bind, Except.bind]
    exact FailsBy.bind (Expr.resolved_value (Expr.resolve_of_not_missing h)) fun v _ =>
      v.resolved_verdict
  rw [evaluate_eq, he]
  intro f hf
  show f.unresolved? = none
  change attaching source (e.verdict bindings keepCase) = .error f at hf
  cases hcases : e.verdict bindings keepCase with
  | ok b =>
    rw [hcases] at hf
    cases hf
  | error g =>
    rw [hcases] at hf
    cases hf
    rw [Failure.unresolved?_attach]
    exact hverdict g hcases

/-- An evaluation fails over an identifier just if a member anywhere in the tree stands for no
column or for several, and then over the first of these. After the look-up of all identifiers
no value of a tree fails over one. -/
theorem evaluate_unresolved (he : Expr.read source = .ok e)
    (hrow : Row.ofBindings bindings keepCase (some e.members) = .ok row) :
    ((∃ f name, evaluate source bindings keepCase = .error f ∧ f.unresolved? = some name) ↔
      ∃ name position, .member name position ∈ e.parts ∧ row.misses name = true) ∧
    (∀ f name, evaluate source bindings keepCase = .error f → f.unresolved? = some name →
      ∃ cause before position behind, f = .fault ⟨cause, some source⟩ ∧
        row.resolve name = .error (.ofCause cause) ∧
        e.parts = before ++ .member name position :: behind ∧
        ∀ n p, .member n p ∈ before → row.misses n = false) ∧
    ∀ x : Expr, x.bind row = .ok () → ∀ f, x.value row = .error f → f.unresolved? = none := by
  refine ⟨?_, ?_, fun x hx => Expr.resolved_value (Expr.exists_resolve_of_bind hx)⟩
  · constructor
    · rintro ⟨f, name, hf, hname⟩
      cases h : e.missing? row with
      | none =>
        rw [resolved_evaluate he hrow h f hf] at hname
        cases hname
      | some n =>
        obtain ⟨position, hmem⟩ := Expr.mem_names.1 (List.mem_of_find?_eq_some h)
        exact ⟨n, position, hmem, Expr.misses_of_missing h⟩
    · rintro ⟨name, position, hmem, hmisses⟩
      cases h : e.missing? row with
      | none =>
        have hnone := List.find?_eq_none.1 h name (Expr.mem_names.2 ⟨position, hmem⟩)
        exact absurd hmisses hnone
      | some n =>
        obtain ⟨cause, -, hname, hf⟩ := evaluate_of_missing he hrow h
        refine ⟨_, n, hf, ?_⟩
        rw [← hname]
        exact Failure.unresolved?_attach source (.ofCause cause)
  · intro f name hf hname
    cases h : e.missing? row with
    | none =>
      rw [resolved_evaluate he hrow h f hf] at hname
      cases hname
    | some n =>
      obtain ⟨cause, hcause, hn, herror⟩ := evaluate_of_missing he hrow h
      obtain ⟨before, position, behind, hparts, hbefore⟩ := Expr.exists_split_of_missing h
      rw [herror] at hf
      cases hf
      have hsame : n = name := by
        have hattached := Failure.unresolved?_attach source (.ofCause cause)
        rw [hn] at hattached
        exact Option.some.inj (hattached.symm.trans hname)
      subst hsame
      exact ⟨cause, before, position, behind, rfl, hcause, hparts, hbefore⟩

end

def bareShelf : List Binding := [⟨"Stock", .single .int, .int 8⟩]

def bareRow : Row := ⟨[("Stock", .int (some 8))], none, false⟩

theorem evaluate_bareShelf :
    Expr.read shelfRule = .ok shelfExpr ∧
      Row.ofBindings bareShelf false (some shelfExpr.members) = .ok bareRow ∧
      shelfExpr.value bareRow = .ok (.bool false) ∧
      ∃ f name, evaluate shelfRule bareShelf false = .error f ∧ f.unresolved? = some name := by
  have hrow : Row.ofBindings bareShelf false (some shelfExpr.members) = .ok bareRow := rfl
  have hname : Expr.member "Name" 20 ∈ shelfExpr.parts := by simp [shelfExpr, Expr.parts]
  exact ⟨read_shelfRule, hrow, rfl,
    (evaluate_unresolved read_shelfRule hrow).1.2 ⟨"Name", 20, hname, rfl⟩⟩

end RuleCheck
