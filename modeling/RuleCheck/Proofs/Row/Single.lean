import RuleCheck.Proofs.Reading.Unplaced

/-!
# Rows of a single member

An expression about one member is evaluated in a row with the column of that member alone.
-/

set_option autoImplicit false

namespace RuleCheck

section

variable {b : Binding} {column : Column} {keepCase : Bool}

def Row.single (name : String) (column : Column) (keepCase : Bool) : Row :=
  ⟨[(name, column)], none, keepCase⟩

namespace Row

theorem ofBindings_single {names : List String} (hname : b.name ≠ resultName)
    (hused : b.name ∈ names) (hcolumn : b.column = .ok column) :
    ofBindings [b] keepCase (some names) = .ok (single b.name column keepCase) := by
  have hisUsed : isUsed (some names) b.name = true :=
    List.any_eq_true.2 ⟨b.name, hused, beq_self_eq_true _⟩
  rw [ofBindings, List.foldlM_cons, addBinding, if_neg hname, if_pos hisUsed, hcolumn]
  rfl

theorem resolve_single {name : String} (hname : name ≠ resultName) :
    (single name column keepCase).resolve name = .ok name :=
  if_pos ⟨List.mem_singleton_self name, hname⟩

theorem get_single {name : String} (hname : name ≠ resultName) :
    (single name column keepCase).get name = .ok column.value := by
  rw [get, resolve_single hname]
  simp [single, bind, Except.bind]
  rfl

end Row

theorem Expr.bind_single {e : Expr} {name : String} (hmembers : e.members = [name])
    (hname : name ≠ resultName) : e.bind (.single name column keepCase) = .ok () := by
  rw [Expr.bind, hmembers]
  show (do (do let _ ← Row.resolve _ name; pure ()); pure ()) = _
  rw [Row.resolve_single hname]
  rfl

/-- What an expression about one member comes to, if its value is a truth value or unknown. -/
theorem Expr.evaluation_single {e : Expr} {v : Value} {truth : Truth}
    (hmembers : e.members = [b.name]) (hname : b.name ≠ resultName)
    (hcolumn : b.column = .ok column) (hvalue : e.value (.single b.name column keepCase) = .ok v)
    (hcheck : checkResult v = .ok ()) (hresult : Column.result v = .ok truth) :
    e.evaluation [b] keepCase =
      .ok ⟨truth.getD false, v, ⟨[(b.name, column)], some truth, keepCase⟩⟩ := by
  have hrow : Row.ofBindings [b] keepCase (some [b.name]) = .ok (.single b.name column keepCase) :=
    Row.ofBindings_single hname (List.mem_singleton_self _) hcolumn
  have hbind : e.bind (.single b.name column keepCase) = .ok () := bind_single hmembers hname
  rw [evaluation, hmembers, hrow]
  simp only [Bind.bind, Except.bind, hbind, hvalue, hcheck, Row.store, hresult]
  rfl

end

end RuleCheck
