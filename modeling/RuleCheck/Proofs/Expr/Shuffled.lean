import RuleCheck.Proofs.Expr.Unreferenced
import RuleCheck.Proofs.Row.Columns

/-!
# Members in another order

The members of an evaluation can come in any order, as long as each has a name of its own: the
verdict is the same, or there is none. How an evaluation fails may depend on the order, since the
first member that spoils the row is the one that is named.
-/

set_option autoImplicit false

namespace RuleCheck

variable {source : String} {bindings bindings' : List Binding} {keepCase b : Bool}

namespace Expr

variable {e : Expr} {row row' : Row}

theorem bind_of_shuffled (h : Row.Shuffled row row') (hbind : e.bind row = .ok ()) :
    e.bind row' = .ok () := by
  refine bind_eq_ok fun name hname => ?_
  obtain ⟨found, hfound⟩ := exists_resolve_of_bind hbind name hname
  exact ⟨found, h.resolve hfound⟩

/-- An expression whose members are all there has the same value. -/
theorem value_of_shuffled (h : Row.Shuffled row row') (hbind : e.bind row = .ok ()) :
    SameBut (e.value row) (e.value row') := by
  refine sameBut_value h.keepCase fun name hname => ?_
  obtain ⟨found, hfound⟩ := exists_resolve_of_bind hbind name hname
  rw [h.get_eq hfound]
  exact .refl _

theorem verdict_of_perm (hnames : (bindings.map Binding.name).Nodup)
    (hperm : bindings.Perm bindings') (h : e.verdict bindings keepCase = .ok b) :
    e.verdict bindings' keepCase = .ok b := by
  obtain ⟨row, v, hrow, hbind, hv, hverdict⟩ := verdict_eq_ok.1 h
  obtain ⟨row', hrow', hshuffled⟩ := Row.exists_shuffled hnames hperm hrow
  have hv' : e.value row' = .ok v := (value_of_shuffled hshuffled hbind).ok_iff.1 hv
  exact verdict_eq_ok.2 ⟨row', v, hrow', bind_of_shuffled hshuffled hbind, hv', hverdict⟩

end Expr

/-- Members with names of their own give the same verdict in any order, or fail in any order. -/
theorem evaluate_perm (hnames : (bindings.map Binding.name).Nodup)
    (hperm : bindings.Perm bindings') (source : String) (keepCase : Bool) :
    Concur (evaluate source bindings keepCase) (evaluate source bindings' keepCase) := by
  have hnames' : (bindings'.map Binding.name).Nodup := (hperm.map Binding.name).nodup_iff.1 hnames
  refine .of_ok_iff fun b => ?_
  rw [evaluate_eq_ok, evaluate_eq_ok]
  constructor
  · rintro ⟨e, he, h⟩
    exact ⟨e, he, Expr.verdict_of_perm hnames hperm h⟩
  · rintro ⟨e, he, h⟩
    exact ⟨e, he, Expr.verdict_of_perm hnames' hperm.symm h⟩

def twiceStocked : List Binding :=
  [⟨"stock", .single .int, .int 7⟩, ⟨"Stock", .single .int, .int 8⟩, ⟨"Name", .single .text, .null⟩]

theorem evaluate_perm_twiceStocked :
    (twiceStocked.map Binding.name).Nodup ∧ twiceStocked.Perm twiceStocked.reverse ∧
      evaluate shelfRule twiceStocked false = .ok false ∧
      Concur (evaluate shelfRule twiceStocked false)
        (evaluate shelfRule twiceStocked.reverse false) :=
  have hnames : (twiceStocked.map Binding.name).Nodup := by decide
  have hperm : twiceStocked.Perm twiceStocked.reverse := (List.reverse_perm _).symm
  ⟨hnames, hperm, evaluate_eq_ok.2 ⟨shelfExpr, read_shelfRule, rfl⟩,
    evaluate_perm hnames hperm shelfRule false⟩

end RuleCheck
