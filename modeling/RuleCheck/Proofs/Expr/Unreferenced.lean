import RuleCheck.Proofs.Expr.Typed
import RuleCheck.Proofs.Expr.Verdict

/-!
# Members that an expression does not refer to

An expression reads no more of a row than what its identifiers stand for. Members that it does
not refer to can therefore be added, changed, moved and taken away: as long as there is a row at
all, the verdict stays, and so does the failure if there is one.
-/

set_option autoImplicit false

namespace RuleCheck

open Text

namespace Expr

/-- The value of an expression depends on its identifiers alone. -/
theorem sameBut_value {row row' : Row} (hkeep : row.keepCase = row'.keepCase) {e : Expr}
    (hget : ∀ name ∈ e.names, SameBut (row.get name) (row'.get name)) :
    SameBut (e.value row) (e.value row') := by
  induction e with
  | member name position => exact hget name (List.mem_singleton_self name)
  | literal v => cases v <;> exact .refl _
  | sign op x ih => exact (ih hget).bind fun v _ => .refl _
  | compute op l r ihl ihr =>
    obtain ⟨hl, hr⟩ := List.forall_mem_append.1 hget
    exact (ihl hl).bind fun v _ => (ihr hr).bind fun w _ => .refl _
  | compare op l r ihl ihr =>
    obtain ⟨hl, hr⟩ := List.forall_mem_append.1 hget
    refine (ihl hl).bind fun v _ => (ihr hr).bind fun w _ => ?_
    rw [hkeep]
    exact .refl _
  | isNull negated x ih => exact (ih hget).bind fun v _ => .refl _
  | not x ih => exact (ih hget).bind fun v _ => .refl _
  | and l r ihl ihr =>
    obtain ⟨hl, hr⟩ := List.forall_mem_append.1 hget
    -- The left value is the same in both rows, so the right side is looked at in both or neither.
    refine (ihl hl).bind fun v _ => ?_
    split
    · exact .refl _
    · exact (ihr hr).bind fun w _ => .refl _
  | or l r ihl ihr =>
    obtain ⟨hl, hr⟩ := List.forall_mem_append.1 hget
    refine (ihl hl).bind fun v _ => ?_
    split
    · exact .refl _
    · exact (ihr hr).bind fun w _ => .refl _
  | foreign kind => exact .refl _

theorem sameBut_bind {row row' : Row} {e : Expr}
    (hresolve : ∀ name ∈ e.members, SameBut (row.resolve name) (row'.resolve name)) :
    SameBut (e.bind row) (e.bind row') := by
  rw [Expr.bind, Expr.bind]
  generalize e.members = names at hresolve
  induction names with
  | nil => exact .refl _
  | cons name names ih =>
    rw [List.forall_mem_cons] at hresolve
    exact (hresolve.1.bind fun _ _ => .refl _).bind fun _ _ => ih hresolve.2

/-- The name is one that the expression uses, up to distinctions of case. -/
def uses (e : Expr) (name : String) : Bool := Row.isUsed (some e.members) name

theorem uses_of_fold {e : Expr} {name n : String} (hname : name ∈ e.members)
    (h : fold n = fold name) : e.uses n = true :=
  List.any_eq_true.2 ⟨name, hname, beq_iff_eq.2 h.symm⟩

section

variable {row row' : Row} {e : Expr}

/-- Rows that hold the same of the names that an expression uses hold all its members or miss
some. -/
theorem sameBut_bind_of_seen (hsame : Row.SameSeen e.uses row row') :
    SameBut (e.bind row) (e.bind row') :=
  sameBut_bind fun _ hname => hsame.resolve fun _ => uses_of_fold hname

/-- Where two rows hold the same of the names that an expression uses, it comes to the same. -/
theorem sameBut_value_of_seen (hsame : Row.SameSeen e.uses row row') :
    SameBut (e.value row) (e.value row') :=
  sameBut_value hsame.keepCase fun _ hname =>
    hsame.get fun _ => uses_of_fold (mem_firsts.2 hname)

theorem sameBut_verdict {bindings bindings' : List Binding} {keepCase : Bool}
    (hrow : Row.ofBindings bindings keepCase (some e.members) = .ok row)
    (hrow' : Row.ofBindings bindings' keepCase (some e.members) = .ok row')
    (hsame : Row.SameSeen e.uses row row') :
    SameBut (e.verdict bindings keepCase) (e.verdict bindings' keepCase) := by
  rw [verdict, verdict, hrow, hrow']
  exact (sameBut_bind_of_seen hsame).bind fun _ _ =>
    (sameBut_value_of_seen hsame).bind fun _ _ => .refl _

end

end Expr

/-- Members that an expression does not refer to have no influence: the verdict is the same, or
the failure is, but for the names that are offered for an unknown one. -/
theorem evaluate_unreferenced {source : String} {bindings bindings' : List Binding}
    {keepCase : Bool} {e : Expr} {row row' : Row} (he : Expr.read source = .ok e)
    (hrow : Row.ofBindings bindings keepCase (some e.members) = .ok row)
    (hrow' : Row.ofBindings bindings' keepCase (some e.members) = .ok row')
    (hsame : (bindings.filter fun b => e.uses b.name) = bindings'.filter fun b => e.uses b.name) :
    (evaluate source bindings keepCase).mapError Failure.withoutChoice =
      (evaluate source bindings' keepCase).mapError Failure.withoutChoice := by
  have hseen : Row.SameSeen e.uses row row' :=
    Row.sameSeen_ofBindings (fun _ h => h) (fun _ h => h) hrow hrow' hsame
  have hverdict := Expr.sameBut_verdict hrow hrow' hseen
  rw [evaluate_eq, evaluate_eq, he]
  exact hverdict.attaching source

def crowdedShelf : List Binding :=
  [⟨"Price", .single .float, .text "cheap"⟩, ⟨"Stock", .single .text, .text "none"⟩,
    ⟨"Names", .single .text, .text "many"⟩, ⟨"Name", .single .text, .null⟩,
    ⟨"Limit", .single .int, .text "few"⟩, ⟨"Stock", .single .int, .int 7⟩]

def crowdedRow : Row :=
  ⟨[("Price", .text (some "cheap")), ("Stock", .int (some 7)), ("Names", .text (some "many")),
      ("Name", .text none), ("Limit", .text (some "few"))], none, false⟩

theorem evaluate_crowdedShelf :
    Expr.read shelfRule = .ok shelfExpr ∧
      Row.ofBindings shelf false (some shelfExpr.members) = .ok shelfRow ∧
      Row.ofBindings crowdedShelf false (some shelfExpr.members) = .ok crowdedRow ∧
      (evaluate shelfRule shelf false).mapError Failure.withoutChoice =
        (evaluate shelfRule crowdedShelf false).mapError Failure.withoutChoice := by
  have hrow : Row.ofBindings shelf false (some shelfExpr.members) = .ok shelfRow := rfl
  have hcrowded : Row.ofBindings crowdedShelf false (some shelfExpr.members) = .ok crowdedRow := rfl
  exact ⟨read_shelfRule, hrow, hcrowded, evaluate_unreferenced read_shelfRule hrow hcrowded rfl⟩

end RuleCheck
