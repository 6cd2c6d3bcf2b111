import RuleCheck.Proofs.Authored.Checked
import RuleCheck.Proofs.Template.Message

/-!
# What a check records

A check that ends in a fault records it, and nothing else. One that finds a verdict records the
evaluation and its outcome, also where the template of the message is at fault. What comes before,
a blank rule or a candidate whose members are unknown, leaves no record.
-/

set_option autoImplicit false

namespace RuleCheck

namespace Hierarchy

def IsUntold (f : Failure) : Prop := f = .unreadableType ∨ f = .brokenType

theorem fails_told {α : Type} (x : Except AnnotationFault α) :
    FailsBy IsUntold (x.mapError failureOf) := by
  cases x with
  | ok a => exact .ok a
  | error fault =>
    cases fault with
    | unreadable => exact .error (.inl rfl)
    | unresolved => exact .error (.inr rfl)
    | other => exact .error (.inr rfl)

theorem fails_propertyHint (h : Hierarchy) (p : Property) :
    FailsBy IsUntold (h.propertyHint p) := by
  unfold propertyHint
  split
  · exact fails_told _
  · exact .ok _

theorem fails_members (h : Hierarchy) : FailsBy IsUntold h.members := by
  refine (fails_told _).bind fun hints _ => ?_
  have hcomputed : ∀ members, ∀ entry ∈ h.propertiesOf,
      FailsBy IsUntold (h.addComputed members entry) := fun _ entry _ =>
    (h.fails_propertyHint entry.2).bind fun _ _ => .ok _
  exact (FailsBy.foldlM _ hcomputed).bind fun _ _ => .ok _

end Hierarchy

namespace Candidate

theorem fails_members (candidate : Candidate) :
    FailsBy Hierarchy.IsUntold candidate.members := by
  cases candidate with
  | mapping => exact .ok _
  | object h => exact h.fails_members.bind fun _ _ => .ok _

theorem fails_bindings (candidate : Candidate) (given : Option (List Descriptor)) :
    FailsBy Hierarchy.IsUntold (candidate.bindings given) := by
  cases given with
  | some members => exact .ok _
  | none => exact candidate.fails_members.bind fun _ _ => .ok _

end Candidate

namespace Check

/-- The records and the answer of a check: no record, or that of the fault that it ends in, or those
of an evaluation and its verdict. -/
inductive Recorded (candidate : Candidate) (c : Check) : Report → Prop
  | nothing {answer : Except Failure Outcome} (hfault : ∀ f, answer ≠ .error (.fault f))
      (hblank : ∀ o, answer = .ok o → c.isBlank = true) : Recorded candidate c ⟨[], answer⟩
  | fault (f : Fault) : Recorded candidate c ⟨[failed candidate f], .error (.fault f)⟩
  | verdict {answer : Except Failure Outcome} (source : String) (e : Evaluation)
      (hfault : ∀ f, answer ≠ .error (.fault f))
      (hsuccess : ∀ o, answer = .ok o → o.success = e.verdict) :
      Recorded candidate c ⟨[evaluated source e,
        .outcome source e.verdict c.member [("type", candidate.typeName)]], answer⟩

theorem exists_settings {settings : Source} {rule : String} {member : Option String}
    {bindings : List Binding} {found : String × Evaluation}
    (h : evaluate settings rule member bindings = .ok found) : ∃ st, settings = .ok st := by
  obtain ⟨source, -, hrest⟩ := exists_of_bind_eq_ok h
  obtain ⟨st, hst, -⟩ := exists_of_bind_eq_ok hrest
  exact ⟨st, hst⟩

theorem fails_conclude [Things] (st : Settings) (candidate : Candidate) (c : Check) (holds : Bool) :
    FailsBy Template.IsDefect (conclude (.ok st) candidate c holds) := by
  rw [Authored.conclude_eq_fill]
  split
  · exact .ok _
  · exact (Template.fails_fill _ _).map _

theorem success_of_conclude [Things] {st : Settings} {candidate : Candidate} {c : Check} {holds : Bool}
    {o : Outcome} (h : conclude (.ok st) candidate c holds = .ok o) : o.success = holds := by
  rw [Authored.conclude_eq_fill] at h
  cases holds with
  | true =>
    cases h
    rfl
  | false =>
    obtain ⟨message, -, hmessage⟩ := exists_of_bind_eq_ok h
    cases hmessage
    rfl

theorem recorded_run [Things] (settings : Source) (candidate : Candidate) (c : Check) :
    Recorded candidate c (c.run settings candidate) := by
  rw [run]
  cases hblank : c.isBlank with
  | true => exact .nothing (fun _ h => by cases h) fun _ _ => hblank
  | false =>
    cases hbindings : candidate.bindings c.members with
    | error failure =>
      rcases candidate.fails_bindings c.members failure hbindings with rfl | rfl
      all_goals exact .nothing (fun _ h => by cases h) fun _ h => by cases h
    | ok bindings =>
      simp only [Bool.false_eq_true, if_false]
      split
      · exact .fault _
      · rename_i failure hother _
        exact .nothing (fun f hf => hother f (Except.error.inj hf)) fun _ h => by cases h
      · rename_i source e hfound
        obtain ⟨st, rfl⟩ := exists_settings hfound
        refine .verdict source e (fun f hf => ?_) fun o => success_of_conclude
        obtain ⟨defect, hdefect⟩ := fails_conclude st candidate c e.verdict _ hf
        cases hdefect

end Check

end RuleCheck
