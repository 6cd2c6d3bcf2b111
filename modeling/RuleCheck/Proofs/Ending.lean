import RuleCheck.Failure

/-!
# Ways to end

A step ends well, or in a fault of the rule, or it lets another failure through. Which others
there can be is found step by step, and naming the expression leaves them as they are.
-/

set_option autoImplicit false

namespace RuleCheck

inductive Ends {α : Type} (P : α → Prop) (E : Failure → Prop) : Except Failure α → Prop
  | ok {a : α} (h : P a) : Ends P E (.ok a)
  | fault (f : Fault) : Ends P E (.error (.fault f))
  | other {f : Failure} (h : E f) : Ends P E (.error f)

namespace Ends

variable {α β : Type} {P P' : α → Prop} {Q : β → Prop} {E E' : Failure → Prop}
  {x : Except Failure α}

theorem bind {next : α → Except Failure β} (h : Ends P E x)
    (hnext : ∀ a, x = .ok a → P a → Ends Q E (next a)) : Ends Q E (x >>= next) := by
  cases h with
  | ok ha => exact hnext _ rfl ha
  | fault f => exact .fault f
  | other hf => exact .other hf

theorem mono (h : Ends P E x) (hP : ∀ a, x = .ok a → P a → P' a) (hE : ∀ f, E f → E' f) :
    Ends P' E' x := by
  cases h with
  | ok ha => exact .ok (hP _ rfl ha)
  | fault f => exact .fault f
  | other hf => exact .other (hE _ hf)

theorem of_eq_ok (h : Ends P E x) {a : α} (ha : x = .ok a) : P a := by
  cases h with
  | ok hP =>
    cases ha
    exact hP
  | fault => cases ha
  | other => cases ha

theorem attaching (h : Ends P E x) {source : String} (hE : ∀ f, E f → f.attach source = f) :
    Ends P E (RuleCheck.attaching source x) := by
  cases h with
  | ok ha => exact .ok ha
  | fault f => exact .fault _
  | @other f hf =>
    refine .other ?_
    rw [hE f hf]
    exact hf

end Ends

def FailsBy {α : Type} (E : Failure → Prop) (x : Except Failure α) : Prop := ∀ f, x = .error f → E f

namespace FailsBy

variable {α β : Type} {E E' : Failure → Prop} {x : Except Failure α}

theorem ok (a : α) : FailsBy E (.ok a) := nofun

theorem error {f : Failure} (h : E f) : FailsBy E (.error f : Except Failure α) := by
  rintro g ⟨⟩
  exact h

theorem bind {next : α → Except Failure β} (h : FailsBy E x)
    (hnext : ∀ a, x = .ok a → FailsBy E (next a)) : FailsBy E (x >>= next) := by
  cases x with
  | ok a => exact hnext a rfl
  | error f => exact error (h f rfl)

theorem map (h : FailsBy E x) (next : α → β) : FailsBy E (x.map next) :=
  h.bind fun a _ => ok (next a)

/-- A fold of steps that fail by some sort of failure fails by that sort. -/
theorem foldlM {step : β → α → Except Failure β} (b : β) {more : List α}
    (h : ∀ b, ∀ a ∈ more, FailsBy E (step b a)) : FailsBy E (more.foldlM step b) := by
  induction more generalizing b with
  | nil => exact ok b
  | cons a more ih =>
    rw [List.foldlM_cons]
    exact (h b a List.mem_cons_self).bind fun next _ =>
      ih next fun b' a' ha' => h b' a' (List.mem_cons_of_mem a ha')

theorem mono (h : FailsBy E x) (hE : ∀ f, E f → E' f) : FailsBy E' x := fun f hf => hE f (h f hf)

end FailsBy

end RuleCheck
