import RuleCheck.Failure

/-!
# Outcomes that agree but for their wording

Two faults with the same reason are told apart by their wording only: by the place and the
expression that they name. Two steps agree if both end well, with results that are related,
or both fail so. A closer agreement leaves open no more than which names are offered for an
unknown one, and a looser one leaves open how a step fails.
-/

set_option autoImplicit false

namespace RuleCheck

instance decidableEqOutcome {ε α : Type} [DecidableEq ε] [DecidableEq α] :
    DecidableEq (Except ε α)
  | .error e, .error e' => decidable_of_iff (e = e') (by simp)
  | .ok a, .ok a' => decidable_of_iff (a = a') (by simp)
  | .error _, .ok _ => isFalse nofun
  | .ok _, .error _ => isFalse nofun

theorem mapError_eq_ok {α : Type} {x : Except Failure α} {f : Failure → Failure} {a : α} :
    x.mapError f = .ok a ↔ x = .ok a := by
  cases x with
  | ok b => exact Iff.rfl
  | error g => exact ⟨nofun, nofun⟩

theorem attaching_eq_ok {α : Type} {x : Except Failure α} {source : String} {a : α} :
    attaching source x = .ok a ↔ x = .ok a := mapError_eq_ok

inductive Failure.Alike : Failure → Failure → Prop
  | same (f : Failure) : Alike f f
  | fault {a b : Fault} (h : a.reason = b.reason) : Alike (.fault a) (.fault b)

/-- Both steps end well, with related results, or both fail in the same way. -/
inductive Alike {α : Type} (R : α → α → Prop) : Except Failure α → Except Failure α → Prop
  | ok {a b : α} (h : R a b) : Alike R (.ok a) (.ok b)
  | error {f g : Failure} (h : f.Alike g) : Alike R (.error f) (.error g)

namespace Alike

variable {α β : Type} {R : α → α → Prop} {S : β → β → Prop}

theorem refl (hR : ∀ a, R a a) (x : Except Failure α) : Alike R x x := by
  cases x with
  | ok a => exact .ok (hR a)
  | error f => exact .error (.same f)

/-- Steps that agree, each followed by steps that agree on related results. -/
theorem bind {x y : Except Failure α} {f g : α → Except Failure β} (h : Alike R x y)
    (hnext : ∀ a b, R a b → Alike S (f a) (g b)) : Alike S (x >>= f) (y >>= g) := by
  cases h with
  | ok hab => exact hnext _ _ hab
  | error hfg => exact .error hfg

theorem attaching {x y : Except Failure α} (h : Alike R x y) (source source' : String) :
    Alike R (attaching source x) (RuleCheck.attaching source' y) := by
  cases h with
  | ok hab => exact .ok hab
  | @error f g hfg =>
    refine .error ?_
    cases hfg with
    | same =>
      cases f with
      | fault f => exact .fault rfl
      | _ => exact .same _
    | fault hreason => exact .fault hreason

end Alike

def Failure.withoutChoice : Failure → Failure
  | fault ⟨.unknownName name _, expression⟩ => fault ⟨.unknownName name [], expression⟩
  | other => other

theorem Failure.withoutChoice_attach (expression : String) (f : Failure) :
    (f.attach expression).withoutChoice = f.withoutChoice.attach expression := by
  cases f with
  | fault f =>
    obtain ⟨cause, named⟩ := f
    cases cause <;> rfl
  | _ => rfl

def SameBut {α : Type} (x y : Except Failure α) : Prop :=
  x.mapError Failure.withoutChoice = y.mapError Failure.withoutChoice

namespace SameBut

variable {α β : Type} {x y : Except Failure α}

theorem refl (x : Except Failure α) : SameBut x x := rfl

theorem ok_iff (h : SameBut x y) {a : α} : x = .ok a ↔ y = .ok a := by
  rw [← mapError_eq_ok (f := Failure.withoutChoice), h, mapError_eq_ok]

/-- Two outcomes that are the same but for a choice of names both end well or both fail. -/
theorem cases_on (h : SameBut x y) :
    (∃ a, x = .ok a ∧ y = .ok a) ∨
      ∃ f g : Failure, x = .error f ∧ y = .error g ∧ f.withoutChoice = g.withoutChoice := by
  cases x with
  | ok a => exact .inl ⟨a, rfl, h.ok_iff.1 rfl⟩
  | error f =>
    cases y with
    | ok a => cases h
    | error g => exact .inr ⟨f, g, rfl, rfl, Except.error.inj h⟩

theorem bind {f g : α → Except Failure β} (h : SameBut x y)
    (hnext : ∀ a, x = .ok a → SameBut (f a) (g a)) : SameBut (x >>= f) (y >>= g) := by
  rcases h.cases_on with ⟨a, rfl, rfl⟩ | ⟨f', g', rfl, rfl, hfg⟩
  · exact hnext a rfl
  · exact congrArg Except.error hfg

theorem attaching (h : SameBut x y) (source : String) :
    SameBut (RuleCheck.attaching source x) (RuleCheck.attaching source y) := by
  rcases h.cases_on with ⟨a, rfl, rfl⟩ | ⟨f, g, rfl, rfl, hfg⟩
  · exact refl _
  · have hattached : (f.attach source).withoutChoice = (g.attach source).withoutChoice := by
      rw [Failure.withoutChoice_attach, Failure.withoutChoice_attach, hfg]
    exact congrArg Except.error hattached

end SameBut

inductive Concur {α : Type} : Except Failure α → Except Failure α → Prop
  | ok (a : α) : Concur (.ok a) (.ok a)
  | error (f g : Failure) : Concur (.error f) (.error g)

theorem Concur.of_ok_iff {α : Type} {x y : Except Failure α} (h : ∀ a, x = .ok a ↔ y = .ok a) :
    Concur x y := by
  cases x with
  | ok a =>
    rw [(h a).1 rfl]
    exact .ok a
  | error f =>
    cases y with
    | ok a => cases (h a).2 rfl
    | error g => exact .error f g

end RuleCheck
