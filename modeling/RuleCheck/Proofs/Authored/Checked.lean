import RuleCheck.Proofs.Authored.Lexed
import RuleCheck.Proofs.Reading.Unplaced
import RuleCheck.Rule

/-!
# Checking an authored rule

What a check comes to depends on the lexemes that the rule is read as and on whether it holds
a placeholder. Rules that agree in both are checked alike: with the same outcome, or with
failures for the same reason.
-/

set_option autoImplicit false

namespace RuleCheck.Authored

open Text Lexeme

def plainSettings : Settings := ⟨.info, "", false, Settings.defaultMessage⟩

section

variable {text text' : List Char} {member : Option String}

theorem scan_canonical (text : List Char) : scan (canonical text) = scan (respelled text) := by
  rw [canonical_eq, scan_trim]

theorem normalize_of_not_contains (h : contains placeholder text = false) :
    normalize (String.ofList text) member = .ok (String.ofList (canonical text)) := by
  simp only [normalize, String.toList_ofList, contains_canonical, h]
  rfl

theorem normalize_of_contains (h : contains placeholder text = true) :
    normalize (String.ofList text) none =
      .error (.fault ⟨.placeholder, some (String.ofList text)⟩) := by
  simp only [normalize, String.toList_ofList, contains_canonical, h]
  rfl

/-- Rules that are read as the same lexemes are evaluated alike. -/
theorem evaluate_alike (settings : Check.Source) (bindings : List Binding)
    (hscan : scan (respelled text) = scan (respelled text'))
    (hcontains : contains placeholder text = contains placeholder text')
    (hmember : member = none ∨ contains placeholder text = false) :
    Alike (fun a b => a.2 = b.2)
      (Check.evaluate settings (String.ofList text) member bindings)
      (Check.evaluate settings (String.ofList text') member bindings) := by
  cases hmark : contains placeholder text with
  | true =>
    obtain rfl : member = none := hmember.elim id fun h => by rw [hmark] at h; cases h
    rw [Check.evaluate, Check.evaluate, normalize_of_contains hmark,
      normalize_of_contains (hcontains ▸ hmark)]
    exact .error (.fault rfl)
  | false =>
    rw [Check.evaluate, Check.evaluate, normalize_of_not_contains hmark,
      normalize_of_not_contains (hcontains ▸ hmark)]
    refine (Alike.refl (R := Eq) (fun _ => rfl) settings).bind fun s s' hs => ?_
    subst hs
    refine (evaluateIn_alike ?_ bindings s.keepCase).bind fun e e' he => .ok he
    rw [String.toList_ofList, String.toList_ofList, scan_canonical, scan_canonical, hscan]

variable [Things]

/-- A check of a rule that is not blank: its members, its evaluation and its outcome. -/
theorem validate_eq (settings : Check.Source) (candidate : Candidate) (c : Check)
    (text : List Char) :
    validate settings candidate { c with expression := some (String.ofList text) } =
      if isBlank text then .ok .passed
      else (do
        let bindings ← candidate.bindings c.members
        let found ← Check.evaluate settings (String.ofList text) c.member bindings
        Check.conclude settings candidate c found.2.verdict) := by
  have hblank : Check.isBlank { c with expression := some (String.ofList text) } = isBlank text :=
    congrArg isBlank String.toList_ofList
  rw [validate, Check.run, hblank]
  cases isBlank text with
  | true => rfl
  | false =>
    cases candidate.bindings c.members with
    | error failure => rfl
    | ok bindings =>
      show _ = Check.evaluate settings (String.ofList text) c.member bindings >>= fun found =>
        Check.conclude settings candidate c found.2.verdict
      simp only [Bool.false_eq_true, if_false, Option.getD_some]
      cases Check.evaluate settings (String.ofList text) c.member bindings with
      | error failure => cases failure <;> rfl
      | ok found => rfl

/-- A violated check fills in its own template, or else that of the settings. -/
theorem conclude_eq_fill (st : Settings) (candidate : Candidate) (c : Check) (holds : Bool) :
    Check.conclude (.ok st) candidate c holds =
      if holds then .ok .passed
      else (Template.fill (c.message.getD st.message) (c.member.getD candidate.typeName)).map
        fun message => .failed (some message) c.member.toList := by
  cases holds with
  | true => rfl
  | false =>
    have htemplate : Check.failureMessage (.ok st) candidate c.member c.message =
        Template.fill (c.message.getD st.message) (c.member.getD candidate.typeName) := by
      cases hmessage : c.message <;> rfl
    show (do let message ← Check.failureMessage (.ok st) candidate c.member c.message; _) = _
    rw [htemplate]
    cases Template.fill (c.message.getD st.message) (c.member.getD candidate.typeName) <;> rfl

/-- Without a template of its own a violated check takes that of the settings. -/
theorem conclude_eq (st : Settings) (candidate : Candidate) {c : Check}
    (hmessage : c.message = none) (holds : Bool) :
    Check.conclude (.ok st) candidate c holds =
      if holds then .ok .passed
      else (Template.fill st.message (c.member.getD candidate.typeName)).map fun message =>
        .failed (some message) c.member.toList := by
  rw [conclude_eq_fill, hmessage, Option.getD_none]

/-- A rule whose lexemes spell an expression holds where that expression does. -/
theorem validate_of_scan {s : Settings} {candidate : Candidate} {c : Check}
    {bindings : List Binding} {ls : List Lexeme} {e : Expr} {found : Evaluation}
    (hblank : isBlank text = false) (hcontains : contains placeholder text = false)
    (hscan : scan (respelled text) = .ok ls) (hspells : Spells 1 ls e)
    (hbindings : candidate.bindings c.members = .ok bindings)
    (hfound : e.evaluation bindings s.keepCase = .ok found) :
    validate (.ok s) candidate { c with expression := some (String.ofList text) } =
      Check.conclude (.ok s) candidate c found.verdict := by
  have hsource : scan (String.ofList (canonical text)).toList = .ok ls := by
    rw [String.toList_ofList, scan_canonical, hscan]
  have hevaluate : Check.evaluate (.ok s) (String.ofList text) c.member bindings =
      .ok (String.ofList (canonical text), found) := by
    rw [Check.evaluate, normalize_of_not_contains hcontains]
    show (do return (_, ← evaluateIn _ bindings s.keepCase)) = _
    rw [evaluateIn_of_scan hsource hspells, hfound]
    rfl
  rw [validate_eq, hblank, hbindings]
  show (do let found ← Check.evaluate (.ok s) (String.ofList text) c.member bindings; _) = _
  rw [hevaluate]
  rfl

theorem validate_alike (settings : Check.Source) (candidate : Candidate) (c : Check)
    (hblank : isBlank text = isBlank text') (hscan : scan (respelled text) = scan (respelled text'))
    (hcontains : contains placeholder text = contains placeholder text')
    (hmember : c.member = none ∨ contains placeholder text = false) :
    Alike Eq (validate settings candidate { c with expression := some (String.ofList text) })
      (validate settings candidate { c with expression := some (String.ofList text') }) := by
  rw [validate_eq, validate_eq, ← hblank]
  cases isBlank text with
  | true => exact .refl (fun _ => rfl) _
  | false =>
    refine (Alike.refl (R := Eq) (fun _ => rfl) (candidate.bindings c.members)).bind ?_
    rintro bindings _ rfl
    refine (evaluate_alike settings bindings hscan hcontains hmember).bind fun found found' h => ?_
    rw [h]
    exact .refl (fun _ => rfl) _

end

end RuleCheck.Authored
