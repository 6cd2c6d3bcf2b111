import RuleCheck.Proofs.Authored.Checked
import RuleCheck.Proofs.Expr.Verdict
import RuleCheck.Proofs.Template.Exact

/-!
# Violated rules

A rule that does not hold is violated, which is an outcome: its message shows the member or else the
type of the candidate at each placeholder of the template. Only the template itself can be in the
way, and a defect of it stays hidden as long as the rule holds.
-/

set_option autoImplicit false

namespace RuleCheck

open Text Lexeme

namespace Check

def template (st : Settings) (c : Check) : String := c.message.getD st.message

def subject (candidate : Candidate) (c : Check) : String := c.member.getD candidate.typeName

def plainMessage (st : Settings) (candidate : Candidate) (c : Check) : String :=
  String.ofList (replace placeholder (c.subject candidate).toList (c.template st).toList)

end Check

namespace Authored

theorem not_isBlank_of_evaluate {text : List Char} {member : Option String} {source : String}
    {bindings : List Binding} {keepCase b : Bool}
    (hsource : normalize (String.ofList text) member = .ok source)
    (h : evaluate source bindings keepCase = .ok b) : isBlank text = false := by
  cases hblank : isBlank text with
  | false => rfl
  | true =>
    have hopening : ∀ c ∈ text, c ≠ '{' := by
      rintro c hc rfl
      exact not_mem_blank (by decide) hblank hc
    have habsent : contains placeholder text = false := by
      have hpass := contains_pass_all (p := ['0', '}']) hopening []
      rwa [List.append_nil] at hpass
    rw [normalize_of_not_contains habsent] at hsource
    cases hsource
    have hscan := scan_gap hblank []
    rw [List.append_nil, respelled_nil, scan_nil, ← scan_canonical] at hscan
    obtain ⟨e, he, -⟩ := evaluate_eq_ok.1 h
    obtain ⟨ls, hls, hspells⟩ := Expr.exists_scan_of_read he
    rw [String.toList_ofList, hscan] at hls
    cases hls
    obtain ⟨x, hx, -⟩ := hspells [] rfl
    exact absurd rfl hx.ne_nil

theorem validate_eq_conclude_of_evaluate [Things] {st : Settings} {candidate : Candidate} {c : Check}
    {rule source : String} {bindings : List Binding} {b : Bool} (hrule : c.expression = some rule)
    (hsource : normalize rule c.member = .ok source)
    (hbindings : candidate.bindings c.members = .ok bindings)
    (h : evaluate source bindings st.keepCase = .ok b) :
    validate (.ok st) candidate c = Check.conclude (.ok st) candidate c b := by
  obtain ⟨found, hfound, hverdict⟩ := exists_of_bind_eq_ok h
  cases hverdict
  have hevaluate : Check.evaluate (.ok st) rule c.member bindings = .ok (source, found) := by
    rw [Check.evaluate, hsource]
    show (do return (source, ← evaluateIn source bindings st.keepCase)) = _
    rw [hfound]
    rfl
  have hvalidate := validate_eq (.ok st) candidate c rule.toList
  rw [String.ofList_toList, ← hrule] at hvalidate
  refine hvalidate.trans ?_
  rw [← String.ofList_toList (s := rule)] at hsource
  rw [not_isBlank_of_evaluate hsource h, hbindings]
  show (do let found ← Check.evaluate (.ok st) rule c.member bindings; _) = _
  rw [hevaluate]
  rfl

/-- A rule that does not hold fails with its template filled in, whatever things there are. Where
every brace belongs to a placeholder this is the outcome with its plain message, whatever the
candidate and the names are, and only there: any other template asks a text for an attribute, or has
a subject that it shows otherwise or not at all. There is an outcome or a defect of the template, and
no other failure. -/
theorem validate_violated [Things] {st : Settings} {candidate : Candidate} {c : Check}
    {rule source : String} {bindings : List Binding} (hrule : c.expression = some rule)
    (hsource : normalize rule c.member = .ok source)
    (hbindings : candidate.bindings c.members = .ok bindings)
    (hfalse : evaluate source bindings st.keepCase = .ok false) :
    validate (.ok st) candidate c =
        (Template.fill (c.template st) (c.subject candidate)).map
          (fun message => .failed (some message) c.member.toList) ∧
      (Template.IsPlain (c.template st) → validate (.ok st) candidate c =
        .ok (.failed (some (c.plainMessage st candidate)) c.member.toList)) ∧
      (¬Template.IsPlain (c.template st) →
        (∃ subject, @Template.fill Things.bare (c.template st) subject =
          .error (.template .attribute)) ∨
        ∃ subject : String, Template.fill (c.template st) subject ≠
          .ok (String.ofList (replace placeholder subject.toList (c.template st).toList))) ∧
      FailsBy Template.IsDefect (validate (.ok st) candidate c) := by
  have hvalidate : validate (.ok st) candidate c =
      (Template.fill (c.template st) (c.subject candidate)).map
        (fun message => .failed (some message) c.member.toList) :=
    (validate_eq_conclude_of_evaluate hrule hsource hbindings hfalse).trans
      (conclude_eq_fill st candidate c false)
  refine ⟨hvalidate, fun hplain => ?_, Template.exists_fill_ne, ?_⟩
  · rw [hvalidate, Template.fill_plain hplain]
    rfl
  · rw [hvalidate]
    exact (Template.fails_fill _ _).map _

def twiceNamedCheck : Check :=
  ⟨some "\x7b0\x7d > 0", some "stock", some "\x7b0\x7d: \x7b0\x7d is not positive", none⟩

open scoped Things in
theorem validate_twiceNamed :
    Template.IsPlain (twiceNamedCheck.template plainSettings) ∧
      validate (.ok plainSettings) (.mapping "dict" [("stock", .int 0)]) twiceNamedCheck =
        .ok (.failed (some "stock: stock is not positive") ["stock"]) := by
  have hplain : Template.IsPlain (twiceNamedCheck.template plainSettings) := by decide +kernel
  have hviolated := @validate_violated Things.bare plainSettings (.mapping "dict" [("stock", .int 0)])
    twiceNamedCheck "\x7b0\x7d > 0" "stock > 0" [⟨"stock", .single .int, .int 0⟩] rfl
    (by decide +kernel) rfl (by decide +kernel)
  refine ⟨hplain, (hviolated.2.1 hplain).trans ?_⟩
  decide +kernel

open scoped Things in
/-- With a template that is no plain text with placeholders a rule that does not hold may come to no
outcome, while the template is not looked at as long as the rule holds. -/
theorem validate_oddTemplates :
    let check (message : String) : Check := ⟨some "x > 0", none, some message, none⟩
    evaluate "x > 0" [⟨"x", .single .int, .int 0⟩] false = .ok false ∧
      ["\x7b1\x7d", "\x7bname\x7d", "\x7b", "\x7b0.x\x7d", "\x7b0[x]\x7d"].map (fun message =>
          validate (.ok plainSettings) (.mapping "dict" [("x", .int 0)]) (check message)) =
        [.error (.template .index), .error (.template .name), .error (.template .format),
          .error (.template .attribute), .error (.template .key)] ∧
      validate (.ok plainSettings) (.mapping "dict" [("x", .int 1)]) (check "\x7b1\x7d") =
        .ok .passed := by
  decide +kernel

end Authored

end RuleCheck
