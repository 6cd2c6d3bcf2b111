import RuleCheck.Proofs.Ending
import RuleCheck.Proofs.Value.Sorted

/-!
# What operators can fail with

A row holds values of no fixed size, and operators make such values of them. Operands of the
wrong kind are a fault, and so are texts that spell nothing and a zero as a divisor. What is
left are numbers that are beyond an operation: integers that are no double beside a double,
quotients of integers that are none, and dividends without a remainder.
-/

set_option autoImplicit false

namespace RuleCheck

open Number Text

def Held (v : Value) : Prop := ∃ s, Inhabits true v s

inductive Value.Plain : Value → Prop
  | absent : Plain .absent
  | bool (b : Bool) : Plain (.bool b)
  | int (n : Int) : Plain (.int n)
  | float (x : Float) : Plain (.float x)
  | text (s : String) : Plain (.text s)

theorem Value.Plain.held {v : Value} (hv : v.Plain) : Held v := by
  cases hv with
  | absent => exact ⟨.truth, .absent _⟩
  | bool b => exact ⟨.truth, .bool b⟩
  | int n => exact ⟨.number, .int n⟩
  | float x => exact ⟨.number, .float x rfl⟩
  | text s => exact ⟨.text, .text s⟩

theorem Value.plain_ofTruth (truth : Truth) : (Value.ofTruth truth).Plain := by
  cases truth with
  | none => exact .absent
  | some b => exact .bool b

theorem Admitted.plain {x : Scalar} (hx : Admitted true x) : (Value.ofScalar x).Plain := by
  cases hx with
  | int n => exact .int n
  | float x _ => exact .float x

/-- What a row holds is plain, but for texts of a class of their own. -/
theorem Held.plain_or_derived {v : Value} (hv : Held v) :
    v.Plain ∨ ∃ className s, v = .derivedText className s := by
  obtain ⟨s, hv⟩ := hv
  cases hv with
  | absent => exact .inl .absent
  | int n => exact .inl (.int n)
  | float x _ => exact .inl (.float x)
  | text s => exact .inl (.text s)
  | derivedText className s => exact .inr ⟨className, s, rfl⟩
  | bool b => exact .inl (.bool b)

section

variable {x y : Scalar} {fault : NumberFault}

theorem beyond_of_combine (op : Arithmetic) {whole : Int → Int → Int}
    {broken : Float → Float → Float} (hx : Admitted true x) (hy : Admitted true y)
    (h : Scalar.combine whole broken x y = .error fault) : Beyond op x y fault := by
  unfold Scalar.combine at h
  rcases hx.meet_cases hy with ⟨m, n, rfl, rfl⟩ | ⟨-, ⟨a, b, hmeet⟩ | ⟨fault', hmeet, hbeyond⟩⟩
  · cases h
  · rw [hmeet] at h
    cases h
  · rw [hmeet] at h
    cases h
    exact hbeyond op

theorem beyond_of_div (hx : Admitted true x) (hy : Admitted true y)
    (h : x.div y = .error fault) : Beyond .div x y fault := by
  unfold Scalar.div at h
  rcases hx.meet_cases hy with ⟨m, n, rfl, rfl⟩ | ⟨-, ⟨a, b, hmeet⟩ | ⟨fault', hmeet, hbeyond⟩⟩
  · simp only [Scalar.meet, bind, Except.bind, pure, Except.pure] at h
    split at h
    · cases h
    · cases h
      exact .quotient ‹_›
  · rw [hmeet] at h
    cases h
  · rw [hmeet] at h
    cases h
    exact hbeyond .div

/-- Unless both are integers, each operand is made a double before the division. -/
theorem beyond_of_remainder (hleft : ∀ f, x.float? = .error f → Beyond .rem x y f)
    (hright : ∀ f, y.float? = .error f → Beyond .rem x y f)
    (h : (do
      match remainder? (← x.float?) (← y.float?) with
      | some r => return Scalar.float r
      | none => throw .noRemainder) = Except.error fault) : Beyond .rem x y fault := by
  cases ha : x.float? with
  | error f =>
    rw [ha] at h
    cases h
    exact hleft _ ha
  | ok a =>
    cases hb : y.float? with
    | error f =>
      rw [ha, hb] at h
      cases h
      exact hright _ hb
    | ok b =>
      rw [ha, hb] at h
      simp only [bind, Except.bind] at h
      split at h
      · cases h
      · cases h
        exact .remainder ha hb ‹_›

theorem beyond_of_rem (hx : Admitted true x) (hy : Admitted true y)
    (h : x.rem y = .error fault) : Beyond .rem x y fault := by
  cases hx with
  | int m =>
    cases hy with
    | int n => cases h
    | float b _ =>
      refine beyond_of_remainder (fun f hf => ?_) nofun h
      obtain ⟨hm, rfl⟩ := Admitted.exists_of_toFloat_error hf
      exact .left .rem b hm
  | float a _ =>
    refine beyond_of_remainder nofun (fun f hf => ?_) h
    cases hy with
    | int n =>
      obtain ⟨hn, rfl⟩ := Admitted.exists_of_toFloat_error hf
      exact .right .rem a hn
    | float b _ => cases hf

/-- Arithmetic makes a number, or meets a zero as a divisor or numbers beyond it. -/
theorem ends_combine (op : Arithmetic) (hx : Admitted true x) (hy : Admitted true y) :
    Ends (Admitted true) (fun f => ∃ fault, f = .number fault ∧ Beyond op x y fault)
      (Value.combine op x y) := by
  have numeric (r : Except NumberFault Scalar) (hr : Admitted.Outcome true r)
      (hbeyond : ∀ fault, r = .error fault → Beyond op x y fault) :
      Ends (Admitted true) (fun f => ∃ fault, f = .number fault ∧ Beyond op x y fault)
        (r.mapError .number) := by
    cases r with
    | ok z => exact .ok hr
    | error fault => exact .other ⟨fault, rfl, hbeyond fault rfl⟩
  have divided (f : Scalar → Scalar → Except NumberFault Scalar)
      (hr : Admitted.Outcome true (f x y))
      (hbeyond : ∀ fault, f x y = .error fault → Beyond op x y fault) :
      Ends (Admitted true) (fun f => ∃ fault, f = .number fault ∧ Beyond op x y fault)
        (if y.isZero then .error (.unfit (.zeroDivisor op.symbol))
          else (f x y).mapError .number) := by
    by_cases hzero : y.isZero = true
    · rw [if_pos hzero]
      exact .fault _
    · rw [if_neg hzero]
      exact numeric _ hr hbeyond
  cases op with
  | add => exact numeric _ (hx.outcome_combine hy _ _) fun _ h => beyond_of_combine .add hx hy h
  | sub => exact numeric _ (hx.outcome_combine hy _ _) fun _ h => beyond_of_combine .sub hx hy h
  | mul => exact numeric _ (hx.outcome_combine hy _ _) fun _ h => beyond_of_combine .mul hx hy h
  | div => exact divided Scalar.div (hx.outcome_div hy rfl) fun _ h => beyond_of_div hx hy h
  | rem => exact divided Scalar.rem (hx.outcome_rem hy) fun _ h => beyond_of_rem hx hy h

end

section

variable {E : Failure → Prop} {v w : Value}

theorem ends_readNumber (symbol text : String) :
    Ends (Admitted true) E (Value.readNumber symbol text) := by
  simp only [Value.readNumber]
  split
  · exact .ok (.int _)
  · exact .ok (.float _ rfl)
  · exact .fault _

theorem ends_readTruth (symbol text : String) :
    Ends (fun _ => True) E (Value.readTruth symbol text) := by
  simp only [Value.readTruth]
  split
  · exact .ok trivial
  · split
    · exact .ok trivial
    · exact .fault _

namespace Held

theorem operand (hv : Held v) (symbol : String) (side : Side) :
    Ends (Admitted true) E (Value.operand symbol side v) := by
  obtain ⟨s, hv⟩ := hv
  cases hv with
  | absent => exact .fault _
  | int n => exact .ok (.int n)
  | float x hfloats => exact .ok (.float x hfloats)
  | text s => exact ends_readNumber symbol s
  | derivedText className s => exact ends_readNumber symbol s
  | bool b => exact .fault _

theorem signed (hv : Held v) (op : Sign) : Ends Value.Plain E (v.signed op) := by
  unfold Value.signed
  split
  · exact .ok .absent
  · refine (hv.operand op.symbol .only).bind fun x _ hx => ?_
    cases op with
    | minus => exact .ok hx.neg.plain
    | plus =>
      by_cases hnumber : v.number?.isSome = true
      · simp only [hnumber, if_true]
        refine .ok (hv.plain_or_derived.resolve_right ?_)
        rintro ⟨className, s, rfl⟩
        cases hnumber
      · simp only [hnumber]
        exact .ok hx.plain

theorem operands (hv : Held v) (hw : Held w) (symbol : String) :
    Ends (fun p => Admitted true p.1 ∧ Admitted true p.2) E (Value.operands symbol v w) :=
  (hv.operand symbol .left).bind fun _ _ hx =>
    (hw.operand symbol .right).bind fun _ _ hy => .ok ⟨hx, hy⟩

/-- Arithmetic can only fail otherwise on operands that are numbers beyond it. -/
theorem compute (hv : Held v) (hw : Held w) (op : Arithmetic) :
    Ends Value.Plain (fun f => ∃ x y fault, Value.operands op.symbol v w = .ok (x, y) ∧
      Beyond op x y fault ∧ f = .number fault) (Value.compute op v w) := by
  have numeric (op : Arithmetic) :
      Ends Value.Plain (fun f => ∃ x y fault, Value.operands op.symbol v w = .ok (x, y) ∧
        Beyond op x y fault ∧ f = .number fault)
        (Value.operands op.symbol v w >>= fun p => do
          return .ofScalar (← Value.combine op p.1 p.2)) := by
    refine (hv.operands hw op.symbol).bind fun p hp hxy => ?_
    refine ((ends_combine op hxy.1 hxy.2).mono (fun _ _ h => h) ?_).bind fun z _ hz => .ok hz.plain
    rintro f ⟨fault, rfl, hbeyond⟩
    exact ⟨p.1, p.2, fault, hp, hbeyond, rfl⟩
  unfold Value.compute
  split
  · exact .ok .absent
  · split
    · exact .ok (.text _)
    · exact numeric _

end Held

theorem ends_logical (connective : String) (v : Value) :
    Ends (fun _ => True) E (v.logical connective) := by
  unfold Value.logical
  split
  · exact .ok trivial
  · split
    · exact .ok trivial
    · exact .fault _

theorem ends_negation (v : Value) : Ends Value.Plain E (do return .ofTruth (← v.negation)) := by
  have htruth : Ends (fun _ => True) E v.negation :=
    (ends_logical "NOT" v).bind fun _ _ _ => .ok trivial
  exact htruth.bind fun truth _ _ => .ok (Value.plain_ofTruth truth)

theorem ends_conjunction (v w : Value) :
    Ends Value.Plain E (do return .ofTruth (← v.conjunction w)) := by
  have htruth : Ends (fun _ => True) E (v.conjunction w) :=
    (ends_logical "AND" v).bind fun _ _ _ => (ends_logical "AND" w).bind fun _ _ _ => .ok trivial
  exact htruth.bind fun truth _ _ => .ok (Value.plain_ofTruth truth)

theorem ends_disjunction (v w : Value) :
    Ends Value.Plain E (do return .ofTruth (← v.disjunction w)) := by
  have htruth : Ends (fun _ => True) E (v.disjunction w) :=
    (ends_logical "OR" v).bind fun _ _ _ => (ends_logical "OR" w).bind fun _ _ _ => .ok trivial
  exact htruth.bind fun truth _ _ => .ok (Value.plain_ofTruth truth)

/-- A text beside a number is read as a number, and beside a truth value as one of these. -/
theorem ends_readBeside (symbol text : String) (hw : Held w) (hnull : w.isNull = false)
    (htext : w.text? = none) :
    Ends (fun read => ∀ v ∈ read, Matched true v w ∧ Matched true w v) E
      (Value.readBeside symbol text w.kind) := by
  obtain ⟨s, hw⟩ := hw
  cases s with
  | number =>
    obtain ⟨x, hx, rfl⟩ := hw.exists_scalar hnull
    have numeric : Ends (fun read => ∀ v ∈ read, Matched true v (.ofScalar x) ∧
        Matched true (.ofScalar x) v) E
        (do return some (.ofScalar (← Value.readNumber symbol text))) := by
      refine (ends_readNumber symbol text).bind fun y _ hy => .ok fun v hv => ?_
      cases hv
      exact ⟨.numbers hy hx, .numbers hx hy⟩
    rcases Kind.eq_of_isNumeric (hx.kind_isNumeric hnull) with hkind | hkind
    · rw [hkind]
      exact numeric
    · rw [hkind]
      exact numeric
  | text =>
    obtain ⟨_, s, hs⟩ := hw.exists_text hnull
    rw [htext] at hs
    cases hs
  | truth =>
    obtain ⟨b, rfl⟩ := hw.exists_bool hnull
    refine (ends_readTruth symbol text).bind fun c _ _ => .ok fun v hv => ?_
    cases hv
    exact ⟨.truths c b, .truths b c⟩

theorem ends_agree (symbol : String) (hv : Held v) (hw : Held w) (hvnull : v.isNull = false)
    (hwnull : w.isNull = false) :
    Ends (fun p => Matched true p.1 p.2) E (Value.agree symbol v w) := by
  by_cases hkinds : v.kind = w.kind ∨ (v.kind.isNumeric ∧ w.kind.isNumeric)
  · rw [Value.agree_of_kinds symbol hkinds]
    obtain ⟨s, hs⟩ := hv
    obtain ⟨t, ht⟩ := hw
    have hsorts := (Kind.meets_iff (hs.sort?_kind hvnull)).1 hkinds
    rw [hs.sort?_kind hvnull, ht.sort?_kind hwnull] at hsorts
    cases hsorts
    exact .ok (hs.matched ht hvnull hwnull)
  · unfold Value.agree
    rw [if_neg hkinds]
    split
    · refine (ends_readBeside symbol _ hw hwnull ‹_›).bind fun read _ hread => ?_
      cases read with
      | none => exact .fault _
      | some a => exact .ok (hread a rfl).1
    · refine (ends_readBeside symbol _ hv hvnull ‹_›).bind fun read _ hread => ?_
      cases read with
      | none => exact .fault _
      | some b => exact .ok (hread b rfl).2
    · exact .fault _

theorem Held.compare (hv : Held v) (hw : Held w) (op : Comparison) (keepCase : Bool) :
    Ends (fun _ => True) E (Value.compare op keepCase v w) := by
  by_cases hnull : (v.isNull || w.isNull) = true
  · unfold Value.compare
    rw [if_pos hnull]
    exact .ok trivial
  rw [Bool.not_eq_true, Bool.or_eq_false_iff] at hnull
  cases hagree : Value.agree op.symbol v w with
  | ok p =>
    have hmatched := (ends_agree (E := E) op.symbol hv hw hnull.1 hnull.2).of_eq_ok hagree
    obtain ⟨truth, htruth⟩ := hmatched.exists_compare hagree keepCase
    rw [htruth]
    exact .ok trivial
  | error f =>
    have hends := ends_agree (E := E) op.symbol hv hw hnull.1 hnull.2
    rw [hagree] at hends
    unfold Value.compare
    rw [hagree, if_neg (by simp [hnull])]
    cases hends with
    | fault f => exact .fault f
    | other hf => exact .other hf

end

end RuleCheck
