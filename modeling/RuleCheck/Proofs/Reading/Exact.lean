import RuleCheck.Proofs.Reading.Complete
import RuleCheck.Proofs.Reading.Sound

/-!
# Reading is exact

A list of tokens is read as a tree if and only if the grammar derives the tree from it. So
the grammar is unambiguous, and a list that derives nothing is refused as a mistake of
grammar.
-/

set_option autoImplicit false

namespace RuleCheck

namespace Reading

def Convertible (ts : List Token) : Prop :=
  ∀ t ∈ ts, ∀ digits, t.lexeme = .number digits → (numberValue? digits).isSome = true

theorem wantOperand_ne_numeral {stack : List Frame} {t : Token}
    (ht : ∀ digits, t.lexeme = .number digits → (numberValue? digits).isSome = true) :
    wantOperand stack t ≠ .error .numeral := by
  intro h
  unfold wantOperand at h
  split at h
  case h_1 digits hdigits =>
    obtain ⟨v, hv⟩ := Option.isSome_iff_exists.1 (ht digits hdigits)
    rw [hv] at h
    cases h
  case h_7 => split at h <;> cases h
  all_goals cases h

theorem closeParen_ne_numeral (x : Expr) (stack : List Frame) :
    closeParen x stack ≠ .error .numeral := by
  unfold closeParen
  split <;> simp

theorem compareLeft_ne_numeral (next : Expr → List Frame → Reading) (x : Expr)
    (stack : List Frame) : compareLeft next x stack ≠ .error .numeral := by
  unfold compareLeft
  split <;> simp

theorem afterTest_ne_numeral (x : Expr) (stack : List Frame) (t : Token) :
    afterTest x stack t ≠ .error .numeral := by
  unfold afterTest
  split
  · simp
  · simp
  · exact closeParen_ne_numeral x stack
  · simp

theorem afterOperand_ne_numeral (x : Expr) (stack : List Frame) (t : Token) :
    afterOperand x stack t ≠ .error .numeral := by
  unfold afterOperand
  split
  · simp
  · simp
  · exact compareLeft_ne_numeral _ x stack
  · exact compareLeft_ne_numeral _ x stack
  · exact afterTest_ne_numeral x stack t

/-- A step is refused for a numeral only if the numeral stands for no number. -/
theorem step_ne_numeral {r : Reading} {t : Token}
    (ht : ∀ digits, t.lexeme = .number digits → (numberValue? digits).isSome = true) :
    r.step t ≠ .error .numeral := by
  cases r with
  | wanting stack => exact wantOperand_ne_numeral ht
  | holding x stack => exact afterOperand_ne_numeral x stack t
  | tested x stack => exact afterTest_ne_numeral x stack t
  | afterIs x stack =>
    simp only [step]
    split <;> simp
  | afterIsNot x stack =>
    simp only [step]
    split <;> simp

/-- A run over convertible tokens that fails reports a mistake of grammar. -/
theorem exists_mistake_of_run {stop : Nat} {r : Reading} {ts : List Token} {failure : Failure}
    (hts : Convertible ts) (h : run stop r ts = .error failure) :
    ∃ mistake position, failure = .ofCause (.misspelt mistake position) := by
  induction ts generalizing r with
  | nil =>
    rw [run] at h
    cases hf : r.finish with
    | ok x =>
      rw [hf] at h
      cases h
    | error wanted =>
      rw [hf] at h
      cases h
      exact ⟨_, _, rfl⟩
  | cons t ts ih =>
    rw [run] at h
    split at h
    · exact ih (fun u hu => hts u (List.mem_cons_of_mem t hu)) h
    · rename_i hstep
      exact absurd hstep (step_ne_numeral (hts t List.mem_cons_self))
    · cases h
      exact ⟨_, _, rfl⟩

end Reading

namespace Expr

theorem ofTokens_eq_ok_iff {stop : Nat} {ts : List Token} {x : Expr} :
    ofTokens stop ts = .ok x ↔ Derives 1 ts x :=
  ⟨derives_of_ofTokens, ofTokens_of_derives stop⟩

theorem exists_mistake_of_ofTokens {stop : Nat} {ts : List Token} {failure : Failure}
    (hts : Reading.Convertible ts) (h : ofTokens stop ts = .error failure) :
    ∃ mistake position, failure = .ofCause (.misspelt mistake position) := by
  cases ts with
  | nil =>
    cases h
    exact ⟨_, _, rfl⟩
  | cons t ts => exact Reading.exists_mistake_of_run hts h

/-- Reading decides the grammar: it accepts what the grammar derives, with its only tree, and
reports a mistake where there is none. -/
theorem ofTokens_exact (stop : Nat) {ts : List Token} (hts : Reading.Convertible ts) :
    (∀ x, ofTokens stop ts = .ok x ↔ Derives 1 ts x) ∧
      (∀ x y, Derives 1 ts x → Derives 1 ts y → x = y) ∧
      ((¬ ∃ x, Derives 1 ts x) → ∃ mistake position,
        ofTokens stop ts = .error (.ofCause (.misspelt mistake position))) := by
  refine ⟨fun x => ofTokens_eq_ok_iff, ?_, ?_⟩
  · intro x y hx hy
    have hread := ofTokens_of_derives stop hx
    rw [ofTokens_of_derives stop hy] at hread
    cases hread
    rfl
  · intro hnone
    cases h : ofTokens stop ts with
    | ok x => exact absurd ⟨x, derives_of_ofTokens h⟩ hnone
    | error failure =>
      obtain ⟨mistake, position, rfl⟩ := exists_mistake_of_ofTokens hts h
      exact ⟨mistake, position, rfl⟩

def sampleTokens : List Token :=
  [⟨.name "A", 0⟩, ⟨.arithmetic .rem, 2⟩, ⟨.number "7", 4⟩, ⟨.keyword .mod, 6⟩, ⟨.name "B", 10⟩,
    ⟨.comparison .ne, 12⟩, ⟨.number "0", 15⟩]

theorem derives_of_remainders :
    Reading.Convertible sampleTokens ∧ Derives 1 sampleTokens
      (.compare .ne (.compute .rem (.compute .rem (.member "A" 0) (.literal (.int 7)))
        (.member "B" 10)) (.literal (.int 0))) := by
  have hts : Reading.Convertible sampleTokens := by
    intro t ht digits hdigits
    simp only [sampleTokens, List.mem_cons, List.not_mem_nil, or_false] at ht
    rcases ht with rfl | rfl | rfl | rfl | rfl | rfl | rfl <;> cases hdigits <;> decide
  exact ⟨hts, ((ofTokens_exact 16 hts).1 _).1 rfl⟩

end Expr

end RuleCheck
