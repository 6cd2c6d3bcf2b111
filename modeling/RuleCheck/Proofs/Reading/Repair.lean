import RuleCheck.Proofs.Reading.Exact

/-!
# Mistakes that more tokens repair

Whatever has been read can be completed: an operand that is wanted can be put, a test that was
begun can be ended, and open parentheses can be closed one after another. A token that is refused
is refused whatever stands behind it. So an expression that ends too soon is the beginning of
one that is read, and the token that is named otherwise is the first that spoils the beginning.
-/

set_option autoImplicit false

namespace RuleCheck

open RuleCheck.Frame

namespace Reading

def Completes (r : Reading) : Prop := ∃ more s x, Passes r more s ∧ s.finish = .ok x

theorem Completes.of_step {r s : Reading} {t : Token} (h : r.step t = .ok s) (hs : s.Completes) :
    r.Completes := by
  obtain ⟨more, u, x, hpass, hfinish⟩ := hs
  exact ⟨t :: more, u, x, .cons h hpass, hfinish⟩

/-- Only a parenthesis stays open when all frames of operators are closed. -/
theorem close_one_cases (e : Expr) (stack : List Frame) :
    (∃ x, close 1 e stack = (x, [])) ∨
      ∃ x rest, close 1 e stack = (x, .paren :: rest) ∧ rest.length < stack.length := by
  induction stack generalizing e with
  | nil => exact .inl ⟨e, rfl⟩
  | cons f stack ih =>
    by_cases hf : 1 ≤ f.level
    · rw [close_cons e stack hf]
      rcases ih (f.wrap e) with hnil | ⟨x, rest, hclose, hlength⟩
      · exact .inl hnil
      · exact .inr ⟨x, rest, hclose, Nat.lt_succ_of_lt hlength⟩
    · have hparen : f = .paren := by
        cases f <;> first | rfl | exact absurd (by simp [level]) hf
      subst hparen
      exact .inr ⟨e, stack, close_of_below e Nat.zero_lt_one, Nat.lt_succ_self _⟩

/-- An operand is completed by as many closing parentheses as there are open ones. -/
theorem completes_holding (e : Expr) (stack : List Frame) : (holding e stack).Completes := by
  induction hn : stack.length using Nat.strongRecOn generalizing e stack with
  | ind n ih =>
    subst hn
    rcases close_one_cases e stack with ⟨x, hclose⟩ | ⟨x, rest, hclose, hlength⟩
    · refine ⟨[], _, x, .nil _, ?_⟩
      rw [finish, closeAll, hclose]
    · have hstep : (holding e stack).step ⟨.closing, 0⟩ = .ok (holding x rest) := by
        simp only [step, afterOperand, afterTest, closeParen, hclose]
      exact .of_step hstep (ih rest.length hlength x rest rfl)

theorem completes_tested (e : Expr) (stack : List Frame) : (tested e stack).Completes := by
  rcases close_one_cases e stack with ⟨x, hclose⟩ | ⟨x, rest, hclose, -⟩
  · refine ⟨[], _, x, .nil _, ?_⟩
    rw [finish, closeAll, hclose]
  · have hstep : (tested e stack).step ⟨.closing, 0⟩ = .ok (holding x rest) := by
      simp only [step, afterTest, closeParen, hclose]
    exact .of_step hstep (completes_holding x rest)

theorem completes (r : Reading) : r.Completes := by
  cases r with
  | wanting stack =>
    have hatom : Atom ⟨.keyword .null, 0⟩ (.literal .null) := .null rfl
    exact .of_step (step_atom hatom stack) (completes_holding _ stack)
  | holding e stack => exact completes_holding e stack
  | tested e stack => exact completes_tested e stack
  | afterIs e stack =>
    have hstep : (afterIs e stack).step ⟨.keyword .null, 0⟩ =
        .ok (tested (.isNull false e) stack) := rfl
    exact .of_step hstep (completes_tested _ stack)
  | afterIsNot e stack =>
    have hstep : (afterIsNot e stack).step ⟨.keyword .null, 0⟩ =
        .ok (tested (.isNull true e) stack) := rfl
    exact .of_step hstep (completes_tested _ stack)

inductive Fails (stop : Nat) (r : Reading) (ts : List Token) : Failure → Prop
  | ended {s : Reading} (wanted : Wanted) (hpass : Passes r ts s) :
      Fails stop r ts (.ofCause (.misspelt (.token wanted none) stop))
  | refused {before behind : List Token} {t : Token} {s : Reading} (wanted : Wanted)
      (hsplit : ts = before ++ t :: behind) (hpass : Passes r before s)
      (hrefused : s.step t = .error (.unwanted wanted)) :
      Fails stop r ts
        (.ofCause (.misspelt (.token wanted (some t.lexeme.content)) t.position))

theorem Fails.cons {stop : Nat} {r s : Reading} {t : Token} {ts : List Token} {failure : Failure}
    (h : r.step t = .ok s) (hs : Fails stop s ts failure) : Fails stop r (t :: ts) failure := by
  cases hs with
  | ended wanted hpass => exact .ended wanted (.cons h hpass)
  | refused wanted hsplit hpass hrefused =>
    exact .refused wanted (congrArg (t :: ·) hsplit) (.cons h hpass) hrefused

theorem fails_of_run {stop : Nat} {r : Reading} {ts : List Token} {failure : Failure}
    (hts : Convertible ts) (h : run stop r ts = .error failure) : Fails stop r ts failure := by
  induction ts generalizing r with
  | nil =>
    rw [run] at h
    cases hfinish : r.finish with
    | ok x =>
      rw [hfinish] at h
      cases h
    | error wanted =>
      rw [hfinish] at h
      cases h
      exact .ended wanted (.nil r)
  | cons t ts ih =>
    rw [run] at h
    split at h
    · rename_i s hs
      exact .cons hs (ih (fun u hu => hts u (List.mem_cons_of_mem t hu)) h)
    · rename_i hstep
      exact absurd hstep (step_ne_numeral (hts t List.mem_cons_self))
    · rename_i wanted hstep
      cases h
      exact .refused wanted rfl (.nil r) hstep

theorem run_ne_ok {r s : Reading} {before : List Token} {t : Token} {refusal : Refusal}
    (hpass : Passes r before s) (hrefused : s.step t = .error refusal) (stop : Nat)
    (more : List Token) (x : Expr) : run stop r (before ++ t :: more) ≠ .ok x := by
  rw [hpass.run_append stop (t :: more), run, hrefused]
  intro h
  cases refusal <;> cases h

end Reading

namespace Expr

open Reading

theorem ofTokens_eq_ok_iff_run {stop : Nat} {ts : List Token} {x : Expr} :
    ofTokens stop ts = .ok x ↔ run stop (.wanting []) ts = .ok x := by
  cases ts with
  | nil => exact ⟨nofun, nofun⟩
  | cons t ts => exact Iff.rfl

/-- The tokens are the beginning of an expression: some tokens behind them make them one. -/
def Completable (ts : List Token) : Prop := ∃ more stop x, ofTokens stop (ts ++ more) = .ok x

theorem Completable.of_passes {ts : List Token} {r : Reading} (h : Passes (.wanting []) ts r) :
    Completable ts := by
  obtain ⟨more, s, x, hpass, hfinish⟩ := r.completes
  refine ⟨more, 0, x, ofTokens_eq_ok_iff_run.2 ?_⟩
  have hrun := (h.append hpass).run_append 0 []
  rw [List.append_nil] at hrun
  rw [hrun, run, hfinish]
  rfl

theorem Completable.of_append {ts us : List Token} (h : Completable (ts ++ us)) :
    Completable ts := by
  obtain ⟨more, stop, x, hx⟩ := h
  exact ⟨us ++ more, stop, x, by rwa [← List.append_assoc]⟩

theorem not_completable {before : List Token} {t : Token} {r : Reading} {refusal : Refusal}
    (hpass : Passes (.wanting []) before r) (hrefused : r.step t = .error refusal) :
    ¬ Completable (before ++ [t]) := by
  rintro ⟨more, stop, x, hx⟩
  rw [List.append_assoc] at hx
  exact run_ne_ok hpass hrefused stop more x (ofTokens_eq_ok_iff_run.1 hx)

theorem fails_of_ofTokens {stop : Nat} {ts : List Token} {failure : Failure}
    (hts : Convertible ts) (h : ofTokens stop ts = .error failure) :
    Fails stop (.wanting []) ts failure := by
  cases ts with
  | nil =>
    cases h
    exact .ended .anything (.nil _)
  | cons t ts => exact fails_of_run hts h

/-- An expression is said to end too soon just if more tokens can complete it. Otherwise the
token that is named is the first one with which no beginning can be completed. -/
theorem ofTokens_repairable {stop : Nat} {ts : List Token} {failure : Failure}
    (hts : Convertible ts) (h : ofTokens stop ts = .error failure) :
    ∃ fault : Fault, failure = .fault fault ∧
      (fault.reason = .unexpectedEnd ↔ Completable ts) ∧
      ((∃ wanted, fault.reason = .unexpectedEnd ∧
          fault.cause = .misspelt (.token wanted none) stop) ∨
        ∃ before t behind wanted, ts = before ++ t :: behind ∧ fault.reason = .invalidSyntax ∧
          fault.cause = .misspelt (.token wanted (some t.lexeme.content)) t.position ∧
          Completable before ∧ ¬ Completable (before ++ [t])) := by
  cases fails_of_ofTokens hts h with
  | ended wanted hpass =>
    exact ⟨_, rfl, ⟨fun _ => .of_passes hpass, fun _ => rfl⟩, .inl ⟨wanted, rfl, rfl⟩⟩
  | @refused before behind t s wanted hsplit hpass hrefused =>
    have hnone := not_completable hpass hrefused
    have hspoilt : ¬ Completable ts := by
      rw [hsplit, List.append_cons]
      exact fun hmore => hnone hmore.of_append
    exact ⟨_, rfl, ⟨nofun, fun hmore => absurd hmore hspoilt⟩,
      .inr ⟨before, t, behind, wanted, hsplit, rfl, rfl, .of_passes hpass, hnone⟩⟩

def openTokens : List Token := [⟨.opening, 0⟩, ⟨.name "A", 1⟩, ⟨.arithmetic .rem, 3⟩]

def brokenTokens : List Token := openTokens ++ [⟨.keyword .not, 5⟩, ⟨.number "7", 9⟩]

theorem ofTokens_brokenTokens :
    Reading.Convertible openTokens ∧ Reading.Convertible brokenTokens ∧
      ofTokens 4 openTokens = .error (.ofCause (.misspelt (.token .operand none) 4)) ∧
      ofTokens 10 brokenTokens =
        .error (.ofCause (.misspelt (.token .operand (some "NOT")) 5)) ∧
      Completable openTokens ∧ ¬ Completable brokenTokens := by
  have hopen : Reading.Convertible openTokens := by
    intro t ht digits hdigits
    simp only [openTokens, List.mem_cons, List.not_mem_nil, or_false] at ht
    rcases ht with rfl | rfl | rfl <;> cases hdigits
  have hbroken : Reading.Convertible brokenTokens := by
    intro t ht digits hdigits
    rcases List.mem_append.1 ht with ht | ht
    · exact hopen t ht digits hdigits
    · simp only [List.mem_cons, List.not_mem_nil, or_false] at ht
      rcases ht with rfl | rfl <;> cases hdigits
      decide
  have hended : ofTokens 4 openTokens =
      .error (.ofCause (.misspelt (.token .operand none) 4)) := rfl
  have hrefused : ofTokens 10 brokenTokens =
      .error (.ofCause (.misspelt (.token .operand (some "NOT")) 5)) := rfl
  obtain ⟨early, hearly, hrepair, -⟩ := ofTokens_repairable hopen hended
  obtain ⟨late, hlate, hspoilt, -⟩ := ofTokens_repairable hbroken hrefused
  cases hearly
  cases hlate
  exact ⟨hopen, hbroken, hended, hrefused, hrepair.1 rfl,
    fun h => absurd (hspoilt.2 h) (by decide)⟩

end Expr

end RuleCheck
