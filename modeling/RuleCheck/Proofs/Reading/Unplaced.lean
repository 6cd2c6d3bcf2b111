import RuleCheck.Evaluate
import RuleCheck.Proofs.Alike
import RuleCheck.Proofs.Expr.Canonical
import RuleCheck.Proofs.Reading.Sound
import RuleCheck.Proofs.Token.Placeless

/-!
# Positions do not matter

A reader that forgets where tokens stand takes the same steps. Two texts with the same
lexemes are therefore read as trees that differ in the positions of members only, or are
refused for the same reason. Positions are no part of what an expression means, so the two
texts are evaluated alike.
-/

set_option autoImplicit false

namespace RuleCheck

namespace Frame

def unplaced : Frame → Frame
  | paren => paren
  | or l => or l.unplaced
  | and l => and l.unplaced
  | not => not
  | compare op l => compare op l.unplaced
  | add l => add l.unplaced
  | sub l => sub l.unplaced
  | rem l => rem l.unplaced
  | mul l => mul l.unplaced
  | div l => div l.unplaced
  | sign op => sign op

theorem level_unplaced (f : Frame) : f.unplaced.level = f.level := by
  cases f <;> rfl

theorem isParen_unplaced (f : Frame) : f.unplaced.isParen = f.isParen := by
  cases f <;> rfl

theorem wrap_unplaced (f : Frame) (e : Expr) :
    f.unplaced.wrap e.unplaced = (f.wrap e).unplaced := by
  cases f <;> rfl

theorem close_unplaced (n : Nat) (e : Expr) (stack : List Frame) :
    close n e.unplaced (stack.map unplaced) =
      ((close n e stack).1.unplaced, (close n e stack).2.map unplaced) := by
  induction stack generalizing e with
  | nil => rfl
  | cons f stack ih =>
    rw [List.map_cons, close, close, level_unplaced, wrap_unplaced, ih]
    split <;> rfl

end Frame

namespace Reading

def unplaced : Reading → Reading
  | wanting stack => wanting (stack.map Frame.unplaced)
  | holding e stack => holding e.unplaced (stack.map Frame.unplaced)
  | tested e stack => tested e.unplaced (stack.map Frame.unplaced)
  | afterIs e stack => afterIs e.unplaced (stack.map Frame.unplaced)
  | afterIsNot e stack => afterIsNot e.unplaced (stack.map Frame.unplaced)

theorem admitsNot_unplaced (stack : List Frame) :
    admitsNot (stack.map Frame.unplaced) = admitsNot stack := by
  cases stack with
  | nil => rfl
  | cons f stack => rw [List.map_cons, admitsNot, admitsNot, Frame.level_unplaced]

theorem ending_unplaced (stack : List Frame) :
    ending (stack.map Frame.unplaced) = ending stack := by
  have h : (stack.map Frame.unplaced).any Frame.isParen = stack.any Frame.isParen := by
    rw [List.any_map]
    exact congrArg stack.any (funext Frame.isParen_unplaced)
  rw [ending, ending, h]

theorem wantOperand_unplaced (stack : List Frame) (t : Token) :
    wantOperand (stack.map Frame.unplaced) ⟨t.lexeme, 0⟩ = (wantOperand stack t).map unplaced := by
  obtain ⟨l, position⟩ := t
  cases l with
  | number digits =>
    simp only [wantOperand]
    cases numberValue? digits <;> rfl
  | keyword k =>
    cases k with
    | not =>
      simp only [wantOperand, admitsNot_unplaced]
      split <;> rfl
    | _ => rfl
  | arithmetic op => cases op <;> rfl
  | _ => rfl

theorem joinLeft_unplaced (level : Nat) {frame : Expr → Frame}
    (hframe : ∀ e, (frame e).unplaced = frame e.unplaced) (e : Expr) (stack : List Frame) :
    joinLeft level frame e.unplaced (stack.map Frame.unplaced) =
      (joinLeft level frame e stack).unplaced := by
  rw [joinLeft, Frame.close_unplaced]
  exact congrArg wanting (congrArg (· :: _) (hframe _).symm)

theorem closeParen_unplaced (e : Expr) (stack : List Frame) :
    closeParen e.unplaced (stack.map Frame.unplaced) = (closeParen e stack).map unplaced := by
  rw [closeParen, closeParen, Frame.close_unplaced]
  rcases Frame.close 1 e stack with ⟨inner, _ | ⟨f, rest⟩⟩
  · rfl
  · cases f <;> rfl

theorem compareLeft_unplaced {next : Expr → List Frame → Reading}
    (hnext : ∀ e stack, (next e stack).unplaced = next e.unplaced (stack.map Frame.unplaced))
    (e : Expr) (stack : List Frame) :
    compareLeft next e.unplaced (stack.map Frame.unplaced) =
      (compareLeft next e stack).map unplaced := by
  rw [compareLeft, compareLeft, Frame.close_unplaced, ending_unplaced]
  rcases Frame.close 5 e stack with ⟨left, _ | ⟨f, rest⟩⟩
  · exact congrArg Except.ok (hnext _ _).symm
  · cases f with
    | compare op l => rfl
    | _ => exact congrArg Except.ok (hnext left (_ :: rest)).symm

theorem afterTest_unplaced (e : Expr) (stack : List Frame) (t : Token) :
    afterTest e.unplaced (stack.map Frame.unplaced) ⟨t.lexeme, 0⟩ =
      (afterTest e stack t).map unplaced := by
  obtain ⟨l, position⟩ := t
  have hother : (Except.error (.unwanted (ending (stack.map Frame.unplaced))) :
      Except Refusal Reading) = (Except.error (.unwanted (ending stack))).map unplaced := by
    rw [ending_unplaced]
    rfl
  cases l with
  | keyword k =>
    cases k with
    | and => exact congrArg Except.ok (joinLeft_unplaced 2 (fun _ => rfl) e stack)
    | or => exact congrArg Except.ok (joinLeft_unplaced 1 (fun _ => rfl) e stack)
    | _ => exact hother
  | closing => exact closeParen_unplaced e stack
  | _ => exact hother

theorem afterOperand_unplaced (e : Expr) (stack : List Frame) (t : Token) :
    afterOperand e.unplaced (stack.map Frame.unplaced) ⟨t.lexeme, 0⟩ =
      (afterOperand e stack t).map unplaced := by
  have htest := afterTest_unplaced e stack t
  obtain ⟨l, position⟩ := t
  cases l with
  | arithmetic op =>
    refine congrArg Except.ok (joinLeft_unplaced _ (fun _ => ?_) e stack)
    cases op <;> rfl
  | comparison op => exact compareLeft_unplaced (fun _ _ => rfl) e stack
  | keyword k =>
    cases k with
    | mod => exact congrArg Except.ok (joinLeft_unplaced 6 (fun _ => rfl) e stack)
    | is => exact compareLeft_unplaced (fun _ _ => rfl) e stack
    | _ => exact htest
  | _ => exact htest

theorem step_unplaced (r : Reading) (t : Token) :
    step r.unplaced ⟨t.lexeme, 0⟩ = (step r t).map unplaced := by
  cases r with
  | wanting stack => exact wantOperand_unplaced stack t
  | holding e stack => exact afterOperand_unplaced e stack t
  | tested e stack => exact afterTest_unplaced e stack t
  | afterIs e stack =>
    simp only [step, unplaced]
    split <;> rfl
  | afterIsNot e stack =>
    simp only [step, unplaced]
    split <;> rfl

theorem closeAll_unplaced (e : Expr) (stack : List Frame) :
    closeAll e.unplaced (stack.map Frame.unplaced) = (closeAll e stack).map Expr.unplaced := by
  rw [closeAll, closeAll, Frame.close_unplaced]
  rcases Frame.close 1 e stack with ⟨whole, _ | ⟨f, rest⟩⟩ <;> rfl

theorem finish_unplaced (r : Reading) : r.unplaced.finish = r.finish.map Expr.unplaced := by
  cases r with
  | wanting stack => rfl
  | holding e stack => exact closeAll_unplaced e stack
  | tested e stack => exact closeAll_unplaced e stack
  | afterIs e stack => rfl
  | afterIsNot e stack => rfl

/-- Both readings of the same lexemes come to the same tree up to positions, or are refused for
the same reason. -/
theorem run_alike {ts us : List Token} (htokens : ts.map Token.lexeme = us.map Token.lexeme)
    {r s : Reading} (hrs : r.unplaced = s.unplaced) (stop stop' : Nat) :
    Alike (fun x y : Expr => x.unplaced = y.unplaced) (run stop r ts) (run stop' s us) := by
  induction ts generalizing us r s with
  | nil =>
    obtain rfl := List.map_eq_nil_iff.1 htokens.symm
    have hfinish : r.finish.map Expr.unplaced = s.finish.map Expr.unplaced := by
      rw [← finish_unplaced, ← finish_unplaced, hrs]
    rw [run, run]
    cases hr : r.finish with
    | ok x =>
      cases hs : s.finish with
      | ok y =>
        rw [hr, hs] at hfinish
        exact .ok (Except.ok.inj hfinish)
      | error wanted => rw [hr, hs] at hfinish; cases hfinish
    | error wanted =>
      cases hs : s.finish with
      | ok y => rw [hr, hs] at hfinish; cases hfinish
      | error wanted' => exact .error (.fault rfl)
  | cons t ts ih =>
    obtain ⟨u, us, rfl, hu, hus⟩ := List.map_eq_cons_iff.1 htokens.symm
    have hstep : (step r t).map unplaced = (step s u).map unplaced := by
      rw [← step_unplaced, ← step_unplaced, hrs, hu]
    rw [run, run]
    cases hr : r.step t with
    | ok r' =>
      cases hs : s.step u with
      | ok s' =>
        rw [hr, hs] at hstep
        exact ih hus.symm (Except.ok.inj hstep)
      | error refusal => rw [hr, hs] at hstep; cases hstep
    | error refusal =>
      cases hs : s.step u with
      | ok s' => rw [hr, hs] at hstep; cases hstep
      | error refusal' =>
        rw [hr, hs] at hstep
        obtain rfl : refusal = refusal' := Except.error.inj hstep
        cases refusal with
        | numeral => exact .error (.same _)
        | unwanted wanted => exact .error (.fault rfl)

end Reading

namespace Expr

theorem ofTokens_alike {ts us : List Token} (h : ts.map Token.lexeme = us.map Token.lexeme)
    (stop stop' : Nat) :
    Alike (fun x y : Expr => x.unplaced = y.unplaced) (ofTokens stop ts) (ofTokens stop' us) := by
  cases ts with
  | nil =>
    obtain rfl := List.map_eq_nil_iff.1 h.symm
    exact .error (.fault rfl)
  | cons t ts =>
    obtain ⟨u, us, rfl, -, -⟩ := List.map_eq_cons_iff.1 h.symm
    exact Reading.run_alike h rfl stop stop'

theorem read_alike {source source' : String}
    (h : Lexeme.scan source.toList = Lexeme.scan source'.toList) :
    Alike (fun x y : Expr => x.unplaced = y.unplaced) (read source) (read source') := by
  have hsource := Token.scan_cases 0 source.toList
  have hsource' := Token.scan_cases 0 source'.toList
  rw [read, read, tokens, tokens]
  rcases hsource with ⟨ts, hts, hls⟩ | ⟨mistake, place, hts, hls⟩
  · rcases hsource' with ⟨us, hus, hls'⟩ | ⟨mistake, place, hus, hls'⟩
    · have htokens : ts.map Token.lexeme = us.map Token.lexeme := by
        rw [hls, hls'] at h
        exact Except.ok.inj h
      rw [hts, hus]
      exact (ofTokens_alike htokens _ _).attaching source source'
    · rw [hls, hls'] at h
      cases h
  · rcases hsource' with ⟨us, hus, hls'⟩ | ⟨mistake', place', hus, hls'⟩
    · rw [hls, hls'] at h
      cases h
    · rw [hls, hls'] at h
      obtain rfl : mistake = mistake' := Except.error.inj h
      rw [hts, hus]
      exact .error (.fault rfl)

theorem names_unplaced (e : Expr) : e.unplaced.names = e.names := by
  induction e with
  | member => rfl
  | literal => rfl
  | foreign => rfl
  | sign _ _ ih => exact ih
  | isNull _ _ ih => exact ih
  | not _ ih => exact ih
  | compute _ _ _ ihl ihr => simp only [unplaced, names, ihl, ihr]
  | compare _ _ _ ihl ihr => simp only [unplaced, names, ihl, ihr]
  | and _ _ ihl ihr => simp only [unplaced, names, ihl, ihr]
  | or _ _ ihl ihr => simp only [unplaced, names, ihl, ihr]

theorem members_unplaced (e : Expr) : e.unplaced.members = e.members :=
  congrArg firsts e.names_unplaced

theorem value_unplaced (row : Row) (e : Expr) : e.unplaced.value row = e.value row := by
  induction e with
  | member => rfl
  | literal => rfl
  | foreign => rfl
  | sign _ _ ih => simp only [unplaced, value, ih]
  | isNull _ _ ih => simp only [unplaced, value, ih]
  | not _ ih => simp only [unplaced, value, ih]
  | compute _ _ _ ihl ihr => simp only [unplaced, value, ihl, ihr]
  | compare _ _ _ ihl ihr => simp only [unplaced, value, ihl, ihr]
  | and _ _ ihl ihr => simp only [unplaced, value, ihl, ihr]
  | or _ _ ihl ihr => simp only [unplaced, value, ihl, ihr]

def evaluation (bindings : List Binding) (keepCase : Bool) (e : Expr) :
    Except Failure Evaluation := do
  let row ← Row.ofBindings bindings keepCase (some e.members)
  e.bind row
  let value ← e.value row
  checkResult value
  let row ← row.store value
  return ⟨← row.verdict, value, row⟩

theorem evaluation_congr {x y : Expr} (h : x.unplaced = y.unplaced) (bindings : List Binding)
    (keepCase : Bool) : x.evaluation bindings keepCase = y.evaluation bindings keepCase := by
  have hmembers : x.members = y.members := by
    rw [← x.members_unplaced, h, y.members_unplaced]
  have hvalue (row : Row) : x.value row = y.value row := by
    rw [← x.value_unplaced, h, y.value_unplaced]
  simp only [evaluation, Expr.bind, hmembers, hvalue]

/-- A text that is read as an expression has tokens that derive it. -/
theorem exists_tokens_of_read {source : String} {e : Expr} (h : read source = .ok e) :
    ∃ ts, tokens source = .ok ts ∧ Derives 1 ts e := by
  obtain ⟨ts, htokens, hts⟩ := exists_of_bind_eq_ok h
  exact ⟨ts, htokens, derives_of_ofTokens (attaching_eq_ok.1 hts)⟩

/-- A text that is read as an expression has lexemes that spell it. -/
theorem exists_scan_of_read {source : String} {e : Expr} (h : read source = .ok e) :
    ∃ ls, Lexeme.scan source.toList = .ok ls ∧ Spells 1 ls e := by
  rw [read, tokens] at h
  rcases Token.scan_cases 0 source.toList with ⟨ts, hts, hls⟩ | ⟨mistake, place, hts, -⟩
  · rw [hts] at h
    have he : ofTokens source.length ts = .ok e := attaching_eq_ok.1 h
    refine ⟨ts.map Token.lexeme, hls, fun us hus => ?_⟩
    have halike := ofTokens_alike hus 0 source.length
    rw [he] at halike
    cases hx : ofTokens 0 us with
    | ok x =>
      rw [hx] at halike
      cases halike with
      | ok hunplaced => exact ⟨x, derives_of_ofTokens hx, hunplaced⟩
    | error failure =>
      rw [hx] at halike
      cases halike
  · rw [hts] at h
    cases h

/-- A text whose lexemes spell an expression is read as that expression, up to positions. -/
theorem exists_read_of_scan {source : String} {ls : List Lexeme} {e : Expr}
    (hscan : Lexeme.scan source.toList = .ok ls) (hspells : Spells 1 ls e) :
    ∃ x, read source = .ok x ∧ x.unplaced = e.unplaced := by
  rcases Token.scan_cases 0 source.toList with ⟨ts, hts, hls⟩ | ⟨mistake, place, -, hls⟩
  · rw [hscan] at hls
    obtain ⟨x, hx, hunplaced⟩ := hspells ts (Except.ok.inj hls).symm
    refine ⟨x, ?_, hunplaced⟩
    rw [read, tokens, hts]
    exact congrArg (attaching source) (ofTokens_of_derives _ hx)
  · rw [hscan] at hls
    cases hls

end Expr

theorem evaluateIn_eq (source : String) (bindings : List Binding) (keepCase : Bool) :
    evaluateIn source bindings keepCase = (do
      let e ← Expr.read source
      attaching source (e.evaluation bindings keepCase)) := rfl

/-- A text whose lexemes spell an expression comes to what that expression comes to. -/
theorem evaluateIn_of_scan {source : String} {ls : List Lexeme} {e : Expr}
    (hscan : Lexeme.scan source.toList = .ok ls) (hspells : Spells 1 ls e)
    (bindings : List Binding) (keepCase : Bool) :
    evaluateIn source bindings keepCase = attaching source (e.evaluation bindings keepCase) := by
  obtain ⟨x, hread, hunplaced⟩ := Expr.exists_read_of_scan hscan hspells
  rw [evaluateIn_eq, hread, ← Expr.evaluation_congr hunplaced]
  rfl

theorem evaluateIn_alike {source source' : String}
    (h : Lexeme.scan source.toList = Lexeme.scan source'.toList) (bindings : List Binding)
    (keepCase : Bool) :
    Alike Eq (evaluateIn source bindings keepCase) (evaluateIn source' bindings keepCase) := by
  rw [evaluateIn_eq, evaluateIn_eq]
  refine (Expr.read_alike h).bind fun x y hxy => ?_
  rw [Expr.evaluation_congr hxy]
  exact Alike.attaching (.refl (fun _ => rfl) _) source source'

end RuleCheck
