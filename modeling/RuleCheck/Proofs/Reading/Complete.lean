import RuleCheck.Proofs.Reading.Stack

/-!
# Every phrase is read

A reading that wants an operand passes the tokens of a phrase, whatever frames are open that
can take it. It then holds the phrase up to frames that bind more tightly and are still open:
the next token closes them.
-/

set_option autoImplicit false

namespace RuleCheck

open RuleCheck.Frame

namespace Reading

/-- The reading holds a phrase of the level on top of the stack, once tighter frames are
closed. After a test for nothing it holds no operand of arithmetic. -/
inductive Holds (n : Nat) (x : Expr) (stack : List Frame) : Reading → Prop
  | holding {e : Expr} {frames : List Frame}
      (h : ∀ k ≤ n, close k e frames = close k x stack) : Holds n x stack (holding e frames)
  | tested {e : Expr} {frames : List Frame} (hn : n ≤ 4)
      (h : ∀ k ≤ n, close k e frames = close k x stack) : Holds n x stack (tested e frames)

theorem Holds.mono {n m : Nat} {x : Expr} {stack : List Frame} {r : Reading} (hnm : n ≤ m)
    (h : Holds m x stack r) : Holds n x stack r := by
  cases h with
  | holding h => exact .holding fun k hk => h k (Nat.le_trans hk hnm)
  | tested hm h => exact .tested (Nat.le_trans hnm hm) fun k hk => h k (Nat.le_trans hk hnm)

/-- Closing the innermost frame makes a phrase of its level out of what it waited for. -/
theorem Holds.wrap {n : Nat} {f : Frame} {x : Expr} {stack : List Frame} {r : Reading}
    (hn : n ≤ f.level) (h : Holds n x (f :: stack) r) : Holds n (f.wrap x) stack r := by
  cases h with
  | holding h =>
    refine .holding fun k hk => ?_
    rw [h k hk, close_cons x stack (Nat.le_trans hk hn)]
  | tested hm h =>
    refine .tested hm fun k hk => ?_
    rw [h k hk, close_cons x stack (Nat.le_trans hk hn)]

theorem admitsNot_of_fits {stack : List Frame} (h : Fits 3 stack) : admitsNot stack = true := by
  cases stack with
  | nil => rfl
  | cons f stack =>
    have hl := level_le_demand f
    have hd : f.demand ≤ 3 := h
    exact decide_eq_true (Nat.le_trans hl hd)

theorem step_atom {t : Token} {x : Expr} (h : Atom t x) (stack : List Frame) :
    (wanting stack).step t = .ok (holding x stack) := by
  cases h with
  | number ht hv => simp only [step, wantOperand, ht, hv]
  | text ht => simp only [step, wantOperand, ht]
  | member ht => simp only [step, wantOperand, ht]
  | true ht => simp only [step, wantOperand, ht]
  | false ht => simp only [step, wantOperand, ht]
  | null ht => simp only [step, wantOperand, ht]

theorem step_sign {t : Token} {op : Sign} (h : Signs t.lexeme op) (stack : List Frame) :
    (wanting stack).step t = .ok (wanting (.sign op :: stack)) := by
  generalize hl : t.lexeme = l at h
  cases h <;> simp only [step, wantOperand, hl]

/-- An operator of a level takes the phrase of the level before it as its left operand. -/
theorem step_join {n : Nat} {f : Expr → Expr → Expr} {x : Expr} {stack : List Frame}
    {r : Reading} {t : Token} (ht : Joins t.lexeme n f) (hs : Fits n stack)
    (h : Holds n x stack r) :
    ∃ frame, Joining n f frame ∧ r.step t = .ok (wanting (frame x :: stack)) := by
  obtain ⟨frame, hframe, hstep⟩ := exists_joinLeft ht
  have hlevel := ht.level
  have hbelow : Below n stack := hs.below (by omega) (by omega)
  refine ⟨frame, hframe, ?_⟩
  cases h with
  | @holding e frames h =>
    rw [step, (hstep e frames t rfl).1, joinLeft, h n (Nat.le_refl n), close_of_below x hbelow]
  | @tested e frames hn h =>
    have hn : n ≤ 2 := by omega
    rw [step, (hstep e frames t rfl).2 hn, joinLeft, h n (Nat.le_refl n), close_of_below x hbelow]

theorem compareLeft_of_close {next : Expr → List Frame → Reading} {e x : Expr}
    {frames stack : List Frame} (h : close 5 e frames = (x, stack)) (hs : Fits 4 stack) :
    compareLeft next e frames = .ok (next x stack) := by
  rw [compareLeft, h]
  cases stack with
  | nil => rfl
  | cons f stack =>
    cases f with
    | compare => exact absurd (show 5 ≤ 4 from hs) (by decide)
    | _ => rfl

/-- A comparison operator or IS takes the sum before it as its left operand. -/
theorem compareLeft_of_holds (next : Expr → List Frame → Reading) {x : Expr}
    {stack : List Frame} {r : Reading} (hs : Fits 4 stack) (h : Holds 5 x stack r) :
    ∃ e frames, r = holding e frames ∧ compareLeft next e frames = .ok (next x stack) := by
  cases h with
  | @holding e frames h =>
    have hbelow : Below 5 stack := (hs.mono (by decide)).below (by decide) (by decide)
    refine ⟨e, frames, rfl, compareLeft_of_close ?_ hs⟩
    rw [h 5 (Nat.le_refl 5), close_of_below x hbelow]
  | tested hn => exact absurd hn (by decide)

theorem step_closing {t : Token} {x : Expr} {stack : List Frame} {r : Reading}
    (ht : t.lexeme = .closing) (h : Holds 1 x (.paren :: stack) r) :
    r.step t = .ok (holding x stack) := by
  have hbelow : Below 1 (.paren :: stack) := Nat.zero_lt_one
  cases h with
  | holding h =>
    simp only [step, afterOperand, afterTest, ht, closeParen, h 1 (Nat.le_refl 1),
      close_of_below x hbelow]
  | tested _ h =>
    simp only [step, afterTest, ht, closeParen, h 1 (Nat.le_refl 1), close_of_below x hbelow]

/-- The tokens of a phrase lead from any stack that can take it to a reading that holds it.
The induction is on the derivation: what an operator waits for stands on its own frame. -/
theorem exists_passes_of_derives {n : Nat} {ts : List Token} {x : Expr} (h : Derives n ts x)
    {stack : List Frame} (hs : Fits n stack) :
    ∃ r, Passes (wanting stack) ts r ∧ Holds n x stack r := by
  induction h generalizing stack with
  | tighter _ ih =>
    obtain ⟨r, hr, hx⟩ := ih (hs.mono (Nat.le_succ _))
    exact ⟨r, hr, hx.mono (Nat.le_succ _)⟩
  | @join n f t ls rs x y ht _ _ ihx ihy =>
    obtain ⟨r, hr, hx⟩ := ihx hs
    obtain ⟨frame, hframe, hstep⟩ := step_join ht hs hx
    obtain ⟨hlevel, hdemand, hwrap⟩ := hframe x
    have hfits : Fits (n + 1) (frame x :: stack) := Nat.le_of_eq hdemand
    obtain ⟨u, hu, hy⟩ := ihy hfits
    refine ⟨u, hr.append (.cons hstep hu), ?_⟩
    rw [← hwrap y]
    exact (hy.mono (Nat.le_succ n)).wrap (Nat.le_of_eq hlevel.symm)
  | @not t ts x ht _ ih =>
    have hstep : (wanting stack).step t = .ok (wanting (.not :: stack)) := by
      simp only [step, wantOperand, ht, admitsNot_of_fits hs, if_true]
    have hfits : Fits 3 (.not :: stack) := Nat.le_refl 3
    obtain ⟨r, hr, hx⟩ := ih hfits
    exact ⟨r, .cons hstep hr, hx.wrap (Nat.le_refl 3)⟩
  | @compare op t ls rs x y ht _ _ ihx ihy =>
    obtain ⟨r, hr, hx⟩ := ihx (hs.mono (by decide))
    obtain ⟨e, frames, rfl, hcompare⟩ :=
      compareLeft_of_holds (fun x stack => wanting (.compare op x :: stack)) hs hx
    have hstep : (holding e frames).step t = .ok (wanting (.compare op x :: stack)) := by
      simp only [step, afterOperand, ht, hcompare]
    have hfits : Fits 5 (.compare op x :: stack) := Nat.le_refl 5
    obtain ⟨u, hu, hy⟩ := ihy hfits
    exact ⟨u, hr.append (.cons hstep hu), (hy.mono (by decide)).wrap (Nat.le_refl 4)⟩
  | @isNull t u ts x ht hu _ ih =>
    obtain ⟨r, hr, hx⟩ := ih (hs.mono (by decide))
    obtain ⟨e, frames, rfl, hcompare⟩ := compareLeft_of_holds afterIs hs hx
    have hstep : (holding e frames).step t = .ok (afterIs x stack) := by
      simp only [step, afterOperand, ht, hcompare]
    have hnull : (afterIs x stack).step u = .ok (tested (.isNull false x) stack) := by
      simp only [step, hu]
    exact ⟨_, hr.append (.cons hstep (.one hnull)), .tested (Nat.le_refl 4) fun k _ => rfl⟩
  | @isNotNull t u w ts x ht hu hw _ ih =>
    obtain ⟨r, hr, hx⟩ := ih (hs.mono (by decide))
    obtain ⟨e, frames, rfl, hcompare⟩ := compareLeft_of_holds afterIs hs hx
    have hstep : (holding e frames).step t = .ok (afterIs x stack) := by
      simp only [step, afterOperand, ht, hcompare]
    have hnot : (afterIs x stack).step u = .ok (afterIsNot x stack) := by
      simp only [step, hu]
    have hnull : (afterIsNot x stack).step w = .ok (tested (.isNull true x) stack) := by
      simp only [step, hw]
    exact ⟨_, hr.append (.cons hstep (.cons hnot (.one hnull))),
      .tested (Nat.le_refl 4) fun k _ => rfl⟩
  | @sign op t ts x ht _ ih =>
    have hfits : Fits 8 (.sign op :: stack) := Nat.le_refl 8
    obtain ⟨r, hr, hx⟩ := ih hfits
    exact ⟨r, .cons (step_sign ht stack) hr, hx.wrap (Nat.le_refl 8)⟩
  | atom hx => exact ⟨_, .one (step_atom hx stack), .holding fun k _ => rfl⟩
  | @paren t u ts x ht hu _ ih =>
    have hopen : (wanting stack).step t = .ok (wanting (.paren :: stack)) := by
      simp only [step, wantOperand, ht]
    have hfits : Fits 1 (.paren :: stack) := Nat.le_refl 1
    obtain ⟨r, hr, hx⟩ := ih hfits
    exact ⟨_, .cons hopen (hr.append (.one (step_closing hu hx))), .holding fun k _ => rfl⟩

theorem finish_of_holds {x : Expr} {r : Reading} (h : Holds 1 x [] r) : r.finish = .ok x := by
  cases h with
  | holding h => simp only [finish, closeAll, h 1 (Nat.le_refl 1), close]
  | tested _ h => simp only [finish, closeAll, h 1 (Nat.le_refl 1), close]

end Reading

theorem Expr.ofTokens_of_derives (stop : Nat) {ts : List Token} {x : Expr}
    (h : Derives 1 ts x) : Expr.ofTokens stop ts = .ok x := by
  have hfits : Fits 1 [] := trivial
  obtain ⟨r, hr, hx⟩ := Reading.exists_passes_of_derives h hfits
  have hrun : Reading.run stop (.wanting []) ts = .ok x := by
    have happend := hr.run_append stop []
    rw [List.append_nil] at happend
    rw [happend, Reading.run, Reading.finish_of_holds hx]
    rfl
  cases ts with
  | nil => exact absurd rfl h.ne_nil
  | cons t ts => exact hrun

end RuleCheck
