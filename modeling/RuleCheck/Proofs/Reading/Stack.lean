import RuleCheck.Proofs.Grammar

/-!
# Open frames

A frame demands a right side of some level, and stands only on frames that can take what it
will become. Closing the frames from a level up leaves only looser ones open. A reading that
has passed some tokens goes on from where they left it.
-/

set_option autoImplicit false

namespace RuleCheck

namespace Frame

@[simp]
def demand : Frame → Nat
  | paren => 1
  | or _ => 2
  | and _ => 3
  | not => 3
  | compare _ _ => 5
  | add _ => 6
  | sub _ => 6
  | rem _ => 7
  | mul _ => 8
  | div _ => 8
  | sign _ => 8

def Fits (n : Nat) : List Frame → Prop
  | [] => True
  | f :: _ => f.demand ≤ n

def Below (n : Nat) : List Frame → Prop
  | [] => True
  | f :: _ => f.level < n

theorem demand_le (f : Frame) : f.demand ≤ f.level + 1 := by
  cases f <;> simp [level]

theorem level_le_demand (f : Frame) : f.level ≤ f.demand := by
  cases f <;> simp [level]

theorem fits_of_le {n : Nat} (hn : 8 ≤ n) (stack : List Frame) : Fits n stack := by
  cases stack with
  | nil => trivial
  | cons f stack => cases f <;> simp only [Fits, demand] <;> omega

theorem Fits.mono {n m : Nat} {stack : List Frame} (hnm : n ≤ m) (h : Fits n stack) :
    Fits m stack := by
  cases stack with
  | nil => trivial
  | cons f stack => exact Nat.le_trans h hnm

theorem Below.fits {n : Nat} {stack : List Frame} (h : Below n stack) : Fits n stack := by
  cases stack with
  | nil => trivial
  | cons f stack =>
    have hd := demand_le f
    have hl : f.level < n := h
    exact Nat.le_trans hd hl

theorem Fits.below {n : Nat} {stack : List Frame} (h : Fits n stack) (h3 : n ≠ 3)
    (h8 : n ≠ 8) : Below n stack := by
  cases stack with
  | nil => trivial
  | cons f stack =>
    cases f <;> simp only [Fits, Below, demand, level] at h ⊢ <;> omega

theorem close_of_below {n : Nat} {stack : List Frame} (e : Expr) (h : Below n stack) :
    close n e stack = (e, stack) := by
  cases stack with
  | nil => rfl
  | cons f stack => exact if_neg (Nat.not_le.2 h)

theorem close_cons {n : Nat} {f : Frame} (e : Expr) (stack : List Frame) (h : n ≤ f.level) :
    close n e (f :: stack) = close n (f.wrap e) stack := if_pos h

theorem below_close (n : Nat) (e : Expr) (stack : List Frame) : Below n (close n e stack).2 := by
  induction stack generalizing e with
  | nil => trivial
  | cons f stack ih =>
    by_cases h : n ≤ f.level
    · rw [close_cons e stack h]
      exact ih _
    · have hf : Below n (f :: stack) := Nat.not_le.1 h
      rw [close_of_below e hf]
      exact hf

def Joining (n : Nat) (f : Expr → Expr → Expr) (frame : Expr → Frame) : Prop :=
  ∀ x, (frame x).level = n ∧ (frame x).demand = n + 1 ∧ ∀ y, (frame x).wrap y = f x y

end Frame

namespace Reading

inductive Passes : Reading → List Token → Reading → Prop
  | nil (r : Reading) : Passes r [] r
  | cons {r s u : Reading} {t : Token} {ts : List Token} (h : r.step t = .ok s)
      (hs : Passes s ts u) : Passes r (t :: ts) u

namespace Passes

theorem append {r s u : Reading} {ts us : List Token} (h : Passes r ts s) (hs : Passes s us u) :
    Passes r (ts ++ us) u := by
  induction h with
  | nil => exact hs
  | cons ht _ ih => exact cons ht (ih hs)

theorem one {r s : Reading} {t : Token} (h : r.step t = .ok s) : Passes r [t] s := cons h (nil s)

theorem run_append {r s : Reading} {ts : List Token} (h : Passes r ts s) (stop : Nat)
    (us : List Token) : run stop r (ts ++ us) = run stop s us := by
  induction h with
  | nil => rfl
  | cons ht _ ih =>
    rw [List.cons_append, run, ht]
    exact ih

end Passes

theorem passes_of_run {stop : Nat} {r : Reading} {ts : List Token} {e : Expr}
    (h : run stop r ts = .ok e) : ∃ s, Passes r ts s ∧ s.finish = .ok e := by
  induction ts generalizing r with
  | nil =>
    refine ⟨r, .nil r, ?_⟩
    rw [run] at h
    cases hf : r.finish with
    | ok x =>
      rw [hf] at h
      cases h
      rfl
    | error wanted =>
      rw [hf] at h
      cases h
  | cons t ts ih =>
    rw [run] at h
    split at h
    · rename_i s hs
      obtain ⟨u, hu, hfinish⟩ := ih h
      exact ⟨u, .cons hs hu, hfinish⟩
    · cases h
    · cases h

theorem joining_arithmetic (op : Arithmetic) :
    Frame.Joining (Frame.arithmeticLevel op) (.compute op) (Frame.arithmetic op) := by
  intro x
  cases op <;> exact ⟨rfl, rfl, fun y => rfl⟩

/-- An operator between two operands closes what binds as tightly and waits on a frame. -/
theorem exists_joinLeft {l : Lexeme} {n : Nat} {f : Expr → Expr → Expr} (h : Joins l n f) :
    ∃ frame, Frame.Joining n f frame ∧ ∀ (e : Expr) (stack : List Frame) (t : Token),
      t.lexeme = l → afterOperand e stack t = .ok (joinLeft n frame e stack) ∧
        (n ≤ 2 → afterTest e stack t = .ok (joinLeft n frame e stack)) := by
  have arithmetic (op : Arithmetic) (hn : ¬ Frame.arithmeticLevel op ≤ 2) :
      ∃ frame, Frame.Joining (Frame.arithmeticLevel op) (.compute op) frame ∧
        ∀ (e : Expr) (stack : List Frame) (t : Token), t.lexeme = .arithmetic op →
          afterOperand e stack t = .ok (joinLeft (Frame.arithmeticLevel op) frame e stack) ∧
            (Frame.arithmeticLevel op ≤ 2 →
              afterTest e stack t = .ok (joinLeft (Frame.arithmeticLevel op) frame e stack)) := by
    refine ⟨_, joining_arithmetic op, fun e stack t ht => ⟨?_, fun h => (hn h).elim⟩⟩
    simp only [afterOperand, ht]
  cases h with
  | or =>
    refine ⟨.or, fun x => ⟨rfl, rfl, fun y => rfl⟩, fun e stack t ht => ?_⟩
    simp only [afterOperand, afterTest, ht, and_self, implies_true]
  | and =>
    refine ⟨.and, fun x => ⟨rfl, rfl, fun y => rfl⟩, fun e stack t ht => ?_⟩
    simp only [afterOperand, afterTest, ht, and_self, implies_true]
  | mod =>
    refine ⟨.rem, fun x => ⟨rfl, rfl, fun y => rfl⟩, fun e stack t ht => ⟨?_, ?_⟩⟩
    · simp only [afterOperand, ht]
    · exact fun h => absurd h (by decide)
  | add => exact arithmetic .add (by decide)
  | sub => exact arithmetic .sub (by decide)
  | rem => exact arithmetic .rem (by decide)
  | mul => exact arithmetic .mul (by decide)
  | div => exact arithmetic .div (by decide)

end Reading

end RuleCheck
