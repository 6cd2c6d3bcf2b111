import RuleCheck.Proofs.Reading.Stack

/-!
# What is read is a phrase

The tokens passed so far always account for the reading: each open frame stands for tokens
that make a phrase together with the right side it waits for, and what is held on top of the
frames is a phrase already.
-/

set_option autoImplicit false

namespace RuleCheck

open RuleCheck.Frame

namespace Reading

inductive Opens : List Frame → List Token → Prop
  | nil : Opens [] []
  | paren {stack : List Frame} {ts : List Token} {t : Token} (ht : t.lexeme = .opening)
      (hs : Opens stack ts) : Opens (.paren :: stack) (ts ++ [t])
  | frame {f : Frame} {stack : List Frame} {ts us : List Token}
      (hwrap : ∀ vs x, Derives f.demand vs x → Derives f.level (us ++ vs) (f.wrap x))
      (hfits : Fits f.level stack) (hlevel : 0 < f.level) (hs : Opens stack ts) :
      Opens (f :: stack) (ts ++ us)

/-- Closing frames keeps the tokens and moves those of the closed frames into the phrase. -/
theorem exists_derives_close {n m : Nat} (hn : 0 < n) (hnm : n ≤ m) {stack : List Frame}
    {us vs : List Token} {x : Expr} (hs : Opens stack us) (hx : Derives m vs x)
    (hfits : Fits m stack) :
    ∃ us' vs', us ++ vs = us' ++ vs' ∧ Opens (close n x stack).2 us' ∧
      Derives n vs' (close n x stack).1 := by
  induction hs generalizing m vs x with
  | nil => exact ⟨[], vs, rfl, .nil, hx.loosen hnm⟩
  | @paren stack ts t ht hs =>
    have hbelow : Below n (.paren :: stack) := hn
    rw [close_of_below x hbelow]
    exact ⟨ts ++ [t], vs, rfl, .paren ht hs, hx.loosen hnm⟩
  | @frame f stack ts us hwrap hbelow hlevel hs ih =>
    by_cases h : n ≤ f.level
    · obtain ⟨us', vs', heq, hopens, hderives⟩ :=
        ih h (hwrap vs x (hx.loosen hfits)) hbelow
      rw [close_cons x stack h]
      exact ⟨us', vs', by rw [List.append_assoc, heq], hopens, hderives⟩
    · have hf : Below n (f :: stack) := Nat.not_le.1 h
      rw [close_of_below x hf]
      exact ⟨ts ++ us, vs, rfl, .frame hwrap hbelow hlevel hs, hx.loosen hnm⟩

inductive Accounts : List Token → Reading → Prop
  | wanting {stack : List Frame} {ts : List Token} (hs : Opens stack ts) :
      Accounts ts (wanting stack)
  | holding {stack : List Frame} {us vs : List Token} {x : Expr} (hs : Opens stack us)
      (hx : Derives 9 vs x) : Accounts (us ++ vs) (holding x stack)
  | tested {stack : List Frame} {us vs : List Token} {x : Expr} (hs : Opens stack us)
      (hx : Derives 4 vs x) (hfits : Fits 4 stack) : Accounts (us ++ vs) (tested x stack)
  | afterIs {stack : List Frame} {us vs : List Token} {t : Token} {x : Expr}
      (hs : Opens stack us) (hx : Derives 5 vs x) (hfits : Fits 4 stack)
      (ht : t.lexeme = .keyword .is) : Accounts (us ++ vs ++ [t]) (afterIs x stack)
  | afterIsNot {stack : List Frame} {us vs : List Token} {t u : Token} {x : Expr}
      (hs : Opens stack us) (hx : Derives 5 vs x) (hfits : Fits 4 stack)
      (ht : t.lexeme = .keyword .is) (hu : u.lexeme = .keyword .not) :
      Accounts (us ++ vs ++ [t, u]) (afterIsNot x stack)

theorem fits_of_admitsNot {stack : List Frame} (h : admitsNot stack = true) : Fits 3 stack := by
  cases stack with
  | nil => trivial
  | cons f stack =>
    have hf : f.level ≤ 3 := of_decide_eq_true h
    cases f <;> simp_all [Fits, level]

theorem opens_sign {op : Sign} {t : Token} {stack : List Frame} {ts : List Token}
    (ht : Signs t.lexeme op) (hs : Opens stack ts) : Opens (.sign op :: stack) (ts ++ [t]) :=
  .frame (fun _ _ hx => .sign ht hx) (fits_of_le (Nat.le_refl 8) stack) (by simp [level]) hs

theorem accounts_wantOperand {stack : List Frame} {ts : List Token} {t : Token} {s : Reading}
    (hs : Opens stack ts) (h : wantOperand stack t = .ok s) : Accounts (ts ++ [t]) s := by
  unfold wantOperand at h
  split at h
  · rename_i digits ht
    split at h
    · rename_i v hv
      cases h
      exact .holding hs (.atom (.number ht hv))
    · cases h
  · rename_i content ht
    cases h
    exact .holding hs (.atom (.text ht))
  · rename_i name ht
    cases h
    exact .holding hs (.atom (.member ht))
  · rename_i ht
    cases h
    exact .holding hs (.atom (.true ht))
  · rename_i ht
    cases h
    exact .holding hs (.atom (.false ht))
  · rename_i ht
    cases h
    exact .holding hs (.atom (.null ht))
  · rename_i ht
    split at h
    · rename_i hadmits
      cases h
      exact .wanting (.frame (fun vs x hx => .not ht hx) (fits_of_admitsNot hadmits)
        (by decide) hs)
    · cases h
  · rename_i ht
    cases h
    exact .wanting (opens_sign (ht ▸ .minus) hs)
  · rename_i ht
    cases h
    exact .wanting (opens_sign (ht ▸ .plus) hs)
  · rename_i ht
    cases h
    exact .wanting (.paren ht hs)
  · cases h

/-- An operator turns the phrase before it into the left operand that its frame holds. -/
theorem accounts_joinLeft {n m : Nat} {f : Expr → Expr → Expr} {frame : Expr → Frame}
    {t : Token} {stack : List Frame} {us vs : List Token} {x : Expr}
    (ht : Joins t.lexeme n f) (hframe : Joining n f frame) (hnm : n ≤ m) (hs : Opens stack us)
    (hx : Derives m vs x) (hfits : Fits m stack) :
    Accounts (us ++ vs ++ [t]) (joinLeft n frame x stack) := by
  have hn : 0 < n := by have := ht.level; omega
  obtain ⟨us', vs', heq, hopens, hleft⟩ := exists_derives_close hn hnm hs hx hfits
  obtain ⟨hlevel, hdemand, hwrap⟩ := hframe (close n x stack).1
  rw [heq, List.append_assoc, joinLeft]
  refine .wanting (.frame (fun ws y hy => ?_) ?_ (by omega) hopens)
  · rw [hlevel, hwrap y, List.append_assoc]
    rw [hdemand] at hy
    exact .join ht hleft hy
  · rw [hlevel]
    exact (below_close n x stack).fits

theorem accounts_closeParen {m : Nat} {t : Token} {stack : List Frame} {us vs : List Token}
    {x : Expr} {s : Reading} (ht : t.lexeme = .closing) (hm : 1 ≤ m) (hs : Opens stack us)
    (hx : Derives m vs x) (hfits : Fits m stack) (h : closeParen x stack = .ok s) :
    Accounts (us ++ vs ++ [t]) s := by
  obtain ⟨us', vs', heq, hopens, hinner⟩ := exists_derives_close Nat.one_pos hm hs hx hfits
  unfold closeParen at h
  split at h
  · rename_i inner rest hclose
    cases h
    rw [hclose] at hopens hinner
    cases hopens with
    | @paren _ ts u hu hrest =>
      rw [heq, List.append_assoc, List.append_assoc]
      exact .holding hrest (.paren hu ht hinner)
    | frame _ _ hlevel => exact absurd hlevel (by decide)
  · cases h

/-- Where a comparison may follow, the phrase before it stands below no other comparison. -/
theorem exists_of_compareLeft {next : Expr → List Frame → Reading} {stack : List Frame}
    {us vs : List Token} {x : Expr} {s : Reading} (hs : Opens stack us) (hx : Derives 9 vs x)
    (h : compareLeft next x stack = .ok s) :
    ∃ us' vs' left rest, us ++ vs = us' ++ vs' ∧ Opens rest us' ∧ Derives 5 vs' left ∧
      Fits 4 rest ∧ s = next left rest := by
  obtain ⟨us', vs', heq, hopens, hleft⟩ :=
    exists_derives_close (n := 5) (by decide) (by decide) hs hx (fits_of_le (by decide) stack)
  have hbelow := below_close 5 x stack
  unfold compareLeft at h
  split at h
  · cases h
  · rename_i left rest hnot hclose
    cases h
    rw [hclose] at hopens hleft hbelow
    refine ⟨us', vs', left, rest, heq, hopens, hleft, ?_, rfl⟩
    cases rest with
    | nil => trivial
    | cons f rest =>
      cases f with
      | compare op l => exact (hnot op l rest rfl).elim
      | _ => simp_all [Below, Fits, level]

theorem afterTest_cases {x : Expr} {stack : List Frame} {t : Token} {s : Reading}
    (h : afterTest x stack t = .ok s) :
    (∃ n f frame, n ≤ 2 ∧ Joins t.lexeme n f ∧ Joining n f frame ∧
      s = joinLeft n frame x stack) ∨ (t.lexeme = .closing ∧ closeParen x stack = .ok s) := by
  unfold afterTest at h
  split at h
  · rename_i ht
    cases h
    exact .inl ⟨2, .and, .and, by decide, ht ▸ .and, fun l => ⟨rfl, rfl, fun y => rfl⟩, rfl⟩
  · rename_i ht
    cases h
    exact .inl ⟨1, .or, .or, by decide, ht ▸ .or, fun l => ⟨rfl, rfl, fun y => rfl⟩, rfl⟩
  · rename_i ht
    exact .inr ⟨ht, h⟩
  · cases h

theorem joins_arithmetic (op : Arithmetic) :
    Joins (.arithmetic op) (arithmeticLevel op) (.compute op) := by
  cases op with
  | add => exact .add
  | sub => exact .sub
  | mul => exact .mul
  | div => exact .div
  | rem => exact .rem

theorem afterOperand_cases {x : Expr} {stack : List Frame} {t : Token} {s : Reading}
    (h : afterOperand x stack t = .ok s) :
    (∃ n f frame, n ≤ 9 ∧ Joins t.lexeme n f ∧ Joining n f frame ∧
      s = joinLeft n frame x stack) ∨ (t.lexeme = .closing ∧ closeParen x stack = .ok s) ∨
    (∃ op, t.lexeme = .comparison op ∧
      compareLeft (fun left rest => wanting (.compare op left :: rest)) x stack = .ok s) ∨
    (t.lexeme = .keyword .is ∧ compareLeft afterIs x stack = .ok s) := by
  unfold afterOperand at h
  split at h
  · rename_i op ht
    cases h
    have hlevel := (joins_arithmetic op).level
    exact .inl ⟨_, _, _, by omega, ht ▸ joins_arithmetic op, joining_arithmetic op, rfl⟩
  · rename_i ht
    cases h
    exact .inl ⟨6, _, .rem, by decide, ht ▸ .mod, fun l => ⟨rfl, rfl, fun y => rfl⟩, rfl⟩
  · rename_i op ht
    exact .inr (.inr (.inl ⟨op, ht, h⟩))
  · rename_i ht
    exact .inr (.inr (.inr ⟨ht, h⟩))
  · rcases afterTest_cases h with ⟨n, f, frame, hn, hjoin⟩ | hclosing
    · exact .inl ⟨n, f, frame, by omega, hjoin⟩
    · exact .inr (.inl hclosing)

theorem accounts_step {ts : List Token} {r s : Reading} {t : Token} (hr : Accounts ts r)
    (h : r.step t = .ok s) : Accounts (ts ++ [t]) s := by
  cases hr with
  | wanting hs => exact accounts_wantOperand hs h
  | @holding stack us vs x hs hx =>
    have hfits : Fits 9 stack := fits_of_le (by decide) stack
    rcases afterOperand_cases h with ⟨n, f, frame, hn, ht, hframe, rfl⟩ | ⟨ht, hclose⟩ |
      ⟨op, ht, hcompare⟩ | ⟨ht, hcompare⟩
    · exact accounts_joinLeft ht hframe hn hs hx hfits
    · exact accounts_closeParen ht (by decide) hs hx hfits hclose
    · obtain ⟨us', vs', left, rest, heq, hopens, hleft, hrest, rfl⟩ :=
        exists_of_compareLeft hs hx hcompare
      rw [heq, List.append_assoc]
      refine .wanting (.frame (fun ws y hy => ?_) hrest (by simp [level]) hopens)
      rw [List.append_assoc]
      exact .compare ht hleft hy
    · obtain ⟨us', vs', left, rest, heq, hopens, hleft, hrest, rfl⟩ :=
        exists_of_compareLeft hs hx hcompare
      rw [heq]
      exact .afterIs hopens hleft hrest ht
  | tested hs hx hfits =>
    rcases afterTest_cases h with ⟨n, f, frame, hn, ht, hframe, rfl⟩ | ⟨ht, hclose⟩
    · exact accounts_joinLeft ht hframe (by omega) hs hx hfits
    · exact accounts_closeParen ht (by decide) hs hx hfits hclose
  | afterIs hs hx hfits ht =>
    simp only [step] at h
    split at h
    · rename_i hu
      cases h
      rw [List.append_assoc]
      exact .afterIsNot hs hx hfits ht hu
    · rename_i hu
      cases h
      rw [List.append_assoc, List.append_assoc]
      exact .tested hs (.isNull ht hu hx) hfits
    · cases h
  | afterIsNot hs hx hfits ht hu =>
    simp only [step] at h
    split at h
    · rename_i hw
      cases h
      rw [List.append_assoc, List.append_assoc]
      exact .tested hs (.isNotNull ht hu hw hx) hfits
    · cases h

theorem accounts_passes {us ts : List Token} {r s : Reading} (hr : Accounts us r)
    (h : Passes r ts s) : Accounts (us ++ ts) s := by
  induction h generalizing us with
  | nil =>
    rw [List.append_nil]
    exact hr
  | @cons r s u t ts ht _ ih =>
    have hstep := ih (accounts_step hr ht)
    rwa [List.append_assoc] at hstep

theorem derives_of_closeAll {m : Nat} {stack : List Frame} {us vs : List Token} {x e : Expr}
    (hm : 1 ≤ m) (hs : Opens stack us) (hx : Derives m vs x) (hfits : Fits m stack)
    (h : closeAll x stack = .ok e) : Derives 1 (us ++ vs) e := by
  obtain ⟨us', vs', heq, hopens, hwhole⟩ := exists_derives_close Nat.one_pos hm hs hx hfits
  unfold closeAll at h
  split at h
  · rename_i whole hclose
    cases h
    rw [hclose] at hopens hwhole
    cases hopens with
    | nil => rw [heq]; exact hwhole
  · cases h

/-- Where an expression may end, the tokens that were passed derive it. -/
theorem derives_of_finish {ts : List Token} {r : Reading} {e : Expr} (hr : Accounts ts r)
    (h : r.finish = .ok e) : Derives 1 ts e := by
  cases hr with
  | holding hs hx => exact derives_of_closeAll (by decide) hs hx (fits_of_le (by decide) _) h
  | tested hs hx hfits => exact derives_of_closeAll (by decide) hs hx hfits h
  | wanting | afterIs | afterIsNot => cases h

end Reading

/-- Nothing but a whole expression is read, and its tree is the one that is derived. -/
theorem Expr.derives_of_ofTokens {stop : Nat} {ts : List Token} {e : Expr}
    (h : Expr.ofTokens stop ts = .ok e) : Derives 1 ts e := by
  cases ts with
  | nil => cases h
  | cons t ts =>
    obtain ⟨r, hpasses, hfinish⟩ := Reading.passes_of_run h
    exact Reading.derives_of_finish (Reading.accounts_passes (.wanting .nil) hpasses) hfinish

end RuleCheck
