import RuleCheck.Proofs.Expr.Unreferenced
import RuleCheck.Proofs.Token.Seam

/-!
# Rules that are joined

Two rules in parentheses with AND or OR between them are read as the two expressions joined.
The members that either of them uses form one row, in which each comes to the value that it has
by itself. An unknown value counts as false in the parts as in the whole, which makes no
difference to a conjunction or a disjunction.
-/

set_option autoImplicit false

namespace RuleCheck

namespace Truth

theorem getD_and (x y : Truth) : (x.and y).getD false = (x.getD false && y.getD false) := by
  rcases x with _ | _ | _ <;> rcases y with _ | _ | _ <;> rfl

theorem getD_or (x y : Truth) : (x.or y).getD false = (x.getD false || y.getD false) := by
  rcases x with _ | _ | _ <;> rcases y with _ | _ | _ <;> rfl

end Truth

namespace Value

theorem exists_logical {v : Value} {b : Bool} (h : v.verdict = .ok b) :
    ∃ x : Truth, x.getD false = b ∧ ∀ connective, v.logical connective = .ok x := by
  obtain ⟨_, hcheck, h⟩ := exists_of_bind_eq_ok h
  obtain ⟨x, hx, hlogical⟩ := exists_result hcheck
  rw [hx] at h
  cases h
  exact ⟨x, rfl, hlogical⟩

theorem verdict_ofTruth (x : Truth) : (ofTruth x).verdict = .ok (x.getD false) := by
  rcases x with _ | _ | _ <;> rfl

end Value

namespace Expr

section

variable {row : Row} {x y : Expr} {v w : Value} {a b : Bool}

theorem exists_value_and (hx : x.value row = .ok v) (hv : v.verdict = .ok a)
    (hy : y.value row = .ok w) (hw : w.verdict = .ok b) :
    ∃ u, (and x y).value row = .ok u ∧ u.verdict = .ok (a && b) := by
  obtain ⟨s, rfl, hs⟩ := Value.exists_logical hv
  obtain ⟨t, rfl, ht⟩ := Value.exists_logical hw
  simp only [value, Bind.bind, Except.bind, hx]
  -- A left side that is false decides without a look at the right one.
  by_cases hfalse : isFalse v = true
  · obtain rfl : v = .bool false := by
      unfold isFalse at hfalse
      split at hfalse
      · rfl
      · cases hfalse
    cases hs "AND"
    exact ⟨_, if_pos rfl, rfl⟩
  · rw [if_neg hfalse]
    simp only [hy, Value.conjunction, Bind.bind, Except.bind, hs, ht]
    exact ⟨_, rfl, by rw [Value.verdict_ofTruth, Truth.getD_and]⟩

theorem exists_value_or (hx : x.value row = .ok v) (hv : v.verdict = .ok a)
    (hy : y.value row = .ok w) (hw : w.verdict = .ok b) :
    ∃ u, (or x y).value row = .ok u ∧ u.verdict = .ok (a || b) := by
  obtain ⟨s, rfl, hs⟩ := Value.exists_logical hv
  obtain ⟨t, rfl, ht⟩ := Value.exists_logical hw
  simp only [value, Bind.bind, Except.bind, hx]
  by_cases htrue : isTrue v = true
  · obtain rfl : v = .bool true := by
      unfold isTrue at htrue
      split at htrue
      · rfl
      · cases htrue
    cases hs "OR"
    exact ⟨_, if_pos rfl, rfl⟩
  · rw [if_neg htrue]
    simp only [hy, Value.disjunction, Bind.bind, Except.bind, hs, ht]
    exact ⟨_, rfl, by rw [Value.verdict_ofTruth, Truth.getD_or]⟩

end

variable {bindings : List Binding} {keepCase : Bool} {x y z : Expr} {a b : Bool}

theorem uses_of_names (hz : z.names = x.names ++ y.names) (name : String) :
    z.uses name = (x.uses name || y.uses name) := by
  have huses (e : Expr) : e.uses name = e.names.any fun n => Text.fold n == Text.fold name := by
    rw [Bool.eq_iff_iff, uses, Row.isUsed, List.any_eq_true, List.any_eq_true]
    simp only [members, mem_firsts]
  rw [huses z, huses x, huses y, hz, List.any_append]

theorem placed_of_names (hz : z.names = x.names ++ y.names) {m : Binding}
    (hx : Row.Placed (some x.members) m) (hy : Row.Placed (some y.members) m) :
    Row.Placed (some z.members) m where
  strict hname hused := by
    have huses : x.uses m.name = true ∨ y.uses m.name = true := by
      rw [← Bool.or_eq_true, ← uses_of_names hz]
      exact hused
    exact huses.elim (hx.strict hname) (hy.strict hname)
  loose hname hused := by
    have huses : (x.uses m.name || y.uses m.name) = false := by
      rw [← uses_of_names hz]
      exact hused
    exact hx.loose hname (Bool.or_eq_false_iff.1 huses).1

/-- Two expressions that have verdicts have one row in common, where each comes to a value with
its verdict. -/
theorem exists_common_row (hz : z.names = x.names ++ y.names)
    (hx : x.verdict bindings keepCase = .ok a) (hy : y.verdict bindings keepCase = .ok b) :
    ∃ row v w, Row.ofBindings bindings keepCase (some z.members) = .ok row ∧
      z.bind row = .ok () ∧ (x.value row = .ok v ∧ v.verdict = .ok a) ∧
      y.value row = .ok w ∧ w.verdict = .ok b := by
  obtain ⟨rowx, v, hrowx, hbindx, hvaluex, hv⟩ := verdict_eq_ok.1 hx
  obtain ⟨rowy, w, hrowy, hbindy, hvaluey, hw⟩ := verdict_eq_ok.1 hy
  -- A member that the whole uses fits, since the part that uses it had a row.
  obtain ⟨row, hrow⟩ : ∃ row, Row.ofBindings bindings keepCase (some z.members) = .ok row := by
    rw [Row.exists_ofBindings]
    intro m hm
    exact placed_of_names hz (Row.exists_ofBindings.1 ⟨rowx, hrowx⟩ m hm)
      (Row.exists_ofBindings.1 ⟨rowy, hrowy⟩ m hm)
  have hseenx : Row.SameSeen x.uses rowx row := by
    refine Row.sameSeen_ofBindings (fun _ h => h) (fun name h => ?_) hrowx hrow rfl
    show z.uses name = true
    rw [uses_of_names hz, h, Bool.true_or]
  have hseeny : Row.SameSeen y.uses rowy row := by
    refine Row.sameSeen_ofBindings (fun _ h => h) (fun name h => ?_) hrowy hrow rfl
    show z.uses name = true
    rw [uses_of_names hz, h, Bool.or_true]
  have hbind : z.bind row = .ok () := by
    refine bind_eq_ok fun name hname => ?_
    rw [hz, List.mem_append] at hname
    rcases hname with hname | hname
    · exact exists_resolve_of_bind ((sameBut_bind_of_seen hseenx).ok_iff.1 hbindx) name hname
    · exact exists_resolve_of_bind ((sameBut_bind_of_seen hseeny).ok_iff.1 hbindy) name hname
  exact ⟨row, v, w, hrow, hbind, ⟨(sameBut_value_of_seen hseenx).ok_iff.1 hvaluex, hv⟩,
    (sameBut_value_of_seen hseeny).ok_iff.1 hvaluey, hw⟩

theorem verdict_and (hx : x.verdict bindings keepCase = .ok a)
    (hy : y.verdict bindings keepCase = .ok b) :
    (and x y).verdict bindings keepCase = .ok (a && b) := by
  obtain ⟨row, v, w, hrow, hbind, ⟨hv, ha⟩, hw, hb⟩ :=
    exists_common_row (z := and x y) rfl hx hy
  obtain ⟨u, hu, hverdict⟩ := exists_value_and hv ha hw hb
  exact verdict_eq_ok.2 ⟨row, u, hrow, hbind, hu, hverdict⟩

theorem verdict_or (hx : x.verdict bindings keepCase = .ok a)
    (hy : y.verdict bindings keepCase = .ok b) :
    (or x y).verdict bindings keepCase = .ok (a || b) := by
  obtain ⟨row, v, w, hrow, hbind, ⟨hv, ha⟩, hw, hb⟩ :=
    exists_common_row (z := or x y) rfl hx hy
  obtain ⟨u, hu, hverdict⟩ := exists_value_or hv ha hw hb
  exact verdict_eq_ok.2 ⟨row, u, hrow, hbind, hu, hverdict⟩

end Expr

section

variable {ls rs : List Lexeme} {x y : Expr}

def enclosedBoth (ls : List Lexeme) (k : Keyword) (rs : List Lexeme) : List Lexeme :=
  (.opening :: ls ++ [.closing]) ++ .keyword k :: (.opening :: rs ++ [.closing])

theorem scan_both (k : Keyword) {cs ds : List Char} (hs : Lexeme.scan cs = .ok ls)
    (ht : Lexeme.scan ds = .ok rs) :
    Lexeme.scan ('(' :: cs ++ ')' :: ' ' :: (k.word.toList ++ ' ' :: ('(' :: ds ++ [')']))) =
      .ok (enclosedBoth ls k rs) := by
  have hright := Lexeme.scan_between k (Lexeme.scan_paren ht Lexeme.scan_nil)
  rw [Lexeme.scan_paren hs hright, enclosedBoth, List.append_assoc]
  rfl

/-- In parentheses all expressions are operands of a connective. -/
theorem spells_both {k : Keyword} {n : Nat} {f : Expr → Expr → Expr} (hk : Joins (.keyword k) n f)
    (hx : Spells 1 ls x) (hy : Spells 1 rs y) : Spells 1 (enclosedBoth ls k rs) (f x y) := by
  have paren {ms : List Lexeme} {e : Expr} (h : Spells 1 ms e) :
      Spells 9 (.opening :: ms ++ [.closing]) e := h.enclosed (Nat.le_refl 1) (Nat.le_refl 9)
  have hlevel := hk.level
  have hjoined := Spells.join hk ((paren hx).loosen (by omega)) ((paren hy).loosen (by omega))
  exact hjoined.loosen (by omega)

/-- Two texts in parentheses with a connective between them have the verdict on the connected
expressions. -/
theorem evaluate_both {k : Keyword} {n : Nat} {f : Expr → Expr → Expr}
    (hk : Joins (.keyword k) n f) {s t source : String} (hx : Expr.read s = .ok x)
    (hy : Expr.read t = .ok y)
    (hsource : source.toList = '(' :: s.toList ++
      ')' :: ' ' :: (k.word.toList ++ ' ' :: ('(' :: t.toList ++ [')'])))
    {bindings : List Binding} {keepCase b : Bool}
    (hverdict : (f x y).verdict bindings keepCase = .ok b) :
    evaluate source bindings keepCase = .ok b := by
  obtain ⟨ls, hs, hls⟩ := Expr.exists_scan_of_read hx
  obtain ⟨rs, ht, hrs⟩ := Expr.exists_scan_of_read hy
  have hscan : Lexeme.scan source.toList = .ok (enclosedBoth ls k rs) := by
    rw [hsource, scan_both k hs ht]
  obtain ⟨z, hz, hunplaced⟩ := Expr.exists_read_of_scan hscan (spells_both hk hls hrs)
  exact evaluate_eq_ok.2 ⟨z, hz, by rw [Expr.verdict_congr hunplaced, hverdict]⟩

end

/-- Rules compose: where two of them have verdicts, the rule that joins them by AND has the
conjunction as its verdict, and the one that joins them by OR the disjunction. -/
theorem evaluate_joined {s t : String} {bindings : List Binding} {keepCase a b : Bool}
    (hs : evaluate s bindings keepCase = .ok a) (ht : evaluate t bindings keepCase = .ok b) :
    evaluate ("(" ++ s ++ ") AND (" ++ t ++ ")") bindings keepCase = .ok (a && b) ∧
      evaluate ("(" ++ s ++ ") OR (" ++ t ++ ")") bindings keepCase = .ok (a || b) := by
  obtain ⟨x, hx, ha⟩ := evaluate_eq_ok.1 hs
  obtain ⟨y, hy, hb⟩ := evaluate_eq_ok.1 ht
  constructor
  · refine evaluate_both .and hx hy ?_ (Expr.verdict_and ha hb)
    simp [Keyword.word]
  · refine evaluate_both .or hx hy ?_ (Expr.verdict_or ha hb)
    simp [Keyword.word]

theorem evaluate_joinedShelf :
    evaluate "stock % 4 = 3" crowdedShelf false = .ok true ∧
      evaluate "Name <> 'none'" crowdedShelf false = .ok false ∧
      evaluate "(stock % 4 = 3) AND (Name <> 'none')" crowdedShelf false = .ok false ∧
      evaluate "(stock % 4 = 3) OR (Name <> 'none')" crowdedShelf false = .ok true := by
  have hs : evaluate "stock % 4 = 3" crowdedShelf false = .ok true := by decide +kernel
  have ht : evaluate "Name <> 'none'" crowdedShelf false = .ok false := by decide +kernel
  exact ⟨hs, ht, (evaluate_joined hs ht).1, (evaluate_joined hs ht).2⟩

end RuleCheck
