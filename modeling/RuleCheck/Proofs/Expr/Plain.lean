import RuleCheck.Proofs.Expr.Escaping

/-!
# Plain values

What is read from a text has plain values as literals and no nodes of foreign kinds, and operators
make plain values of the values that a row holds. So every part of an expression has a plain value
or fails, with one exception: a member that holds a text of a class of its own gives this text as
it is. Operators looked up by their symbols are always found, and no evaluation ends in an internal
error.
-/

set_option autoImplicit false

namespace RuleCheck

theorem Comparison.ofSymbol?_symbol (op : Comparison) :
    Comparison.ofSymbol? op.symbol = some op := by
  cases op <;> rfl

theorem Arithmetic.ofSymbol?_symbol (op : Arithmetic) :
    Arithmetic.ofSymbol? op.symbol = some op := by
  cases op <;> rfl

theorem Sign.ofSymbol?_symbol (op : Sign) : Sign.ofSymbol? op.symbol = some op := by
  cases op <;> rfl

/-- No symbol stands for a comparison and for an operation of arithmetic. -/
theorem Arithmetic.comparison_ofSymbol? (op : Arithmetic) :
    Comparison.ofSymbol? op.symbol = none := by
  cases op <;> rfl

def Value.joinBy (symbol : String) (keepCase : Bool) (a b : Value) : Except Failure Value :=
  if (Comparison.ofSymbol? symbol).isSome then
    return .ofTruth (← compareBy symbol keepCase a b)
  else computeBy symbol a b

namespace Expr

def valueBySymbol (row : Row) : Expr → Except Failure Value
  | literal .null => return .absent
  | literal v => return v
  | member name _ => row.get name
  | sign op e => do (← e.valueBySymbol row).signedBy op.symbol
  | compute op l r => do
    let left ← l.valueBySymbol row
    let right ← r.valueBySymbol row
    Value.joinBy op.symbol row.keepCase left right
  | compare op l r => do
    let left ← l.valueBySymbol row
    let right ← r.valueBySymbol row
    Value.joinBy op.symbol row.keepCase left right
  | isNull negated e => do return .bool ((← e.valueBySymbol row).nullTest negated)
  | not e => do return .ofTruth (← (← e.valueBySymbol row).negation)
  | and l r => do
    let left ← l.valueBySymbol row
    if isFalse left then return .bool false
    return .ofTruth (← left.conjunction (← r.valueBySymbol row))
  | or l r => do
    let left ← l.valueBySymbol row
    if isTrue left then return .bool true
    return .ofTruth (← left.disjunction (← r.valueBySymbol row))
  | foreign kind => throw (.ofCause (.foreignNode kind))

theorem valueBySymbol_eq (row : Row) (e : Expr) : e.valueBySymbol row = e.value row := by
  have compared (op : Comparison) (v w : Value) :
      Value.joinBy op.symbol row.keepCase v w =
        (do return .ofTruth (← Value.compare op row.keepCase v w)) := by
    rw [Value.joinBy, Value.compareBy, Comparison.ofSymbol?_symbol]
    rfl
  have computed (op : Arithmetic) (v w : Value) :
      Value.joinBy op.symbol row.keepCase v w = Value.compute op v w := by
    rw [Value.joinBy, Value.computeBy, Arithmetic.comparison_ofSymbol?, Arithmetic.ofSymbol?_symbol]
    rfl
  have signed (op : Sign) (v : Value) : v.signedBy op.symbol = v.signed op := by
    rw [Value.signedBy, Sign.ofSymbol?_symbol]
  induction e with
  | literal v => cases v <;> rfl
  | member name position => rfl
  | foreign kind => rfl
  | sign op x ih => simp only [valueBySymbol, value, ih, signed]
  | compute op l r ihl ihr => simp only [valueBySymbol, value, ihl, ihr, computed]
  | compare op l r ihl ihr => simp only [valueBySymbol, value, ihl, ihr, compared]
  | isNull negated x ih => simp only [valueBySymbol, value, ih]
  | not x ih => simp only [valueBySymbol, value, ih]
  | and l r ihl ihr => simp only [valueBySymbol, value, ihl, ihr]
  | or l r ihl ihr => simp only [valueBySymbol, value, ihl, ihr]

end Expr

def Failure.reason? : Failure → Option Reason
  | fault f => some f.reason
  | _ => none

theorem Failure.reason?_attach (label : String) (f : Failure) :
    (f.attach label).reason? = f.reason? := by
  cases f <;> rfl

theorem Rejection.not_internal {f : Failure} (h : Rejection f) :
    f.reason? ≠ some .internalError := by
  cases h with
  | unfit h =>
    intro hreason
    have hinternal : _ = Reason.internalError := Option.some.inj hreason
    rcases h with h | h <;> cases h.symm.trans hinternal
  | number fault => exact nofun
  | unordered => exact nofun

theorem Row.get_not_internal (row : Row) (name : String) :
    FailsBy (fun f => f.reason? ≠ some .internalError) (row.get name) := by
  have resolved : FailsBy (fun f => f.reason? ≠ some .internalError) (row.resolve name) := by
    unfold resolve
    split
    · exact .ok _
    · split
      · exact .ok _
      · exact .error nofun
      · exact .error nofun
  refine resolved.bind fun found _ => ?_
  split
  · exact .ok _
  · exact .error nofun

namespace Column

/-- Only a text of a class of its own is put into a column as one. -/
theorem value_of_fit {k : Kind} {v : Value} {className s : String} {c : Column}
    (h : fit? k v = some (.fits c)) (hc : c.value = .derivedText className s) :
    v = .derivedText className s := by
  cases takes_of_fit h with
  | derivedText hvalue =>
    cases hc
    exact hvalue
  | empty _ hempty => cases k <;> cases hempty <;> cases hc
  | _ => cases hc

end Column

namespace Expr

variable {source : String} {bindings : List Binding} {keepCase : Bool}
  {used : Option (List String)} {e x : Expr} {row : Row}

theorem parts_subset_of_mem (h : x ∈ e.parts) : x.parts ⊆ e.parts := by
  have within {e y : Expr} (hy : y.parts ⊆ e.parts) (ih : x ∈ y.parts → x.parts ⊆ y.parts)
      (hx : x ∈ y.parts) : x.parts ⊆ e.parts := fun z hz => hy (ih hx hz)
  have one {e y : Expr} (hparts : e.parts = e :: y.parts)
      (ih : x ∈ y.parts → x.parts ⊆ y.parts) (hx : x ∈ e.parts) : x.parts ⊆ e.parts := by
    rcases List.mem_cons.1 (hparts ▸ hx) with rfl | hx
    · exact List.Subset.refl _
    · exact within (parts_subset hparts) ih hx
  have two {e l r : Expr} (hparts : e.parts = e :: (l.parts ++ r.parts))
      (ihl : x ∈ l.parts → x.parts ⊆ l.parts) (ihr : x ∈ r.parts → x.parts ⊆ r.parts)
      (hx : x ∈ e.parts) : x.parts ⊆ e.parts := by
    rcases List.mem_cons.1 (hparts ▸ hx) with rfl | hx
    · exact List.Subset.refl _
    · rcases List.mem_append.1 hx with hx | hx
      · exact within (parts_left hparts) ihl hx
      · exact within (parts_right hparts) ihr hx
  have leaf {e : Expr} (hparts : e.parts = [e]) (hx : x ∈ e.parts) : x.parts ⊆ e.parts := by
    rw [hparts] at hx
    cases List.mem_singleton.1 hx
    exact List.Subset.refl _
  induction e with
  | member name position => exact leaf rfl h
  | literal v => exact leaf rfl h
  | foreign kind => exact leaf rfl h
  | sign op y ih => exact one rfl ih h
  | isNull negated y ih => exact one rfl ih h
  | not y ih => exact one rfl ih h
  | compute op l r ihl ihr => exact two rfl ihl ihr h
  | compare op l r ihl ihr => exact two rfl ihl ihr h
  | and l r ihl ihr => exact two rfl ihl ihr h
  | or l r ihl ihr => exact two rfl ihl ihr h

theorem foreign_not_mem (he : read source = .ok e) (kind : String) : foreign kind ∉ e.parts := by
  intro hkind
  obtain ⟨ts, -, hderives⟩ := exists_tokens_of_read he
  obtain ⟨t, -, hatom⟩ := exists_atom hderives hkind rfl
  cases hatom

/-- A part of an expression that is read from a text has a plain value, unless it is a member that
holds a text of a class of its own. -/
theorem plain_of_part (he : read source = .ok e)
    (hrow : Row.ofBindings bindings keepCase used = .ok row) (hx : x ∈ e.parts) {v : Value}
    (hv : x.value row = .ok v) : v.Plain ∨
      ∃ name position className s, x = .member name position ∧ v = .derivedText className s ∧
        ∃ b ∈ bindings, b.value = .derivedText className s := by
  obtain ⟨ts, -, hderives⟩ := exists_tokens_of_read he
  have hlegal : x.Legal := (Legal.of_derives hderives).of_part (parts_subset_of_mem hx)
  rcases (ends_value row hlegal).of_eq_ok hv with hplain | ⟨hleaf, hheld⟩
  · exact .inl hplain
  obtain ⟨t, -, hatom⟩ := exists_atom hderives hx hleaf
  rcases hheld.plain_or_derived with hplain | ⟨className, s, rfl⟩
  · exact .inl hplain
  cases x with
  | literal w =>
    rcases plain_of_atom hatom with rfl | hplain
    · cases hv
    · cases hplain <;> cases hv
  | member name position =>
    obtain ⟨found, hfound, hget⟩ := exists_of_bind_eq_ok hv
    obtain ⟨c, hc, hcolumn⟩ := Row.exists_get hfound
    obtain ⟨b, hb, -, k, hfit⟩ := Row.exists_fills hrow hc
    have hvalue : c.value = .derivedText className s := Except.ok.inj (hcolumn.symm.trans hv)
    exact .inr ⟨name, position, className, s, rfl, rfl, b, hb, Column.value_of_fit hfit hvalue⟩
  | _ => cases hatom

/-- Every part of an expression that is read from a text has a plain value in a row of some
members or fails, unless it is a member that holds a text of a class of its own. An evaluation that
looks up each operator by its symbol finds all of them, and none ends in an internal error. -/
theorem value_plain (he : read source = .ok e)
    (hrow : Row.ofBindings bindings keepCase used = .ok row) :
    (∀ x ∈ e.parts, ∀ v, x.value row = .ok v → v.Plain ∨
      ∃ name position className s, x = .member name position ∧ v = .derivedText className s ∧
        ∃ b ∈ bindings, b.value = .derivedText className s) ∧
    e.valueBySymbol row = e.value row ∧
    ∀ label f, attaching label (e.value row) = .error f → f.reason? ≠ some .internalError := by
  refine ⟨fun x hx v => plain_of_part he hrow hx, valueBySymbol_eq row e, fun label f hf => ?_⟩
  have hfails : FailsBy (fun f => f.reason? ≠ some .internalError) (e.value row) :=
    fails_value (fun _ => Rejection.not_internal) (fun name _ => row.get_not_internal name)
      fun kind hkind => absurd hkind (foreign_not_mem he kind)
  cases hvalue : e.value row with
  | ok v =>
    rw [hvalue] at hf
    cases hf
  | error g =>
    rw [hvalue] at hf
    cases hf
    rw [Failure.reason?_attach]
    exact hfails g hvalue

end Expr

def labelled : List Binding := [⟨"X", .single .text, .derivedText "Label" "x"⟩]

def labelledRow : Row := ⟨[("X", .derivedText "Label" "x")], none, false⟩

def twiceLabelled : Expr := .compute .add (.member "X" 0) (.member "X" 6)

theorem read_member : Expr.read "[X]" = .ok (.member "X" 0) := by
  have hwritable : (Expr.member "X" 0).Writable := .member (by decide) (by decide)
  have hspaced : "[X]".toList = Lexeme.spaced ((Expr.member "X" 0).lexemes 1) := by decide
  rw [Expr.read, tokens_of_spaced hspaced (legible_lexemes hwritable 1)]
  rfl

theorem read_twiceLabelled : Expr.read "[X] + [X]" = .ok twiceLabelled := by
  have hwritable : twiceLabelled.Writable :=
    .compute .add (.member (by decide) (by decide)) (.member (by decide) (by decide))
  have hspaced : "[X] + [X]".toList = Lexeme.spaced (twiceLabelled.lexemes 1) := by decide
  rw [Expr.read, tokens_of_spaced hspaced (legible_lexemes hwritable 1)]
  rfl

theorem value_plain_twiceLabelled :
    Expr.read "[X] + [X]" = .ok twiceLabelled ∧
      Row.ofBindings labelled false none = .ok labelledRow ∧
      twiceLabelled.value labelledRow = .ok (.text "xx") ∧
      twiceLabelled.valueBySymbol labelledRow = twiceLabelled.value labelledRow := by
  have hrow : Row.ofBindings labelled false none = .ok labelledRow := rfl
  exact ⟨read_twiceLabelled, hrow, rfl, (Expr.value_plain read_twiceLabelled hrow).2.1⟩

/-- By itself such a text stays what it is. -/
theorem value_labelled :
    Expr.read "[X]" = .ok (.member "X" 0) ∧
      Row.ofBindings labelled false none = .ok labelledRow ∧
      attaching "[X]" ((Expr.member "X" 0).value labelledRow) = .ok (.derivedText "Label" "x") ∧
      ¬ (Value.derivedText "Label" "x").Plain := by
  refine ⟨read_member, rfl, rfl, ?_⟩
  intro hplain
  cases hplain

end RuleCheck
