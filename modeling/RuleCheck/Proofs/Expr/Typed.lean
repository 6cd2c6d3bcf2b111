import RuleCheck.Evaluate
import RuleCheck.Proofs.Expr.Canonical
import RuleCheck.Proofs.Expr.Verdict
import RuleCheck.Proofs.Row.Declared

/-!
# Sorts of expressions

An expression has a sort if its operators take operands of the sorts they are made for. Its
value is of that sort then, whatever the members hold, and evaluation to a verdict is never
refused for the kind of an operand.
-/

set_option autoImplicit false

namespace RuleCheck

open Number

namespace Expr

/-- The sorts of an expression, given those of its members. Null is of every sort. -/
inductive HasSort (sortOf : String → Option ValueSort) : Expr → ValueSort → Prop
  | member {name : String} {position : Nat} {s : ValueSort} (h : sortOf name = some s) :
      HasSort sortOf (member name position) s
  | null (s : ValueSort) : HasSort sortOf (literal .null) s
  | int (n : Int) : HasSort sortOf (literal (.int n)) .number
  | float (x : Float) : HasSort sortOf (literal (.float x)) .number
  | text (s : String) : HasSort sortOf (literal (.text s)) .text
  | bool (b : Bool) : HasSort sortOf (literal (.bool b)) .truth
  | sign (op : Sign) {x : Expr} (hx : HasSort sortOf x .number) :
      HasSort sortOf (sign op x) .number
  | compute (op : Arithmetic) {x y : Expr} (hx : HasSort sortOf x .number)
      (hy : HasSort sortOf y .number) : HasSort sortOf (compute op x y) .number
  | concat {x y : Expr} (hx : HasSort sortOf x .text) (hy : HasSort sortOf y .text) :
      HasSort sortOf (Expr.compute .add x y) .text
  | compare (op : Comparison) {x y : Expr} {s : ValueSort} (hx : HasSort sortOf x s)
      (hy : HasSort sortOf y s) : HasSort sortOf (compare op x y) .truth
  | isNull (negated : Bool) {x : Expr} {s : ValueSort} (hx : HasSort sortOf x s) :
      HasSort sortOf (isNull negated x) .truth
  | not {x : Expr} (hx : HasSort sortOf x .truth) : HasSort sortOf (not x) .truth
  | and {x y : Expr} (hx : HasSort sortOf x .truth) (hy : HasSort sortOf y .truth) :
      HasSort sortOf (and x y) .truth
  | or {x y : Expr} (hx : HasSort sortOf x .truth) (hy : HasSort sortOf y .truth) :
      HasSort sortOf (or x y) .truth

def Whole : Expr → Prop
  | member _ _ => True
  | literal v => ∀ x, v ≠ .float x
  | sign _ e => e.Whole
  | compute op l r => op ≠ .div ∧ l.Whole ∧ r.Whole
  | compare _ l r => l.Whole ∧ r.Whole
  | isNull _ e => e.Whole
  | not e => e.Whole
  | and l r => l.Whole ∧ r.Whole
  | or l r => l.Whole ∧ r.Whole
  | foreign _ => True

theorem HasSort.exists_sort {sortOf : String → Option ValueSort} {e : Expr} {s : ValueSort}
    (h : HasSort sortOf e s) : ∀ name ∈ e.names, ∃ t, sortOf name = some t := by
  have both {l r : Expr} (hl : ∀ name ∈ l.names, ∃ t, sortOf name = some t)
      (hr : ∀ name ∈ r.names, ∃ t, sortOf name = some t) :
      ∀ name ∈ l.names ++ r.names, ∃ t, sortOf name = some t := by
    intro name hname
    rcases List.mem_append.1 hname with hname | hname
    · exact hl name hname
    · exact hr name hname
  induction h with
  | @member _ _ s h =>
    intro name hname
    cases List.mem_singleton.1 hname
    exact ⟨s, h⟩
  | sign op _ ih => exact ih
  | compute op _ _ ihx ihy => exact both ihx ihy
  | concat _ _ ihx ihy => exact both ihx ihy
  | compare op _ _ ihx ihy => exact both ihx ihy
  | isNull negated _ ih => exact ih
  | not _ ih => exact ih
  | and _ _ ihx ihy => exact both ihx ihy
  | or _ _ ihx ihy => exact both ihx ihy
  | _ => exact fun name hname => by cases hname

def Supplied (floats : Bool) (row : Row) (sortOf : String → Option ValueSort)
    (names : List String) : Prop :=
  ∀ name ∈ names, ∀ s, sortOf name = some s → ∃ v, row.get name = .ok v ∧ Inhabits floats v s

theorem Supplied.append {floats : Bool} {row : Row} {sortOf : String → Option ValueSort}
    {ns ms : List String} (h : Supplied floats row sortOf (ns ++ ms)) :
    Supplied floats row sortOf ns ∧ Supplied floats row sortOf ms :=
  ⟨fun name hname => h name (List.mem_append_left ms hname),
    fun name hname => h name (List.mem_append_right ns hname)⟩

theorem sound_value {floats : Bool} {row : Row} {sortOf : String → Option ValueSort} {e : Expr}
    {s : ValueSort} (h : HasSort sortOf e s) (hnames : Supplied floats row sortOf e.names)
    (hwhole : floats = true ∨ e.Whole) : Sound floats s (e.value row) := by
  induction h with
  | @member name position s hs =>
    obtain ⟨v, hget, hv⟩ := hnames name (List.mem_singleton_self name) s hs
    show Sound floats s (row.get name)
    rw [hget]
    exact hv
  | null s => exact .absent s
  | int n => exact .int n
  | float x =>
    rcases hwhole with hfloats | hwhole
    · exact .float x hfloats
    · exact absurd rfl (hwhole x)
  | text t => exact .text t
  | bool b => exact .bool b
  | sign op _ ih => exact (ih hnames hwhole).bind fun v hv => hv.signed op
  | compute op _ _ ihx ihy =>
    have hop : op = .div → floats = true := fun hop => hwhole.resolve_right fun h => h.1 hop
    obtain ⟨hx, hy⟩ := hnames.append
    exact (ihx hx (hwhole.imp_right fun h => h.2.1)).bind fun v hv =>
      (ihy hy (hwhole.imp_right fun h => h.2.2)).bind fun w hw => hv.compute hw hop
  | concat _ _ ihx ihy =>
    obtain ⟨hx, hy⟩ := hnames.append
    exact (ihx hx (hwhole.imp_right fun h => h.2.1)).bind fun v hv =>
      (ihy hy (hwhole.imp_right fun h => h.2.2)).bind fun w hw => hv.concat hw
  | compare op _ _ ihx ihy =>
    obtain ⟨hx, hy⟩ := hnames.append
    refine (ihx hx (hwhole.imp_right And.left)).bind fun v hv =>
      (ihy hy (hwhole.imp_right And.right)).bind fun w hw => ?_
    obtain ⟨truth, htruth⟩ := hv.exists_compare hw op row.keepCase
    rw [htruth]
    exact inhabits_ofTruth floats truth
  | isNull negated _ ih =>
    exact (ih hnames hwhole).bind fun v _ => .bool (v.nullTest negated)
  | not _ ih => exact (ih hnames hwhole).bind fun v hv => hv.negation
  | and _ _ ihx ihy =>
    obtain ⟨hx, hy⟩ := hnames.append
    refine (ihx hx (hwhole.imp_right And.left)).bind fun v hv => ?_
    by_cases hfalse : isFalse v = true
    · rw [if_pos hfalse]
      exact .bool false
    · rw [if_neg hfalse]
      exact (ihy hy (hwhole.imp_right And.right)).bind fun w hw => hv.conjunction hw
  | or _ _ ihx ihy =>
    obtain ⟨hx, hy⟩ := hnames.append
    refine (ihx hx (hwhole.imp_right And.left)).bind fun v hv => ?_
    by_cases htrue : isTrue v = true
    · rw [if_pos htrue]
      exact .bool true
    · rw [if_neg htrue]
      exact (ihy hy (hwhole.imp_right And.right)).bind fun w hw => hv.disjunction hw

end Expr

theorem Allowed.reason {floats : Bool} {failure : Failure} {source : String} {fault : Fault}
    (h : Allowed floats failure) (hfault : failure.attach source = .fault fault) :
    fault.reason = .divisionByZero := by
  cases h with
  | remainder =>
    cases hfault
    rfl
  | quotient _ =>
    cases hfault
    rfl
  | number _ _ => cases hfault

theorem exists_verdict {floats : Bool} {v : Value} (hv : Inhabits floats v .truth) :
    ∃ verdict, v.verdict = .ok verdict := by
  cases hv with
  | absent => exact ⟨false, rfl⟩
  | bool b => exact ⟨b, rfl⟩

/-- Where the value of an expression is a truth value, there is a verdict. -/
theorem evaluate_of_sound {floats : Bool} {source : String} {bindings : List Binding}
    {keepCase : Bool} {e : Expr} {row : Row} (he : Expr.read source = .ok e)
    (hrow : Row.ofBindings bindings keepCase (some e.members) = .ok row)
    (hbind : e.bind row = .ok ()) (hvalue : Sound floats .truth (e.value row)) :
    (∃ verdict, evaluate source bindings keepCase = .ok verdict) ∨
      ∃ failure, Allowed floats failure ∧
        evaluate source bindings keepCase = .error (failure.attach source) := by
  have heval : evaluate source bindings keepCase =
      attaching source (e.value row >>= Value.verdict) := by
    rw [evaluate_eq, he]
    simp only [Expr.verdict, hrow, hbind, bind, Except.bind]
  rw [heval]
  cases h : e.value row with
  | ok v =>
    rw [h] at hvalue
    obtain ⟨verdict, hverdict⟩ := exists_verdict hvalue
    exact .inl ⟨verdict, congrArg (attaching source) hverdict⟩
  | error failure =>
    rw [h] at hvalue
    exact .inr ⟨failure, hvalue, rfl⟩

/-- An expression that has the sort of truth values is never refused for the kind of an operand
or for a name. With whole numbers only, it can fail by nothing but a remainder by zero. -/
theorem evaluate_sound {source : String} {bindings : List Binding} {keepCase : Bool} {e : Expr}
    {row : Row} (he : Expr.read source = .ok e)
    (hrow : Row.ofBindings bindings keepCase (some e.members) = .ok row)
    (hsort : e.HasSort (row.sort? bindings) .truth) :
    (∀ fault, evaluate source bindings keepCase = .error (.fault fault) →
      fault.reason ≠ .typeMismatch ∧ fault.reason ≠ .nonBooleanResult ∧
        fault.reason ≠ .unknownIdentifier ∧ fault.reason ≠ .internalError) ∧
    (e.Whole → (∀ name ∈ e.members, ∀ x, row.get name ≠ .ok (.float x)) →
      ∀ failure, evaluate source bindings keepCase = .error failure →
        failure = .fault ⟨.unfit (.zeroDivisor "%"), some source⟩) := by
  have hbind : e.bind row = .ok () := by
    apply Expr.bind_eq_ok
    intro name hname
    obtain ⟨s, hs⟩ := hsort.exists_sort name hname
    obtain ⟨found, hfound, _⟩ := Row.exists_resolve_of_sort hs
    exact ⟨found, hfound⟩
  have hsupplied (floats : Bool)
      (hfloats : floats = true ∨ ∀ name ∈ e.members, ∀ x, row.get name ≠ .ok (.float x)) :
      Expr.Supplied floats row (row.sort? bindings) e.names := by
    intro name hname s hs
    have hmember : name ∈ e.members := mem_firsts.2 hname
    exact Row.exists_get_of_sort hrow hmember hs (hfloats.imp_right fun h => h name hmember)
  constructor
  · intro fault hfault
    have hvalue := Expr.sound_value hsort (hsupplied true (.inl rfl)) (.inl rfl)
    rcases evaluate_of_sound he hrow hbind hvalue with ⟨verdict, hok⟩ | ⟨failure, hallowed, herror⟩
    · rw [hok] at hfault
      cases hfault
    · rw [herror] at hfault
      rw [hallowed.reason (Except.error.inj hfault)]
      decide
  · intro hwhole hfloats failure hfailure
    have hvalue := Expr.sound_value hsort (hsupplied false (.inr hfloats)) (.inr hwhole)
    rcases evaluate_of_sound he hrow hbind hvalue with ⟨verdict, hok⟩ | ⟨cause, hallowed, herror⟩
    · rw [hok] at hfailure
      cases hfailure
    · rw [herror] at hfailure
      cases hallowed with
      | remainder =>
        cases hfailure
        rfl
      | quotient h => cases h
      | number _ h => cases h

def shelf : List Binding :=
  [⟨"Stock", .single .text, .text "none"⟩, ⟨"Name", .single .text, .null⟩,
    ⟨"Stock", .single .int, .int 7⟩]

def shelfRow : Row := ⟨[("Stock", .int (some 7)), ("Name", .text none)], none, false⟩

def shelfRule : String := "[stock] % 4 = 3 AND [Name] + '!' <> NULL"

def shelfExpr : Expr :=
  .and
    (.compare .eq (.compute .rem (.member "stock" 0) (.literal (.int 4))) (.literal (.int 3)))
    (.compare .ne (.compute .add (.member "Name" 20) (.literal (.text "!"))) (.literal .null))

theorem writable_shelfExpr : shelfExpr.Writable := by
  have number {n : Nat} (hn : (Nat.toDigits 10 n).length ≤ maxDigits) :
      Expr.Writable (.literal (.int n)) := .literal (.int hn)
  have stock : Expr.Writable (.member "stock" 0) := .member (by decide) (by decide)
  have name : Expr.Writable (.member "Name" 20) := .member (by decide) (by decide)
  exact .and (.compare .eq (.compute .rem stock (number (n := 4) (by decide)))
      (number (n := 3) (by decide)))
    (.compare .ne (.compute .add name (.literal (.text "!"))) (.literal .null))

theorem read_shelfRule : Expr.read shelfRule = .ok shelfExpr := by
  have hspaced : shelfRule.toList = Lexeme.spaced (shelfExpr.lexemes 1) := by decide
  rw [Expr.read, tokens_of_spaced hspaced (legible_lexemes writable_shelfExpr 1)]
  rfl

theorem evaluate_shelf :
    Expr.read shelfRule = .ok shelfExpr ∧
      Row.ofBindings shelf false (some shelfExpr.members) = .ok shelfRow ∧
      shelfExpr.HasSort (shelfRow.sort? shelf) .truth ∧
      ∀ failure, evaluate shelfRule shelf false = .error failure →
        failure = .fault ⟨.unfit (.zeroDivisor "%"), some shelfRule⟩ := by
  have hrow : Row.ofBindings shelf false (some shelfExpr.members) = .ok shelfRow := rfl
  have hstock : shelfRow.sort? shelf "stock" = some .number := by decide
  have hname : shelfRow.sort? shelf "Name" = some .text := by decide
  have hsort : shelfExpr.HasSort (shelfRow.sort? shelf) .truth :=
    .and (.compare .eq (.compute .rem (.member hstock) (.int 4)) (.int 3))
      (.compare .ne (.concat (.member hname) (.text "!")) (.null .text))
  have hwhole : shelfExpr.Whole := by
    simp [shelfExpr, Expr.Whole]
  have hfloats : ∀ name ∈ shelfExpr.members, ∀ x, shelfRow.get name ≠ .ok (.float x) := by
    have hmembers : shelfExpr.members = ["stock", "Name"] := rfl
    have hgetstock : shelfRow.get "stock" = .ok (.int 7) := rfl
    have hgetname : shelfRow.get "Name" = .ok .absent := rfl
    intro name hname x
    simp only [hmembers, List.mem_cons, List.not_mem_nil, or_false] at hname
    rcases hname with rfl | rfl
    · rw [hgetstock]
      nofun
    · rw [hgetname]
      nofun
  exact ⟨read_shelfRule, hrow, hsort,
    (evaluate_sound read_shelfRule hrow hsort).2 hwhole hfloats⟩

end RuleCheck
