import Mathlib.Algebra.Group.Int.Defs
import RuleCheck.Proofs.Expr.Verdict
import RuleCheck.Proofs.Reading.Exact
import RuleCheck.Proofs.Row.Declared
import RuleCheck.Proofs.Row.Loose
import RuleCheck.Proofs.Value.Held
import RuleCheck.Proofs.Value.Rejecting

/-!
# Failures that are let through

An evaluation has a verdict or ends in a fault of the rule, with four exceptions: a numeral that
stands for no number, a member whose value is too long to be shown in the fault that it is, a
list as a member of truth values, and numbers that are beyond an operation of the expression.
Nothing else escapes, from comparisons and connectives in particular and from the result cell.
-/

set_option autoImplicit false

namespace RuleCheck

open Number

/-- Failures other than faults that the value of a member leads to. -/
inductive Binding.Escapes (b : Binding) : Failure → Prop
  | longInteger (h : b.value.shown? = none) : Escapes b .longInteger
  | nestedValue {items : List Value} (hkind : b.kind = .bool) (hvalue : b.value = .list items) :
      Escapes b .nestedValue

theorem Column.held_value (c : Column) : Held c.value := by
  have hfloats : true = true ∨ ∀ x, c.value ≠ .float x := .inl rfl
  cases c with
  | bool cell => exact ⟨.truth, inhabits_value rfl hfloats⟩
  | int cell => exact ⟨.number, inhabits_value rfl hfloats⟩
  | float cell => exact ⟨.number, inhabits_value rfl hfloats⟩
  | text cell => exact ⟨.text, inhabits_value rfl hfloats⟩
  | derivedText className content => exact ⟨.text, inhabits_value rfl hfloats⟩

namespace Binding

theorem ends_column (b : Binding) : Ends (fun _ => True) b.Escapes b.column := by
  unfold column
  split
  · exact .fault _
  · exact .ok trivial
  · unfold misfit
    split
    · exact .fault _
    · exact .other (.longInteger ‹_›)
  · rename_i hnested
    obtain ⟨hkind, items, hvalue, -⟩ := Column.fit?_eq_nested.1 hnested
    exact .other (.nestedValue hkind hvalue)

theorem ends_firstFit {E : Failure → Prop} {candidates : List Binding}
    (h : ∀ b ∈ candidates, Ends (fun _ => True) E b.column) :
    Ends (fun _ => True) E (firstFit candidates) := by
  induction candidates with
  | nil => exact .ok trivial
  | cons b rest ih =>
    rw [List.forall_mem_cons] at h
    have hrest := ih h.2
    have hb := h.1
    rw [firstFit]
    split
    · exact hrest
    · split
      · exact .ok trivial
      · exact hrest
      · rename_i hcolumn
        rw [hcolumn] at hb
        cases hb with
        | fault f => exact .fault f
        | other hf => exact .other hf

theorem Escapes.of_retyped {b : Binding} {f : Failure} (h : b.retyped.Escapes f) :
    b.Escapes f := by
  cases h with
  | longInteger h => exact .longInteger h
  | @nestedValue items hkind hvalue =>
    have hclass : b.value.classOf.kind = .bool := hkind
    rw [show b.value = .list items from hvalue] at hclass
    cases hclass

theorem ends_looseColumn (b : Binding) : Ends (fun _ => True) b.Escapes b.looseColumn := by
  refine ends_firstFit (List.forall_mem_cons.2 ⟨b.ends_column, List.forall_mem_singleton.2 ?_⟩)
  exact b.retyped.ends_column.mono (fun _ _ h => h) fun f => Escapes.of_retyped

end Binding

namespace Row

variable {E : Failure → Prop}

theorem ends_addBinding (used : Option (List String)) (columns : List (String × Column))
    (b : Binding) : Ends (fun _ => True) b.Escapes (addBinding used columns b) := by
  unfold addBinding
  split
  · exact .ok trivial
  · split
    · exact b.ends_column.bind fun _ _ _ => .ok trivial
    · refine b.ends_looseColumn.bind fun loose _ _ => ?_
      cases loose <;> exact .ok trivial

theorem ends_ofBindings (bindings : List Binding) (keepCase : Bool)
    (used : Option (List String)) :
    Ends (fun _ => True) (fun f => ∃ b ∈ bindings, b.Escapes f)
      (ofBindings bindings keepCase used) := by
  have folded (columns : List (String × Column)) :
      Ends (fun _ => True) (fun f => ∃ b ∈ bindings, b.Escapes f)
        (bindings.foldlM (addBinding used) columns) := by
    induction bindings generalizing columns with
    | nil => exact .ok trivial
    | cons b rest ih =>
      rw [List.foldlM_cons]
      refine ((ends_addBinding used columns b).mono (fun _ _ h => h) fun f hf =>
        ⟨b, List.mem_cons_self, hf⟩).bind fun next _ _ => ?_
      exact (ih next).mono (fun _ _ h => h) fun f ⟨c, hc, hf⟩ => ⟨c, List.mem_cons_of_mem b hc, hf⟩
  exact (folded []).bind fun _ _ _ => .ok trivial

theorem ends_resolve (row : Row) (name : String) : Ends (fun _ => True) E (row.resolve name) := by
  unfold resolve
  split
  · exact .ok trivial
  · split
    · exact .ok trivial
    · exact .fault _
    · exact .fault _

/-- An identifier stands for a value that operators know, or is at fault. -/
theorem ends_get (row : Row) (name : String) : Ends Held E (row.get name) := by
  refine (row.ends_resolve name).bind fun found _ _ => ?_
  split
  · exact .ok (Column.held_value _)
  · exact .fault _

end Row

namespace Expr

variable {E : Failure → Prop}

theorem ends_bind (row : Row) (e : Expr) : Ends (fun _ => True) E (e.bind row) := by
  have resolved (names : List String) :
      Ends (fun _ => True) E (names.forM fun name => do let _ ← row.resolve name) := by
    induction names with
    | nil => exact .ok trivial
    | cons name names ih =>
      have hname : Ends (fun _ : Unit => True) E (do let _ ← row.resolve name) :=
        (row.ends_resolve name).bind fun _ _ _ => .ok trivial
      exact hname.bind fun _ _ _ => ih
  exact resolved e.members

/-- The expression and all its parts. -/
def parts (e : Expr) : List Expr :=
  e :: match e with
    | sign _ x => x.parts
    | compute _ l r => l.parts ++ r.parts
    | compare _ l r => l.parts ++ r.parts
    | isNull _ x => x.parts
    | not x => x.parts
    | and l r => l.parts ++ r.parts
    | or l r => l.parts ++ r.parts
    | _ => []

section

variable {x l r e : Expr}

theorem parts_ne_nil (e : Expr) : e.parts ≠ [] := by
  cases e <;> exact List.cons_ne_nil _ _

theorem parts_subset (h : e.parts = e :: x.parts) : x.parts ⊆ e.parts :=
  h ▸ List.subset_cons_self e x.parts

theorem parts_left (h : e.parts = e :: (l.parts ++ r.parts)) : l.parts ⊆ e.parts :=
  h ▸ List.subset_cons_of_subset e (List.subset_append_left l.parts r.parts)

theorem parts_right (h : e.parts = e :: (l.parts ++ r.parts)) : r.parts ⊆ e.parts :=
  h ▸ List.subset_cons_of_subset e (List.subset_append_right l.parts r.parts)

end

def Legal (e : Expr) : Prop := ∀ v, literal v ∈ e.parts → v = .null ∨ Held v

theorem Legal.of_part {x e : Expr} (hparts : x.parts ⊆ e.parts) (he : e.Legal) : x.Legal :=
  fun v hv => he v (hparts hv)

theorem plain_numberValue {digits : String} {v : Value}
    (h : Reading.numberValue? digits = some v) : v.Plain := by
  unfold Reading.numberValue? at h
  simp only at h
  split at h
  · obtain ⟨x, -, rfl⟩ := Option.map_eq_some_iff.1 h
    exact .float x
  · obtain ⟨n, -, rfl⟩ := Option.map_eq_some_iff.1 h
    exact .int n

/-- Numbers, texts, truth values and nothing are the literals that a token can be. -/
theorem plain_of_atom {t : Token} {v : Value} (h : Atom t (literal v)) : v = .null ∨ v.Plain := by
  cases h with
  | number _ hv => exact .inr (plain_numberValue hv)
  | text _ => exact .inr (.text _)
  | true _ => exact .inr (.bool true)
  | false _ => exact .inr (.bool false)
  | null _ => exact .inl rfl

/-- A part without parts of its own is a token of the text that the expression is read from. -/
theorem exists_atom {n : Nat} {ts : List Token} {x e : Expr} (h : Derives n ts e)
    (hx : x ∈ e.parts) (hleaf : x.parts = [x]) : ∃ t ∈ ts, Atom t x := by
  have inner {e : Expr} {rest : List Expr} (hparts : e.parts = e :: rest) (hrest : rest ≠ [])
      (hx : x ∈ e.parts) : x ∈ rest := by
    rw [hparts] at hx
    rcases List.mem_cons.1 hx with rfl | hx
    · exact absurd (List.cons.inj (hparts.symm.trans hleaf)).2 hrest
    · exact hx
  have two {e l r : Expr} {ls rs : List Token} {t : Token}
      (hparts : e.parts = e :: (l.parts ++ r.parts)) (hx : x ∈ e.parts)
      (ihl : x ∈ l.parts → ∃ t ∈ ls, Atom t x) (ihr : x ∈ r.parts → ∃ t ∈ rs, Atom t x) :
      ∃ u ∈ ls ++ t :: rs, Atom u x := by
    have hrest : l.parts ++ r.parts ≠ [] := fun h =>
      parts_ne_nil l (List.append_eq_nil_iff.1 h).1
    rcases List.mem_append.1 (inner hparts hrest hx) with hx | hx
    · obtain ⟨u, hu, hatom⟩ := ihl hx
      exact ⟨u, List.mem_append_left _ hu, hatom⟩
    · obtain ⟨u, hu, hatom⟩ := ihr hx
      exact ⟨u, List.mem_append_right _ (List.mem_cons_of_mem t hu), hatom⟩
  induction h with
  | tighter _ ih => exact ih hx
  | @join n f t ls rs l r ht _ _ ihl ihr =>
    generalize t.lexeme = lexeme at ht
    cases ht <;> exact two rfl hx ihl ihr
  | compare _ _ _ ihl ihr => exact two rfl hx ihl ihr
  | not _ _ ih =>
    obtain ⟨u, hu, hatom⟩ := ih (inner rfl (parts_ne_nil _) hx)
    exact ⟨u, List.mem_cons_of_mem _ hu, hatom⟩
  | isNull _ _ _ ih =>
    obtain ⟨u, hu, hatom⟩ := ih (inner rfl (parts_ne_nil _) hx)
    exact ⟨u, List.mem_append_left _ hu, hatom⟩
  | isNotNull _ _ _ _ ih =>
    obtain ⟨u, hu, hatom⟩ := ih (inner rfl (parts_ne_nil _) hx)
    exact ⟨u, List.mem_append_left _ hu, hatom⟩
  | sign _ _ ih =>
    obtain ⟨u, hu, hatom⟩ := ih (inner rfl (parts_ne_nil _) hx)
    exact ⟨u, List.mem_cons_of_mem _ hu, hatom⟩
  | @atom t y hatom =>
    have hy : y.parts = [y] := by cases hatom <;> rfl
    rw [hy] at hx
    cases List.mem_singleton.1 hx
    exact ⟨t, List.mem_singleton_self t, hatom⟩
  | paren _ _ _ ih =>
    obtain ⟨u, hu, hatom⟩ := ih hx
    exact ⟨u, List.mem_append_left _ (List.mem_cons_of_mem _ hu), hatom⟩

/-- What an expression is read as has numbers, texts, truth values and nothing as literals. -/
theorem Legal.of_derives {n : Nat} {ts : List Token} {e : Expr} (h : Derives n ts e) :
    e.Legal := fun v hv => by
  obtain ⟨t, -, ht⟩ := exists_atom h hv rfl
  exact (plain_of_atom ht).imp_right Value.Plain.held

/-- Failures other than faults that an expression leads to in a row: a part of it has operands
that are numbers beyond its operation. -/
inductive Escapes (row : Row) (e : Expr) : Failure → Prop
  | number {op : Arithmetic} {l r : Expr} {v w : Value} {x y : Scalar} {fault : NumberFault}
      (hpart : compute op l r ∈ e.parts) (hv : l.value row = .ok v) (hw : r.value row = .ok w)
      (hoperands : Value.operands op.symbol v w = .ok (x, y)) (hbeyond : Beyond op x y fault) :
      Escapes row e (.number fault)

theorem Escapes.of_part {row : Row} {x e : Expr} {f : Failure} (hparts : x.parts ⊆ e.parts)
    (h : Escapes row x f) : Escapes row e f := by
  cases h with
  | number hpart hv hw hoperands hbeyond =>
    exact .number (hparts hpart) hv hw hoperands hbeyond

def Gives (e : Expr) (v : Value) : Prop := v.Plain ∨ (e.parts = [e] ∧ Held v)

theorem Gives.held {e : Expr} {v : Value} (h : e.Gives v) : Held v :=
  h.elim Value.Plain.held And.right

/-- The value of an expression, or a fault, or numbers beyond an operation of it. -/
theorem ends_value (row : Row) {e : Expr} (he : e.Legal) :
    Ends e.Gives (e.Escapes row) (e.value row) := by
  -- What escapes from a part escapes from the whole, since the parts of a part are parts of it.
  have within {x e : Expr} (hparts : x.parts ⊆ e.parts) (he : e.Legal)
      (ih : x.Legal → Ends x.Gives (x.Escapes row) (x.value row)) :
      Ends Held (e.Escapes row) (x.value row) :=
    (ih (he.of_part hparts)).mono (fun _ _ => Gives.held) fun f hf => hf.of_part hparts
  have plain {e : Expr} {x : Except Failure Value} (h : Ends Value.Plain (e.Escapes row) x) :
      Ends e.Gives (e.Escapes row) x := h.mono (fun _ _ => .inl) fun _ hf => hf
  induction e with
  | member name position =>
    exact (row.ends_get name).mono (fun _ _ hv => .inr ⟨rfl, hv⟩) fun _ hf => hf
  | literal v =>
    rcases he v List.mem_cons_self with rfl | hv
    · exact .ok (.inl .absent)
    · obtain ⟨s, hs⟩ := hv
      have hvalue : (literal v).value row = .ok v := by cases hs <;> rfl
      rw [hvalue]
      exact .ok (.inr ⟨rfl, s, hs⟩)
  | sign op x ih =>
    exact (within (parts_subset rfl) he ih).bind fun v _ hv => plain (hv.signed op)
  | compute op l r ihl ihr =>
    refine (within (parts_left rfl) he ihl).bind fun v hv hheld => ?_
    refine (within (parts_right rfl) he ihr).bind fun w hw hheld' => ?_
    refine (hheld.compute hheld' op).mono (fun _ _ => .inl) ?_
    rintro f ⟨x, y, fault, hoperands, hbeyond, rfl⟩
    exact .number List.mem_cons_self hv hw hoperands hbeyond
  | compare op l r ihl ihr =>
    refine (within (parts_left rfl) he ihl).bind fun v _ hv => ?_
    refine (within (parts_right rfl) he ihr).bind fun w _ hw => ?_
    refine (hv.compare hw op row.keepCase).bind fun truth _ _ => ?_
    exact .ok (.inl (Value.plain_ofTruth truth))
  | isNull negated x ih =>
    refine (within (parts_subset rfl) he ih).bind fun v _ _ => ?_
    exact .ok (.inl (.bool (v.nullTest negated)))
  | not x ih =>
    exact (within (parts_subset rfl) he ih).bind fun v _ _ => plain (ends_negation v)
  | and l r ihl ihr =>
    refine (within (parts_left rfl) he ihl).bind fun v _ _ => ?_
    split
    · exact .ok (.inl (.bool false))
    · exact (within (parts_right rfl) he ihr).bind fun w _ _ => plain (ends_conjunction v w)
  | or l r ihl ihr =>
    refine (within (parts_left rfl) he ihl).bind fun v _ _ => ?_
    split
    · exact .ok (.inl (.bool true))
    · exact (within (parts_right rfl) he ihr).bind fun w _ _ => plain (ends_disjunction v w)
  | foreign kind => exact .fault _

/-- The value of an expression fails over one of its members, over one of its operators, or over
a part that no evaluation knows. -/
theorem fails_value {row : Row} {e : Expr} (hoperator : ∀ f, Rejection f → E f)
    (hmember : ∀ name ∈ e.names, FailsBy E (row.get name))
    (hforeign : ∀ kind, foreign kind ∈ e.parts → E (.ofCause (.foreignNode kind))) :
    FailsBy E (e.value row) := by
  have within {x e : Expr} (hparts : x.parts ⊆ e.parts)
      (hforeign : ∀ kind, foreign kind ∈ e.parts → E (.ofCause (.foreignNode kind))) :
      ∀ kind, foreign kind ∈ x.parts → E (.ofCause (.foreignNode kind)) :=
    fun kind hkind => hforeign kind (hparts hkind)
  induction e with
  | member name position => exact hmember name (List.mem_singleton_self name)
  | literal v => cases v <;> exact .ok _
  | sign op x ih =>
    refine (ih hmember (within (parts_subset rfl) hforeign)).bind fun v _ => ?_
    exact (v.fails_signed op).mono hoperator
  | compute op l r ihl ihr =>
    obtain ⟨hl, hr⟩ := List.forall_mem_append.1 hmember
    refine (ihl hl (within (parts_left rfl) hforeign)).bind fun v _ => ?_
    refine (ihr hr (within (parts_right rfl) hforeign)).bind fun w _ => ?_
    exact (Value.fails_compute op v w).mono hoperator
  | compare op l r ihl ihr =>
    obtain ⟨hl, hr⟩ := List.forall_mem_append.1 hmember
    refine (ihl hl (within (parts_left rfl) hforeign)).bind fun v _ => ?_
    refine (ihr hr (within (parts_right rfl) hforeign)).bind fun w _ => ?_
    exact ((Value.fails_compare op row.keepCase v w).mono hoperator).bind fun _ _ => .ok _
  | isNull negated x ih =>
    exact (ih hmember (within (parts_subset rfl) hforeign)).bind fun _ _ => .ok _
  | not x ih =>
    refine (ih hmember (within (parts_subset rfl) hforeign)).bind fun v _ => ?_
    exact (v.fails_negation.mono hoperator).bind fun _ _ => .ok _
  | and l r ihl ihr =>
    obtain ⟨hl, hr⟩ := List.forall_mem_append.1 hmember
    refine (ihl hl (within (parts_left rfl) hforeign)).bind fun v _ => ?_
    split
    · exact .ok _
    · refine (ihr hr (within (parts_right rfl) hforeign)).bind fun w _ => ?_
      exact ((v.fails_conjunction w).mono hoperator).bind fun _ _ => .ok _
  | or l r ihl ihr =>
    obtain ⟨hl, hr⟩ := List.forall_mem_append.1 hmember
    refine (ihl hl (within (parts_left rfl) hforeign)).bind fun v _ => ?_
    split
    · exact .ok _
    · refine (ihr hr (within (parts_right rfl) hforeign)).bind fun w _ => ?_
      exact ((v.fails_disjunction w).mono hoperator).bind fun _ _ => .ok _
  | foreign kind => exact .error (hforeign kind List.mem_cons_self)

end Expr

theorem Reading.ends_run (stop : Nat) (r : Reading) (ts : List Token) :
    Ends (fun _ => True) (fun f => f = .numeral ∧ ¬ Convertible ts) (run stop r ts) := by
  induction ts generalizing r with
  | nil =>
    rw [run]
    cases r.finish with
    | ok e => exact .ok trivial
    | error wanted => exact .fault _
  | cons t ts ih =>
    rw [run]
    split
    · refine (ih _).mono (fun _ _ h => h) fun f hf => ⟨hf.1, fun hts => hf.2 fun u hu => ?_⟩
      exact hts u (List.mem_cons_of_mem t hu)
    · rename_i hstep
      exact .other ⟨rfl, fun hts => step_ne_numeral (hts t List.mem_cons_self) hstep⟩
    · exact .fault _

/-- A text is read as an expression, or is at fault, or has a numeral that stands for no
number. -/
theorem Expr.ends_read (source : String) :
    Ends Legal (fun f => f = .numeral ∧ ∃ ts, tokens source = .ok ts ∧ ¬ Reading.Convertible ts)
      (read source) := by
  rw [read]
  cases htokens : tokens source with
  | error f =>
    unfold tokens at htokens
    split at htokens <;> cases htokens
    exact .fault _
  | ok ts =>
    refine Ends.attaching ?_ fun f hf => hf.1 ▸ rfl
    have hends : Ends (fun _ => True) (fun f => f = .numeral ∧ ¬ Reading.Convertible ts)
        (ofTokens source.length ts) := by
      cases ts with
      | nil => exact .fault _
      | cons t ts => exact Reading.ends_run _ _ _
    exact hends.mono (fun e he _ => .of_derives (derives_of_ofTokens he))
      fun f hf => ⟨hf.1, ts, rfl, hf.2⟩

theorem Value.ends_verdict {E : Failure → Prop} (v : Value) :
    Ends (fun _ => True) E v.verdict := by
  unfold verdict
  cases hcheck : checkResult v with
  | error f =>
    unfold checkResult at hcheck
    split at hcheck <;> cases hcheck
    exact .fault _
  | ok _ =>
    obtain ⟨x, hx, -⟩ := exists_result hcheck
    rw [hx]
    exact .ok trivial

theorem Expr.ends_verdict {e : Expr} (he : e.Legal) (bindings : List Binding) (keepCase : Bool) :
    Ends (fun _ => True) (fun f => (∃ b ∈ bindings, b.Escapes f) ∨
      ∃ row, Row.ofBindings bindings keepCase (some e.members) = .ok row ∧ e.Escapes row f)
      (e.verdict bindings keepCase) := by
  unfold verdict
  refine ((Row.ends_ofBindings bindings keepCase _).mono (fun _ _ h => h) fun f hf =>
    .inl hf).bind fun row hrow _ => ?_
  refine (ends_bind row e).bind fun _ _ _ => ?_
  exact ((ends_value row he).mono (fun _ _ h => h) fun f hf => .inr ⟨row, hrow, hf⟩).bind
    fun v _ _ => v.ends_verdict

/-- All failures of an evaluation that are no faults, with what leads to them. -/
inductive Escapes (source : String) (bindings : List Binding) (keepCase : Bool) : Failure → Prop
  | numeral {ts : List Token} (hts : tokens source = .ok ts) (h : ¬ Reading.Convertible ts) :
      Escapes source bindings keepCase .numeral
  | member {b : Binding} {f : Failure} (hb : b ∈ bindings) (h : b.Escapes f) :
      Escapes source bindings keepCase f
  | number {e : Expr} {row : Row} {f : Failure} (he : Expr.read source = .ok e)
      (hrow : Row.ofBindings bindings keepCase (some e.members) = .ok row)
      (h : e.Escapes row f) : Escapes source bindings keepCase f

/-- An evaluation has a verdict, or ends in a fault of the rule, or in one of the failures that
are let through. -/
theorem evaluate_ends (source : String) (bindings : List Binding) (keepCase : Bool) :
    (∃ b, evaluate source bindings keepCase = .ok b) ∨
      (∃ fault, evaluate source bindings keepCase = .error (.fault fault)) ∨
      ∃ failure, evaluate source bindings keepCase = .error failure ∧
        Escapes source bindings keepCase failure := by
  have hends : Ends (fun _ => True) (Escapes source bindings keepCase)
      (evaluate source bindings keepCase) := by
    rw [evaluate_eq]
    refine ((Expr.ends_read source).mono (fun _ _ h => h) ?_).bind fun e he hlegal => ?_
    · rintro f ⟨rfl, ts, hts, h⟩
      exact .numeral hts h
    · refine ((Expr.ends_verdict hlegal bindings keepCase).attaching ?_).mono (fun _ _ h => h) ?_
      · rintro f (⟨b, -, h⟩ | ⟨row, -, h⟩) <;> cases h <;> rfl
      · rintro f (⟨b, hb, h⟩ | ⟨row, hrow, h⟩)
        · exact .member hb h
        · exact .number he hrow h
  generalize evaluate source bindings keepCase = outcome at hends
  cases hends with
  | @ok b _ => exact .inl ⟨b, rfl⟩
  | fault f => exact .inr (.inl ⟨f, rfl⟩)
  | @other f h => exact .inr (.inr ⟨f, rfl, h⟩)

/-- Failures of all these sorts are let through. -/
theorem evaluate_escapes :
    evaluate "² = 2" [] false = .error .numeral ∧
      evaluate "n*n*n*n*n*n*n*n*n*n*n*n*n*n*n*n*n*n/1 > 0" [⟨"n", .single .int, .int (10 ^ 18)⟩]
        false = .error (.number .overflow) ∧
      evaluate "lvl > 0" [⟨"Lvl", .single .bool, .list [.int 1]⟩] false = .error .nestedValue ∧
      evaluate "lvl > 0" [⟨"Lvl", .single .int, .int (10 ^ 4300)⟩] false = .error .longInteger := by
  decide +kernel

end RuleCheck
