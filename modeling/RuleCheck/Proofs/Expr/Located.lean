import RuleCheck.Proofs.Expr.Escaping
import RuleCheck.Proofs.Token.Tiling

/-!
# Faults with their expression

A fault of an evaluation tells which expression it is about, and a mistake of spelling or grammar
also where in it. The steps of an evaluation do not know the expression, with the exception of
the one that splits it into tokens. So what they fail with has no expression yet, and it is put
in once, when the evaluation is over.
-/

set_option autoImplicit false

namespace RuleCheck

open Text

def Misspelling.isAtEnd : Misspelling → Bool
  | .token _ none => true
  | _ => false

def Cause.LiesIn (length : Nat) : Cause → Prop
  | .misspelt mistake position =>
    position ≤ length ∧ (position = length ↔ mistake.isAtEnd = true)
  | _ => True

theorem Cause.liesIn_of_lt {mistake : Misspelling} {position length : Nat}
    (hend : mistake.isAtEnd = false) (h : position < length) :
    LiesIn length (.misspelt mistake position) :=
  ⟨Nat.le_of_lt h, fun hlength => absurd hlength (Nat.ne_of_lt h), fun htrue =>
    absurd (hend.symm.trans htrue) Bool.false_ne_true⟩

structure Fault.Concerns (source : String) (fault : Fault) : Prop where
  expression : fault.expression = some source
  message : fault.message = fault.cause.wording ++ " (expression: " ++ quoted source ++ ")"
  place : fault.cause.LiesIn source.length

theorem Fault.concerns_of_liesIn {source : String} {cause : Cause}
    (h : cause.LiesIn source.length) : Concerns source ⟨cause, some source⟩ := ⟨rfl, rfl, h⟩

def Failure.Names (source : String) (f : Failure) : Prop :=
  ∀ fault, f = .fault fault → fault.Concerns source

inductive Failure.Unattached (length : Nat) : Failure → Prop
  | cause {cause : Cause} (h : cause.LiesIn length) : Unattached length (.ofCause cause)
  | other {f : Failure} (h : ∀ fault, f ≠ .fault fault) : Unattached length f

theorem Failure.Unattached.attach {source : String} {f : Failure}
    (h : Unattached source.length f) : (f.attach source).Names source := by
  cases h with
  | cause hplace =>
    rintro fault ⟨⟩
    exact Fault.concerns_of_liesIn hplace
  | other hother =>
    intro fault hfault
    cases f with
    | fault g => exact absurd rfl (hother g)
    | _ => cases hfault

theorem FailsBy.names {α : Type} {source : String} {x : Except Failure α}
    (h : FailsBy (Failure.Unattached source.length) x) :
    FailsBy (Failure.Names source) (attaching source x) := by
  cases x with
  | ok a => exact .ok a
  | error f => exact .error (h f rfl).attach

theorem Lexeme.isAtEnd_of_read {c : Char} {cs : List Char} {mistake : Misspelling}
    (h : read c cs = .error mistake) : mistake.isAtEnd = false := by
  unfold read bracketName at h
  repeat' split at h
  all_goals cases h
  all_goals rfl

/-- A text is not split into tokens because of a mistake at one of its characters. -/
theorem Token.exists_mistake {position : Nat} {cs : List Char} {cause : Cause}
    (h : scan position cs = .error cause) :
    ∃ mistake place, cause = .misspelt mistake place ∧ mistake.isAtEnd = false ∧
      place < position + cs.length := by
  fun_induction scan position cs with
  | case1 => cases h
  | case2 position c cs hc ih =>
    obtain ⟨mistake, place, hcause, hend, hplace⟩ := ih h
    exact ⟨mistake, place, hcause, hend, by rw [List.length_cons]; omega⟩
  | case3 position c cs hc mistake hread =>
    cases h
    exact ⟨mistake, position, rfl, Lexeme.isAtEnd_of_read hread, by rw [List.length_cons]; omega⟩
  | case4 position c cs hc l rest hread ih =>
    cases hrest : scan (position + ((c :: cs).length - rest.length)) rest with
    | ok ts =>
      rw [hrest] at h
      cases h
    | error cause' =>
      rw [hrest] at h
      cases h
      obtain ⟨mistake, place, hcause, hend, hplace⟩ := ih hrest
      have hshorter := Lexeme.length_read_lt hread
      exact ⟨mistake, place, hcause, hend, by omega⟩

theorem fails_tokens (source : String) : FailsBy (Failure.Names source) (tokens source) := by
  unfold tokens
  split
  · exact .ok _
  · rename_i cause hcause
    obtain ⟨mistake, place, rfl, hend, hplace⟩ := Token.exists_mistake hcause
    rw [Nat.zero_add, String.length_toList] at hplace
    refine .error ?_
    rintro fault ⟨⟩
    exact Fault.concerns_of_liesIn (Cause.liesIn_of_lt hend hplace)

theorem position_lt_of_tokens {source : String} {ts : List Token} (h : tokens source = .ok ts) :
    ∀ t ∈ ts, t.position < source.length := by
  obtain ⟨tiles, htiling⟩ := exists_tiling h
  intro t ht
  have hascending := (List.pairwise_append.1 htiling.ascending).2.2
  exact hascending t.position (List.mem_map_of_mem ht) source.length (List.mem_singleton_self _)

/-- The reader names the token that it does not take, or the end of the text. -/
theorem Reading.fails_run {stop : Nat} {ts : List Token} (h : ∀ t ∈ ts, t.position < stop)
    (r : Reading) : FailsBy (Failure.Unattached stop) (run stop r ts) := by
  induction ts generalizing r with
  | nil =>
    rw [run]
    cases r.finish with
    | ok e => exact .ok e
    | error wanted => exact .error (.cause ⟨Nat.le_refl stop, fun _ => rfl, fun _ => rfl⟩)
  | cons t ts ih =>
    obtain ⟨ht, hts⟩ := List.forall_mem_cons.1 h
    rw [run]
    cases r.step t with
    | ok next => exact ih hts next
    | error refusal =>
      cases refusal with
      | numeral => exact .error (.other fun _ h => by cases h)
      | unwanted wanted => exact .error (.cause (Cause.liesIn_of_lt rfl ht))

theorem Expr.fails_read (source : String) : FailsBy (Failure.Names source) (read source) := by
  refine (fails_tokens source).bind fun ts hts => FailsBy.names ?_
  cases ts with
  | nil => exact .error (.cause ⟨Nat.le_refl _, fun _ => rfl, fun _ => rfl⟩)
  | cons t ts => exact Reading.fails_run (position_lt_of_tokens hts) _

section

variable {length : Nat}

theorem Rejection.unattached {f : Failure} (h : Rejection f) : f.Unattached length := by
  cases h with
  | unfit _ => exact .cause trivial
  | number fault => exact .other nofun
  | unordered => exact .other nofun

namespace Binding

theorem fails_column (b : Binding) : FailsBy (Failure.Unattached length) b.column := by
  unfold column
  split
  · exact .error (.cause trivial)
  · exact .ok _
  · unfold misfit
    split
    · exact .error (.cause trivial)
    · exact .error (.other nofun)
  · exact .error (.other nofun)

theorem fails_firstFit (candidates : List Binding) :
    FailsBy (Failure.Unattached length) (firstFit candidates) := by
  induction candidates with
  | nil => exact .ok none
  | cons b rest ih =>
    rw [firstFit]
    split
    · exact ih
    · split
      · exact .ok _
      · exact ih
      · rename_i failure _ hcolumn
        exact .error (b.fails_column failure hcolumn)

end Binding

namespace Row

theorem fails_addBinding (used : Option (List String)) (columns : List (String × Column))
    (b : Binding) : FailsBy (Failure.Unattached length) (addBinding used columns b) := by
  unfold addBinding
  split
  · exact .ok _
  · split
    · exact b.fails_column.bind fun _ _ => .ok _
    · refine (Binding.fails_firstFit [b, b.retyped]).bind fun loose _ => ?_
      cases loose <;> exact .ok _

theorem fails_ofBindings (bindings : List Binding) (keepCase : Bool)
    (used : Option (List String)) :
    FailsBy (Failure.Unattached length) (ofBindings bindings keepCase used) := by
  have hfold : FailsBy (Failure.Unattached length) (bindings.foldlM (addBinding used) []) :=
    .foldlM [] fun columns b _ => fails_addBinding used columns b
  exact hfold.bind fun _ _ => .ok _

theorem fails_resolve (row : Row) (name : String) :
    FailsBy (Failure.Unattached length) (row.resolve name) := by
  unfold resolve
  split
  · exact .ok _
  · split
    · exact .ok _
    · exact .error (.cause trivial)
    · exact .error (.cause trivial)

theorem fails_get (row : Row) (name : String) :
    FailsBy (Failure.Unattached length) (row.get name) := by
  refine (row.fails_resolve name).bind fun found _ => ?_
  split
  · exact .ok _
  · exact .error (.cause trivial)

end Row

theorem Value.fails_verdict (v : Value) : FailsBy (Failure.Unattached length) v.verdict := by
  unfold verdict
  cases hcheck : checkResult v with
  | error f =>
    unfold checkResult at hcheck
    split at hcheck <;> cases hcheck
    exact .error (.cause trivial)
  | ok _ =>
    obtain ⟨x, hx, -⟩ := exists_result hcheck
    rw [hx]
    exact .ok _

theorem Expr.fails_bind (row : Row) (e : Expr) :
    FailsBy (Failure.Unattached length) (e.bind row) := by
  have resolved (names : List String) :
      FailsBy (Failure.Unattached length) (names.forM fun name => do let _ ← row.resolve name) := by
    induction names with
    | nil => exact .ok ()
    | cons name names ih =>
      have hname : FailsBy (Failure.Unattached length) (do let _ ← row.resolve name) :=
        (row.fails_resolve name).bind fun _ _ => .ok ()
      exact hname.bind fun _ _ => ih
  exact resolved e.members

theorem Expr.fails_verdict (bindings : List Binding) (keepCase : Bool) (e : Expr) :
    FailsBy (Failure.Unattached length) (e.verdict bindings keepCase) := by
  refine (Row.fails_ofBindings bindings keepCase (some e.members)).bind fun row _ => ?_
  refine (e.fails_bind row).bind fun _ _ => ?_
  refine FailsBy.bind ?_ fun v _ => v.fails_verdict
  exact fails_value (fun _ => Rejection.unattached) (fun name _ => row.fails_get name)
    fun _ _ => .cause trivial

end

theorem names_evaluate (source : String) (bindings : List Binding) (keepCase : Bool) :
    FailsBy (Failure.Names source) (evaluate source bindings keepCase) := by
  rw [evaluate_eq]
  exact (Expr.fails_read source).bind fun e _ => (e.fails_verdict bindings keepCase).names

/-- A fault of an evaluation has the expression that was evaluated, and its message is the wording
of the cause with this expression behind it. A mistake of spelling or grammar stands at a
character of the expression, or right behind the last one just if the expression ends too soon. -/
theorem evaluate_located {source : String} {bindings : List Binding} {keepCase : Bool}
    {fault : Fault} (h : evaluate source bindings keepCase = .error (.fault fault)) :
    fault.expression = some source ∧
      fault.message = fault.cause.wording ++ " (expression: " ++ quoted source ++ ")" ∧
      ∀ mistake position, fault.cause = .misspelt mistake position →
        position ≤ source.length ∧ (position = source.length ↔ mistake.isAtEnd = true) := by
  have hconcerns := names_evaluate source bindings keepCase _ h fault rfl
  refine ⟨hconcerns.expression, hconcerns.message, fun mistake position hcause => ?_⟩
  have hplace := hconcerns.place
  rw [hcause] at hplace
  exact hplace

def cutRule : String := "[Name] <> 'it''s' AND"

def cutFault : Fault := ⟨.misspelt (.token .operand none) 21, some cutRule⟩

theorem evaluate_cutRule :
    evaluate cutRule [] false = .error (.fault cutFault) ∧
      cutFault.expression = some cutRule ∧
      cutFault.message = cutFault.cause.wording ++ " (expression: " ++ quoted cutRule ++ ")" ∧
      ∀ mistake position, cutFault.cause = .misspelt mistake position →
        position ≤ cutRule.length ∧ (position = cutRule.length ↔ mistake.isAtEnd = true) :=
  have hfault : evaluate cutRule [] false = .error (.fault cutFault) := by decide +kernel
  ⟨hfault, evaluate_located hfault⟩

end RuleCheck
