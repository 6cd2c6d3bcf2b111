import Mathlib.Algebra.Ring.Int.Parity
import RuleCheck.Proofs.Authored.Identified
import RuleCheck.Proofs.Expr.Joined
import RuleCheck.Proofs.Member.Lone
import RuleCheck.Proofs.Number.Remainder
import RuleCheck.Proofs.Token.Seam

/-!
# The named rules

A placeholder gives way to the name of a member as it is, so what a named rule is read as about a
member is known for every name. Each of them tests the member for nothing, or compares the member,
or what it leaves when it is halved, with zero. So a check of a named rule holds just if the
integer of the entry is as the name of the rule says.
-/

set_option autoImplicit false

namespace RuleCheck

open Text

def Value.cell? : Value → Option (Option Int)
  | null => some none
  | v => v.integer?.map some

def Value.ofCell : Option Int → Value
  | some n => int n
  | none => absent

theorem Value.cell?_cases {v : Value} {held : Option Int} (h : v.cell? = some held) :
    (v = .null ∧ held = none) ∨ ∃ n, v.integer? = some n ∧ held = some n := by
  unfold cell? at h
  split at h
  · cases h
    exact .inl ⟨rfl, rfl⟩
  · obtain ⟨n, hn, rfl⟩ := Option.map_eq_some_iff.1 h
    exact .inr ⟨n, hn, rfl⟩

namespace Authored

open Lexeme

theorem normalize_filled {rule : String} {front back : List Char}
    (hrule : canonical rule.toList = front ++ (placeholder ++ back)) (hfront : '{' ∉ front)
    (hback : '{' ∉ back) (name : String) :
    normalize rule (some name) = .ok (String.ofList (front ++ (name.toList ++ back))) := by
  have hpass {cs : List Char} (hcs : '{' ∉ cs) : ∀ c ∈ cs, ('{' == c) = false := by
    intro c hc
    refine beq_eq_false_iff_ne.2 ?_
    rintro rfl
    exact hcs hc
  have hfound : afterMatch? (· == ·) placeholder (placeholder ++ back) = some back := rfl
  have hcontains : contains placeholder (front ++ (placeholder ++ back)) = true := by
    have hne : ∀ c ∈ front, c ≠ '{' := fun c hc h => hfront (h ▸ hc)
    exact (contains_pass_all hne (placeholder ++ back)).trans rfl
  have hreplace : replace placeholder name.toList (front ++ (placeholder ++ back)) =
      front ++ (name.toList ++ back) := by
    have hrest : replaceWith (· == ·) '{' ['0', '}'] name.toList back = back := by
      have hall : replaceWith (· == ·) '{' ['0', '}'] name.toList (back ++ []) = back ++ _ :=
        replaceWith_pass_all (hpass hback)
      rwa [replaceWith_nil, List.append_nil] at hall
    show replaceWith (· == ·) '{' ['0', '}'] name.toList _ = _
    rw [replaceWith_pass_all (hpass hfront), replaceWith_of_match hfound, hrest]
  simp only [normalize, hrule, hcontains, if_true, hreplace]

theorem Identifier.scan_append {name : String} (h : Identifier name) {rest : List Char}
    {ls : List Lexeme} (hrest : rest.head?.any isWordPart = false) (hls : scan rest = .ok ls) :
    scan (name.toList ++ rest) = .ok (.name name :: ls) := by
  have hstart := h.start
  have hword : ofWord name = .name name := by rw [ofWord, h.notKeyword]
  cases hcs : name.toList with
  | nil =>
    rw [hcs] at hstart
    cases hstart
  | cons c cs =>
    rw [hcs] at hstart
    have hbegins : BeginsWord c := beginsWord_of_plain hstart
    have hparts : ∀ d ∈ cs, isWordPart d = true := fun d hd =>
      isWordPart_of_plain (h.parts d (hcs ▸ List.mem_cons_of_mem c hd))
    have hname : String.ofList (c :: cs) = name := by rw [← hcs, String.ofList_toList]
    rw [List.cons_append, scan_of_read hbegins.1 (read_word hbegins hparts hrest), hls, hname,
      hword]
    rfl

inductive Assertion
  | test (negated : Bool)
  | sign (op : Comparison)
  | parity (op : Comparison)

namespace Assertion

def front : Assertion → List Char
  | parity _ => ['(']
  | _ => []

def back : Assertion → List Char
  | test false => " IS NULL".toList
  | test true => " IS NOT NULL".toList
  | sign op => ' ' :: (op.symbol.toList ++ [' ', '0'])
  | parity op => [' ', '%', ' ', '2', ')', ' '] ++ (op.symbol.toList ++ [' ', '0'])

def expr (name : String) : Assertion → Expr
  | test negated => .isNull negated (.member name 0)
  | sign op => .compare op (.member name 0) (.literal (.int 0))
  | parity op =>
    .compare op (.compute .rem (.member name 0) (.literal (.int 2))) (.literal (.int 0))

def holds (held : Option Int) : Assertion → Bool
  | test negated => held.isNone != negated
  | sign op => held.any fun n => op.relates n 0
  | parity op => held.any fun n => op.relates (n.tmod 2) 0

theorem members_expr (name : String) (a : Assertion) : (a.expr name).members = [name] := by
  cases a <;> rfl

theorem not_mem_front (a : Assertion) : '{' ∉ a.front := by
  cases a <;> simp [front]

theorem not_mem_back (a : Assertion) : '{' ∉ a.back := by
  cases a with
  | test negated => cases negated <;> decide
  | sign op => cases op <;> decide
  | parity op => cases op <;> decide

theorem spells_int {n : Nat} {digits : String} (h : digits = String.ofList (Nat.toDigits 10 n))
    (hn : (Nat.toDigits 10 n).length ≤ Number.maxDigits) :
    Spells 9 [number digits] (.literal (.int n)) := by
  subst h
  exact .atom fun t ht => ⟨_, .number ht (Reading.numberValue?_toDigits hn), rfl⟩

theorem exists_spells {name : String} (hname : Identifier name) (a : Assertion) :
    ∃ ls, scan (a.front ++ (name.toList ++ a.back)) = .ok ls ∧ Spells 1 ls (a.expr name) := by
  have hmember : Spells 9 [Lexeme.name name] (.member name 0) :=
    .atom fun t ht => ⟨_, .member ht, rfl⟩
  have hzero : Spells 9 [number "0"] (.literal (.int 0)) := spells_int (n := 0) rfl (by decide)
  have htwo : Spells 9 [number "2"] (.literal (.int 2)) := spells_int (n := 2) rfl (by decide)
  have h19 : 1 ≤ 9 := by decide
  have h14 : 1 ≤ 4 := by decide
  have h59 : 5 ≤ 9 := by decide
  cases a with
  | test negated =>
    cases negated with
    | false =>
      have hback : scan (test false).back = .ok [keyword .is, keyword .null] := by decide +kernel
      exact ⟨_, hname.scan_append rfl hback, (Spells.isNull (hmember.loosen h59)).loosen h14⟩
    | true =>
      have hback : scan (test true).back = .ok [keyword .is, keyword .not, keyword .null] := by
        decide +kernel
      exact ⟨_, hname.scan_append rfl hback, (Spells.isNotNull (hmember.loosen h59)).loosen h14⟩
  | sign op =>
    have hback : scan (sign op).back = .ok [comparison op, number "0"] := by
      cases op <;> decide +kernel
    exact ⟨_, hname.scan_append rfl hback,
      (Spells.compare op (hmember.loosen h59) (hzero.loosen h59)).loosen h14⟩
  | parity op =>
    have hback : scan (parity op).back =
        .ok [arithmetic .rem, number "2", closing, comparison op, number "0"] := by
      cases op <;> decide +kernel
    have hscan := scan_opening (hname.scan_append rfl hback)
    have hrem : Spells 6 ([Lexeme.name name] ++ arithmetic .rem :: [number "2"])
        (.compute .rem (.member name 0) (.literal (.int 2))) :=
      Spells.join .rem (hmember.loosen (by decide)) (htwo.loosen (by decide))
    have hparen : Spells 9 (opening :: [Lexeme.name name, arithmetic .rem, number "2"] ++ [closing])
        (.compute .rem (.member name 0) (.literal (.int 2))) :=
      hrem.enclosed (by decide) (by decide)
    exact ⟨_, hscan, (Spells.compare op (hparen.loosen h59) (hzero.loosen h59)).loosen h14⟩

theorem exists_value {name : String} {row : Row} {held : Option Int}
    (hget : row.get name = .ok (Value.ofCell held)) (a : Assertion) :
    ∃ v, (a.expr name).value row = .ok v ∧ v.verdict = .ok (a.holds held) := by
  cases a with
  | test negated =>
    refine ⟨.ofTruth (some ((Value.ofCell held).nullTest negated)), ?_, ?_⟩
    · simp only [expr, Expr.value, hget]
      rfl
    · rw [Value.verdict_ofTruth]
      cases held <;> rfl
  | sign op =>
    refine ⟨.ofTruth (held.map fun n => op.relates n 0), ?_, ?_⟩
    · cases held with
      | none =>
        simp only [expr, Expr.value, hget]
        rfl
      | some n =>
        simp only [expr, Expr.value, hget, Value.ofCell, bind, Except.bind, pure, Except.pure,
          Value.compare_ints, Option.map_some]
    · rw [Value.verdict_ofTruth]
      cases held <;> rfl
  | parity op =>
    refine ⟨.ofTruth (held.map fun n => op.relates (n.tmod 2) 0), ?_, ?_⟩
    · cases held with
      | none =>
        simp only [expr, Expr.value, hget]
        rfl
      | some n =>
        have hrem : Value.compute .rem (.int n) (.int 2) = .ok (.int (n.tmod 2)) := by
          rw [← remainder_eq_tmod]
          rfl
        simp only [expr, Expr.value, hget, Value.ofCell, bind, Except.bind, pure, Except.pure,
          hrem, Value.compare_ints, Option.map_some]
    · rw [Value.verdict_ofTruth]
      cases held <;> rfl

/-- The verdict on what a rule is read as is what it says of the value of the member. -/
theorem verdict_single {b : Binding} {column : Column} {held : Option Int}
    (hname : b.name ≠ resultName) (hcolumn : b.column = .ok column)
    (hvalue : column.value = Value.ofCell held) (keepCase : Bool) (a : Assertion) :
    (a.expr b.name).verdict [b] keepCase = .ok (a.holds held) := by
  have hmembers := a.members_expr b.name
  have hget : (Row.single b.name column keepCase).get b.name = .ok (Value.ofCell held) := by
    rw [Row.get_single hname, hvalue]
  obtain ⟨v, hv, hverdict⟩ := a.exists_value hget
  have hrow : Row.ofBindings [b] keepCase (some (a.expr b.name).members) =
      .ok (.single b.name column keepCase) := by
    rw [hmembers]
    exact Row.ofBindings_single hname (List.mem_singleton_self _) hcolumn
  have hbind : (a.expr b.name).bind (.single b.name column keepCase) = .ok () :=
    Expr.bind_single hmembers hname
  exact Expr.verdict_eq_ok.2 ⟨_, v, hrow, hbind, hv, hverdict⟩

end Assertion

/-- The entry of a public key that is an identifier, without another usable entry of its name up to
case, holds an integer of 64 bits or nothing. -/
structure Keeps (entries : List (String × Value)) (name : String) (held : Option Int) : Prop where
  names : (entryNames entries).Nodup
  alone : Alone entries name
  identifier : Identifier name
  isPublic : isPublic name = true
  cell : (entries.lookup name).bind Value.cell? = some held
  inRange : ∀ n ∈ held, Column.word64.has n = true

section

variable {entries : List (String × Value)} {name : String} {held : Option Int}

theorem Keeps.exists_lone (h : Keeps entries name held) :
    ∃ v c, Lone entries name v ∧ (entryBinding (name, v)).column = .ok c ∧
      c.value = Value.ofCell held := by
  obtain ⟨v, hlookup, hcell⟩ := Option.bind_eq_some_iff.1 h.cell
  have lone (heligible : (describeValue name v).isEligible = true) : Lone entries name v :=
    ⟨h.names, mem_of_lookup hlookup, Bool.and_eq_true_iff.2 ⟨h.isPublic, heligible⟩, h.alone⟩
  rcases Value.cell?_cases hcell with ⟨rfl, rfl⟩ | ⟨n, hinteger, rfl⟩
  · exact ⟨_, .text none, lone rfl, rfl, rfl⟩
  · exact ⟨v, .int (some n), lone (isEligible_of_integer? hinteger),
      column_of_integer? hinteger (h.inRange n rfl), rfl⟩

def namedCheck (rule name : String) : Check := ⟨some rule, some name, none, none⟩

theorem evaluation_eq (h : Keeps entries name held) (keepCase : Bool) (a : Assertion) :
    (hasOverlong entries = true →
      (a.expr name).evaluation ((entries.filter isUsable).map entryBinding) keepCase =
        .error .longInteger) ∧
      (hasOverlong entries = false → ∃ found,
        (a.expr name).evaluation ((entries.filter isUsable).map entryBinding) keepCase =
          .ok found ∧ found.verdict = a.holds held) := by
  obtain ⟨v, c, hlone, hcolumn, hvalue⟩ := h.exists_lone
  have hmembers := a.members_expr name
  constructor
  · intro hlong
    rw [Expr.evaluation, hmembers, hlone.ofBindings_eq_error hcolumn hlong]
    rfl
  · intro hlong
    have hsingle : (a.expr name).verdict [entryBinding (name, v)] keepCase =
        .ok (a.holds held) :=
      a.verdict_single (b := entryBinding (name, v)) (ne_resultName_of_isPublic h.isPublic) hcolumn
        hvalue keepCase
    exact Expr.exists_evaluation (hlone.verdict_eq hcolumn hlong hmembers hsingle)

/-- A check of a rule that is respelled as an assertion about the placeholder. -/
theorem validate_assertion [Things] (st : Settings) (title : String) (h : Keeps entries name held)
    (a : Assertion) {rule : String} (hblank : isBlank rule.toList = false)
    (hrule : canonical rule.toList = a.front ++ (placeholder ++ a.back)) :
    validate (.ok st) (.mapping title entries) (namedCheck rule name) =
      if hasOverlong entries then .error .longInteger
      else Check.conclude (.ok st) (.mapping title entries) (namedCheck rule name)
        (a.holds held) := by
  obtain ⟨ls, hscan, hspells⟩ := a.exists_spells h.identifier
  obtain ⟨hfails, hfinds⟩ := evaluation_eq h st.keepCase a
  have hsource := normalize_filled hrule a.not_mem_front a.not_mem_back name
  have hevaluate : Check.evaluate (.ok st) rule (some name)
      ((entries.filter isUsable).map entryBinding) =
        (do
          let found ← attaching (String.ofList (a.front ++ (name.toList ++ a.back)))
            ((a.expr name).evaluation ((entries.filter isUsable).map entryBinding) st.keepCase)
          return (String.ofList (a.front ++ (name.toList ++ a.back)), found)) := by
    rw [Check.evaluate, hsource, ← evaluateIn_of_scan (by rwa [String.toList_ofList]) hspells]
    rfl
  have hvalidate := validate_eq (.ok st) (.mapping title entries) (namedCheck rule name) rule.toList
  rw [hblank, String.ofList_toList] at hvalidate
  refine hvalidate.trans ?_
  show (do let bindings ← (Candidate.mapping title entries).bindings none; _) = _
  rw [bindings_mapping title h.names]
  show (do let found ← Check.evaluate (.ok st) rule (some name) _; _) = _
  rw [hevaluate]
  cases hlong : hasOverlong entries with
  | true =>
    rw [hfails hlong]
    rfl
  | false =>
    obtain ⟨found, hfound, hverdict⟩ := hfinds hlong
    rw [hfound, ← hverdict]
    rfl

def ruleHolds (held : Option Int) : String → Bool
  | "IsNotNull" => held.isSome
  | "IsNull" => held.isNone
  | "IsPositive" => held.any fun n => 0 < n
  | "IsNegative" => held.any fun n => n < 0
  | "IsZero" => held.any fun n => n = 0
  | "IsPositiveOrZero" => held.any fun n => 0 ≤ n
  | "IsNegativeOrZero" => held.any fun n => n ≤ 0
  | "IsOdd" => held.any fun n => Odd n
  | "IsEven" => held.any fun n => Even n
  | _ => false

theorem decide_odd (n : Int) : decide (Odd n) = decide (n.tmod 2 ≠ 0) := by
  rw [decide_eq_decide, ← Int.not_even_iff_odd, even_iff_two_dvd, Int.dvd_iff_tmod_eq_zero]

theorem decide_even (n : Int) : decide (Even n) = decide (n.tmod 2 = 0) := by
  rw [decide_eq_decide, even_iff_two_dvd, Int.dvd_iff_tmod_eq_zero]

structure Asserted (rule : String × String) (a : Assertion) : Prop where
  notBlank : isBlank rule.2.toList = false
  respelled : canonical rule.2.toList = a.front ++ (placeholder ++ a.back)
  holds : ∀ held : Option Int, ruleHolds held rule.1 = a.holds held

/-- Each of the named rules is an assertion about its placeholder. -/
theorem exists_asserted : ∀ rule ∈ namedRules, ∃ a, Asserted rule a := by
  have asserted {rule : String × String} (a : Assertion)
      (htext : isBlank rule.2.toList = false ∧
        canonical rule.2.toList = a.front ++ (placeholder ++ a.back))
      (hholds : ∀ held, ruleHolds held rule.1 = a.holds held) : ∃ a, Asserted rule a :=
    ⟨a, htext.1, htext.2, hholds⟩
  simp only [namedRules, List.forall_mem_cons]
  refine ⟨asserted (.test true) (by decide +kernel) fun held => ?notNull,
    asserted (.test false) (by decide +kernel) fun held => ?null,
    asserted (.sign .gt) (by decide +kernel) fun held => ?positive,
    asserted (.sign .lt) (by decide +kernel) fun held => ?negative,
    asserted (.sign .eq) (by decide +kernel) fun held => ?zero,
    asserted (.sign .ge) (by decide +kernel) fun held => ?positiveOrZero,
    asserted (.sign .le) (by decide +kernel) fun held => ?negativeOrZero,
    asserted (.parity .ne) (by decide +kernel) fun held => ?odd,
    asserted (.parity .eq) (by decide +kernel) fun held => ?even, List.forall_mem_nil _⟩
  case notNull => cases held <;> simp only [ruleHolds] <;> rfl
  case null => cases held <;> simp only [ruleHolds] <;> rfl
  case odd => simp only [ruleHolds, Assertion.holds, Comparison.relates, decide_odd]
  case even => simp only [ruleHolds, Assertion.holds, Comparison.relates, decide_even]
  all_goals simp only [ruleHolds, Assertion.holds, Comparison.relates]

/-- A check of a named rule about an entry that holds an integer or nothing passes just if that is
as the rule says, and otherwise fails with the message of the settings, which the default one always
makes. Only another usable value that is too long to be written out is in the way. -/
theorem validate_named [Things] (st : Settings) (title : String) (h : Keeps entries name held) :
    ∀ rule ∈ namedRules,
      validate (.ok st) (.mapping title entries) (namedCheck rule.2 name) =
        (if hasOverlong entries then .error .longInteger
        else if ruleHolds held rule.1 then .ok .passed
        else (Template.fill st.message name).map fun message =>
          .failed (some message) [name]) ∧
      (hasOverlong entries = false → st.message = Settings.defaultMessage →
        validate (.ok st) (.mapping title entries) (namedCheck rule.2 name) =
          .ok (if ruleHolds held rule.1 then .passed
            else .failed (some ("The field " ++ name ++ " is invalid.")) [name])) := by
  intro rule hrule
  obtain ⟨a, ha⟩ := exists_asserted rule hrule
  have hvalidate := validate_assertion st title h a ha.notBlank ha.respelled
  have hconclude : ∀ holds, Check.conclude (.ok st) (.mapping title entries)
      (namedCheck rule.2 name) holds =
        if holds then .ok .passed
        else (Template.fill st.message name).map fun message => .failed (some message) [name] :=
    conclude_eq st (.mapping title entries) rfl
  rw [hconclude, ← ha.holds] at hvalidate
  refine ⟨hvalidate, fun hlong hdefault => ?_⟩
  rw [hvalidate, hlong, hdefault, Template.fill_defaultMessage]
  cases ruleHolds held rule.1 <;> rfl

end

def surplusEntries : List (String × Value) :=
  [("nullable", .int (-3)), ("Name", .text "x"), ("rest", .null), ("other", .int (10 ^ 30))]

open scoped Things in
theorem validate_surplus : Keeps surplusEntries "nullable" (some (-3)) ∧
    hasOverlong surplusEntries = false ∧
    ∀ rule ∈ namedRules,
      validate (.ok plainSettings) (.mapping "dict" surplusEntries)
          (namedCheck rule.2 "nullable") =
        .ok (if rule.1 ∈ ["IsNotNull", "IsNegative", "IsNegativeOrZero", "IsOdd"] then .passed
          else .failed (some "The field nullable is invalid.") ["nullable"]) := by
  have hkeeps : Keeps surplusEntries "nullable" (some (-3)) :=
    ⟨by decide, by decide +kernel, by decide, by decide, rfl, by simp; decide⟩
  have hshort : hasOverlong surplusEntries = false := by decide +kernel
  refine ⟨hkeeps, hshort, fun rule hrule => ?_⟩
  rw [(validate_named plainSettings "dict" hkeeps rule hrule).2 hshort rfl]
  revert rule
  decide +kernel

open scoped Things in
/-- Another usable value that is too long is in the way of every named rule. -/
theorem validate_longSurplus :
    Keeps [("m", .int 1), ("big", .int (10 ^ 4300))] "m" (some 1) ∧
      validate (.ok plainSettings) (.mapping "dict" [("m", .int 1), ("big", .int (10 ^ 4300))])
        (namedCheck "\x7b0\x7d > 0" "m") = .error .longInteger := by
  refine ⟨⟨by decide, by decide +kernel, by decide, by decide, rfl, by simp; decide⟩, ?_⟩
  decide +kernel

end Authored

end RuleCheck
