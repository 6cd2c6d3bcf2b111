import RuleCheck.Member.Annotation
import RuleCheck.Member.Scope

/-!
# The meaning of annotations

An annotation declares a type once a scope says what its names stand for. A choice has each
of its types once, and a choice inside a choice is one choice. What a common annotation stands for
is told here, or that it is at fault; of any other annotation nothing is told, and a resolver asks
elsewhere.
-/

set_option autoImplicit false

namespace RuleCheck

namespace Hint

def isClosedClass (c : Class) : Bool :=
  [Class.bool, .int, .float, .text, .none, .date, .anything, .foreign "" "object",
    .foreign "" "bytes", .foreign "" "complex", .foreign "decimal" "Decimal"].contains c

def asAlternative? : Hint → Option Hint
  | nothing => some (single .none)
  | single c => some (single c)
  | choice barred parts => some (choice barred parts)
  | generic base arguments => some (generic base arguments)
  | annotated inner => some (annotated inner)
  | _ => none

abbrev Gap := Option AnnotationFault

def orFault {α : Type} : Option α → Except Gap α
  | some x => .ok x
  | none => .error (some .unresolved)

def either (l r : Hint) : Except Gap Hint :=
  match l, r with
  | nothing, nothing => .error (some .unresolved)
  | l, r =>
    match l.asAlternative?, r.asAlternative? with
    | some l, some r => .ok (ofParts true [l, r])
    | _, _ => .error none

def ofMeaning : Meaning → Hint
  | .hint h => h
  | .optional => improper "typing.Optional"
  | .union => improper "typing.Union"
  | .annotated => other "<class 'typing.Annotated'>" []
  | .generic base => generic base []
  | .family title _ => other ("<module '" ++ title ++ "'>") []

def applied (form : Meaning) (arguments : List Hint) : Except Gap Hint :=
  match form, arguments with
  | .optional, [h] => do return ofParts false [← orFault h.asArgument?, single .none]
  | .union, h :: hs => do return ofParts false (← orFault ((h :: hs).mapM asArgument?))
  | .annotated, h :: _ :: _ => do return annotated (← orFault h.asWhole?)
  | .hint (.final none), [h] => do return final (some (← orFault h.asArgument?))
  | .hint (.shared none), [h] => do return shared (some (← orFault h.asArgument?))
  | .generic base, [h] => do return generic base [← orFault h.asArgument?]
  | .hint (.single (.foreign "" "list")), h :: hs => .ok (generic .list (h :: hs))
  | .hint (.single (.foreign "" "dict")), h :: hs => .ok (generic (.foreign "" "dict") (h :: hs))
  | .hint (.single (.foreign "" "tuple")), h :: hs =>
    .ok (generic (.foreign "" "tuple") (h :: hs))
  | .optional, _ => .error (some .unresolved)
  | .hint (.single c), _ => .error (if isClosedClass c then some .unresolved else none)
  | _, _ => .error none

end Hint

namespace Annotation

open Hint

mutual

def meaning (scope : Scope) : Annotation → Except Gap Meaning
  | name "None" => .ok (.hint .nothing)
  | name n => orFault (scope.lookup n)
  | part whole n => do
    match ← meaning scope whole with
    | .family _ members => orFault (members.lookup n)
    | _ => throw none
  | quoted text => .ok (.hint (.unread text))
  | constant text => .ok (.hint (.constant text))
  | applied form arguments => do
    let form ← meaning scope form
    let hints ← hints scope arguments
    return .hint (← Hint.applied form hints)
  | either l r => do
    let l := ofMeaning (← meaning scope l)
    let r := ofMeaning (← meaning scope r)
    return .hint (← Hint.either l r)

def hints (scope : Scope) : List Annotation → Except Gap (List Hint)
  | [] => .ok []
  | a :: rest => do
    let h := ofMeaning (← meaning scope a)
    return h :: (← hints scope rest)

end

mutual

def names : Annotation → List String
  | name n => [n]
  | part whole _ => names whole
  | quoted _ => []
  | constant _ => []
  | applied form arguments => names form ++ namesEach arguments
  | either l r => names l ++ names r

def namesEach : List Annotation → List String
  | [] => []
  | a :: rest => names a ++ namesEach rest

end

mutual

theorem meaning_congr {s s' : Scope} : ∀ {a : Annotation},
    (∀ n ∈ names a, s.lookup n = s'.lookup n) → meaning s a = meaning s' a
  | name n, h => by
    by_cases hn : n = "None"
    · rw [hn, meaning, meaning]
    · rw [meaning.eq_2 s n hn, meaning.eq_2 s' n hn, h n (List.mem_singleton_self n)]
  | part whole n, h => by
    have hwhole : meaning s whole = meaning s' whole := meaning_congr h
    rw [meaning, meaning, hwhole]
  | quoted text, _ => by rw [meaning, meaning]
  | constant text, _ => by rw [meaning, meaning]
  | applied form arguments, h => by
    have hform : meaning s form = meaning s' form :=
      meaning_congr fun n hn => h n (List.mem_append_left _ hn)
    have hhints : hints s arguments = hints s' arguments :=
      hints_congr fun n hn => h n (List.mem_append_right _ hn)
    rw [meaning, meaning, hform, hhints]
  | either l r, h => by
    have hl : meaning s l = meaning s' l :=
      meaning_congr fun n hn => h n (List.mem_append_left _ hn)
    have hr : meaning s r = meaning s' r :=
      meaning_congr fun n hn => h n (List.mem_append_right _ hn)
    rw [meaning, meaning, hl, hr]

theorem hints_congr {s s' : Scope} : ∀ {as : List Annotation},
    (∀ n ∈ namesEach as, s.lookup n = s'.lookup n) → hints s as = hints s' as
  | [], _ => by rw [hints, hints]
  | a :: rest, h => by
    have ha : meaning s a = meaning s' a :=
      meaning_congr fun n hn => h n (List.mem_append_left _ hn)
    have hrest : hints s rest = hints s' rest :=
      hints_congr fun n hn => h n (List.mem_append_right _ hn)
    rw [hints, hints, ha, hrest]

end

/-- The standard names come last. What is read here defines nothing inside itself. -/
def evaluate (builtins : Scope) (beyond : String → Except AnnotationFault Hint) (names : Names)
    (text : String) : Except AnnotationFault Hint :=
  match read? text with
  | none => beyond text
  | some a =>
    match meaning (names.scope ++ builtins) a with
    | .ok m => .ok (ofMeaning m)
    | .error (some fault) => .error fault
    | .error none => beyond text

def isIndented (text : String) : Bool :=
  match text.toList with
  | c :: _ => c == ' ' || c == '\t'
  | [] => false

def refer (builtins : Scope) (beyond : String → Except AnnotationFault Hint) (names : Names)
    (text : String) : Except AnnotationFault Hint :=
  if isIndented text && (read? text).isSome then .error .unreadable
  else evaluate builtins beyond names text

def Uses (text name : String) : Prop := ∃ a, read? text = some a ∧ name ∈ a.names

theorem evaluate_congr {builtins : Scope} {beyond : String → Except AnnotationFault Hint}
    {names names' : Names} {text : String} {inside : String → Prop}
    (h : names.Agree (Uses text) inside names') :
    evaluate builtins beyond names text = evaluate builtins beyond names' text := by
  unfold evaluate
  cases hread : read? text with
  | none => rfl
  | some a =>
    have hmeaning : meaning (names.scope ++ builtins) a = meaning (names'.scope ++ builtins) a := by
      refine meaning_congr fun n hn => ?_
      rw [List.lookup_append, List.lookup_append, h.scope n ⟨a, hread, hn⟩]
    simp only [hmeaning]

end Annotation

def Resolver.plain (builtins : Scope) (beyond : String → Except AnnotationFault Hint)
    (depth : Nat) : Resolver where
  evaluate := Annotation.evaluate builtins beyond
  refer := Annotation.refer builtins beyond
  uses := Annotation.Uses
  usesInside _ _ := False
  evaluate_congr := Annotation.evaluate_congr
  refer_congr h := by rw [ Annotation.refer, Annotation.refer, Annotation.evaluate_congr h]
  refer_cases names text := by
    unfold Annotation.refer
    split
    · exact .inr (.inl rfl)
    · exact .inl rfl
  depth := depth

end RuleCheck
