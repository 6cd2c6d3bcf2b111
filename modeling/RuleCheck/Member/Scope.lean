import RuleCheck.Member.Hint

/-!
# Scopes

A scope says what the names in annotations stand for: types, forms that take arguments, and
families of things that are named with a point. The standard scope has the plain classes, the
classes of a fixed size and the forms of choice. An annotation looks names up in two scopes, one
inside the other. How its text is evaluated is left open: nothing is known but which names it looks
up, and how reading it where it is referred to differs from reading it on its own.
-/

set_option autoImplicit false

namespace RuleCheck

inductive Meaning
  | hint (h : Hint)
  | optional
  | union
  | annotated
  | generic (base : Class)
  | family (title : String) (members : List (String × Meaning))

abbrev Scope := List (String × Meaning)

namespace Scope

def word (signed : Bool) (bits : Nat) : String × Meaning :=
  let t : Number.WordType := ⟨signed, bits⟩
  (t.name, .hint (.single (.word t)))

def real (t : Number.RealType) : String × Meaning := (t.name, .hint (.single (.real t)))

def sized : List (String × Meaning) :=
  [("bool_", .hint (.single .flag)), ("str_", .hint (.single .fixedText)),
    word true 8, word true 16, word true 32, word true 64,
    word false 8, word false 16, word false 32, word false 64,
    real .half, real .single, real .double]

def single (c : Class) : String × Meaning := (c.name, .hint (.single c))

def typingForms : List (String × Meaning) :=
  [("Any", .hint (.single .anything)), ("Optional", .optional), ("Union", .union),
    ("ClassVar", .hint (.shared none)), ("Final", .hint (.final none)),
    ("Annotated", .annotated), ("List", .generic .list)]

def standard : Scope :=
  [single .int, single .float, single .text, single .bool, single .list,
    single (.foreign "" "dict"), single (.foreign "" "tuple"), single .date,
    single (.foreign "" "object"), single .none, single (.foreign "" "bytes"),
    single (.foreign "" "complex"), single (.foreign "decimal" "Decimal"),
    ("np", .family "numpy" sized), ("typing", .family "typing" typingForms)] ++ typingForms

end Scope

/-- The names that an annotation can look up. Those of the inner scope come first, and what the
annotation defines inside itself sees the outer scope alone. -/
structure Names where
  inner : Scope
  outer : Scope

namespace Names

def scope (names : Names) : Scope := names.inner ++ names.outer

structure Agree (uses usesInside : String → Prop) (names names' : Names) : Prop where
  scope : ∀ name, uses name → names.scope.lookup name = names'.scope.lookup name
  outer : ∀ name, usesInside name → names.outer.lookup name = names'.outer.lookup name

end Names

inductive AnnotationFault
  | unreadable
  | unresolved
  | other
  deriving DecidableEq, Repr

/-- How annotations are evaluated, on their own and where they are referred to, and how deep types are
resolved. Both ways come to the same for names that agree on what the text uses. They differ just
where one of them cannot read the text: blanks in front of it are dropped only on its own, and a star
in front of it is allowed only where it is referred to. -/
structure Resolver where
  evaluate : Names → String → Except AnnotationFault Hint
  refer : Names → String → Except AnnotationFault Hint
  uses : String → String → Prop
  usesInside : String → String → Prop
  evaluate_congr : ∀ {names names' : Names} {text : String},
    names.Agree (uses text) (usesInside text) names' → evaluate names text = evaluate names' text
  refer_congr : ∀ {names names' : Names} {text : String},
    names.Agree (uses text) (usesInside text) names' → refer names text = refer names' text
  refer_cases : ∀ names text, refer names text = evaluate names text ∨
    refer names text = .error .unreadable ∨ evaluate names text = .error .unreadable
  depth : Nat

end RuleCheck
