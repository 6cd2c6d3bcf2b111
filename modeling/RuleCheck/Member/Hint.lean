import RuleCheck.Value
import RuleCheck.Text.Quoted

/-!
# Declared types

What a member is declared to hold: a class, or something made of classes, such as a choice
between several. Only a class says what kind of values a member has. A choice between one
type and nothing is that type, and admits nothing. Any thing at all may stand where a type is
declared, and then it has a title and perhaps parts; some things are improper there.
-/

set_option autoImplicit false

namespace RuleCheck

inductive Hint
  | single (c : Class)
  | nothing
  | choice (barred : Bool) (parts : List Hint)
  | final (inner : Option Hint)
  | shared (inner : Option Hint)
  | annotated (inner : Hint)
  | generic (base : Class) (arguments : List Hint)
  | forward (name : String)
  | unread (text : String)
  | constant (digits : String)
  | other (title : String) (parts : List Hint)
  | improper (title : String)

namespace Hint

def kind : Hint → Kind
  | single c => c.kind
  | _ => .unknown

def class? : Hint → Option Class
  | single c => some c
  | _ => none

def isNone : Hint → Bool
  | single c => c == .none
  | _ => false

def unwrap : Hint → Hint × Bool
  | choice barred parts =>
    let inner := parts.filter fun part => !part.isNone
    let nullable := inner.length < parts.length
    match inner with
    | [part] => (part, nullable)
    | _ => (choice barred parts, nullable)
  | hint => (hint, false)

def partName (c : Class) : String :=
  match c with
  | .anything => "typing.Any"
  | c => if c.home.isEmpty then c.name else c.home ++ "." ++ c.name

mutual

def shownInside : Hint → String
  | single c => partName c
  | hint => shownTop hint

def shownTop : Hint → String
  | single c => c.shown
  | nothing => "None"
  | choice true parts => " | ".intercalate (shownEach parts)
  | choice false parts => "typing.Union[" ++ ", ".intercalate (shownEach parts) ++ "]"
  | final none => "typing.Final"
  | final (some inner) => "typing.Final[" ++ shownInside inner ++ "]"
  | shared none => "typing.ClassVar"
  | shared (some inner) => "typing.ClassVar[" ++ shownInside inner ++ "]"
  | annotated inner => "typing.Annotated[" ++ shownInside inner ++ "]"
  | generic base arguments =>
    partName base ++ "[" ++ ", ".intercalate (shownEach arguments) ++ "]"
  | forward name => "ForwardRef(" ++ Text.quoted name ++ ")"
  | unread text => Text.quoted text
  | constant digits => digits
  | other title [] => title
  | other title parts => title ++ "[" ++ ", ".intercalate (shownEach parts) ++ "]"
  | improper title => title

def shownEach : List Hint → List String
  | [] => []
  | hint :: hints => shownInside hint :: shownEach hints

end

def shown : Hint → String
  | choice false parts =>
    match (choice false parts).unwrap with
    | (choice _ _, _) => shownTop (choice false parts)
    | (inner, _) => "typing.Optional[" ++ shownInside inner ++ "]"
  | hint => shownTop hint

mutual

def beq : Hint → Hint → Bool
  | single c, single d => c == d
  | nothing, nothing => true
  | choice _ parts, choice _ parts' => beqEach parts parts'
  | final none, final none => true
  | final (some h), final (some h') => beq h h'
  | shared none, shared none => true
  | shared (some h), shared (some h') => beq h h'
  | annotated h, annotated h' => beq h h'
  | generic c hs, generic d hs' => c == d && beqEach hs hs'
  | forward name, forward name' => name == name'
  | unread text, unread text' => text == text'
  | constant digits, constant digits' => digits == digits'
  | other title hs, other title' hs' => title == title' && beqEach hs hs'
  | improper title, improper title' => title == title'
  | _, _ => false

def beqEach : List Hint → List Hint → Bool
  | [], [] => true
  | h :: hs, h' :: hs' => beq h h' && beqEach hs hs'
  | _, _ => false

end

instance : BEq Hint := ⟨beq⟩

mutual

theorem beq_self : ∀ h : Hint, beq h h = true
  | single _ | forward _ | unread _ | constant _ | improper _ => by
    rw [beq]
    exact beq_self_eq_true _
  | nothing | final none | shared none => by rw [beq]
  | choice _ parts => by
    rw [beq]
    exact beqEach_self parts
  | final (some h) | shared (some h) | annotated h => by
    rw [beq]
    exact beq_self h
  | generic c hs => by
    rw [beq, beq_self_eq_true, Bool.true_and]
    exact beqEach_self hs
  | other title hs => by
    rw [beq, beq_self_eq_true, Bool.true_and]
    exact beqEach_self hs

theorem beqEach_self : ∀ hs : List Hint, beqEach hs hs = true
  | [] => by rw [beqEach]
  | h :: hs => by
    rw [beqEach, beq_self h, Bool.true_and]
    exact beqEach_self hs

end

def asType : Hint → Hint
  | nothing => single .none
  | unread text => forward text
  | hint => hint

def distinct : List Hint → List Hint
  | [] => []
  | h :: hs => h :: (distinct hs).filter fun h' => !(h' == h)

def flatten : Hint → List Hint
  | choice _ parts => parts
  | hint => [hint]

def ofParts (barred : Bool) (parts : List Hint) : Hint :=
  match distinct (parts.flatMap flatten) with
  | [hint] => hint
  | parts => choice barred parts

def asWhole? (h : Hint) : Option Hint :=
  match h.asType with
  | improper _ => none
  | hint => some hint

def asArgument? (h : Hint) : Option Hint :=
  match h.asType with
  | final _ => none
  | shared _ => none
  | improper _ => none
  | hint => some hint

def ofValue : Value → Hint
  | .null => nothing
  | .text s => unread s
  | .fixedText s => unread s
  | .derivedText _ s => unread s
  | .int n => constant (toString n)
  | _ => other "value" []

end Hint

end RuleCheck
