/-!
# Outcomes

What checking a rule comes to: it holds, or it is violated, with a message and the members
that are to blame.
-/

set_option autoImplicit false

namespace RuleCheck

structure Outcome where
  success : Bool
  message : Option String
  memberNames : List String
  deriving DecidableEq, Repr

namespace Outcome

def passed : Outcome := ⟨true, none, []⟩

def failed (message : Option String) (memberNames : List String) : Outcome :=
  ⟨false, message, memberNames⟩

end Outcome

end RuleCheck
