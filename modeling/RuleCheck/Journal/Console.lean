import RuleCheck.Settings

/-!
# Lines on the console

A record on the console begins with the name of its level, which has a colour of its own.
The text of the record stays as it is.
-/

set_option autoImplicit false

namespace RuleCheck

namespace Console

def levelName (number : Nat) : String :=
  match Level.all.find? fun l => l.number == number with
  | some l => l.name
  | none => if number = 0 then "NOTSET" else "Level " ++ toString number

def colour? (number : Nat) : Option String :=
  [(10, "96"), (20, "92"), (30, "93"), (40, "91"), (50, "1;91")].lookup number

def escape (code : String) : String := "\x1b[" ++ code ++ "m"

def line (number : Nat) (text : String) : String :=
  let name := levelName number
  let shown := match colour? number with
    | some code => escape code ++ name ++ escape "0"
    | none => name
  shown ++ " | " ++ text

end Console

end RuleCheck
