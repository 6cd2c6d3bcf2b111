/-!
# Paths

A path is a text with slashes between its parts. Several paths lead to one place, and one
of them is the plainest.
-/

set_option autoImplicit false

namespace RuleCheck.Text

def plainPath (path : String) : String :=
  let parts := (path.splitOn "/").filter fun part => part != "" && part != "."
  let body := "/".intercalate parts
  if path.startsWith "/" then "/" ++ body else if body.isEmpty then "." else body

end RuleCheck.Text
