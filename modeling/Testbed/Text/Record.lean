import Testbed.Text.Quoted
/-!
# Values as text

A value is shown as its name with its parts: named ones in braces, others in parentheses.
-/

namespace Testbed.Text

/-- A value with named parts. -/
def record (name : String) (parts : List (String × String)) : String :=
  name ++ " \x7b " ++ ", ".intercalate (parts.map fun p => p.1 ++ ": " ++ p.2) ++ " \x7d"

/-- A value with parts in order. -/
def applied (name : String) (parts : List String) : String :=
  name ++ "(" ++ ", ".intercalate parts ++ ")"

end Testbed.Text
