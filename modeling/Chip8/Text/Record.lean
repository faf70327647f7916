/-!
# Records written out

A value is shown by its name and its parts.  Named parts stand between
braces, each after its name and a colon; a single unnamed part stands between
parentheses; the items of a list stand between square brackets.
-/

namespace Chip8.Text.Record

/-- A name followed by its named parts between braces. -/
def withFields (name : String) (fields : List (String × String)) : String :=
  name ++ " \x7b " ++
    ", ".intercalate (fields.map fun field => field.1 ++ ": " ++ field.2) ++
    " \x7d"

/-- A name followed by one unnamed part between parentheses. -/
def withPart (name part : String) : String :=
  name ++ "(" ++ part ++ ")"

/-- Several values between square brackets. -/
def ofList (items : List String) : String :=
  "[" ++ ", ".intercalate items ++ "]"

end Chip8.Text.Record
