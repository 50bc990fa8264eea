/-
Line ends as they are read from files: a carriage return, alone or with a
line feed behind it, ends a line like a line feed does.
-/

namespace Lockstep.Text

/-- Every line end as one line feed. -/
def unifyLineEnds : List Char → List Char
  | '\r' :: '\n' :: cs => '\n' :: unifyLineEnds cs
  | '\r' :: cs => '\n' :: unifyLineEnds cs
  | c :: cs => c :: unifyLineEnds cs
  | [] => []

end Lockstep.Text
