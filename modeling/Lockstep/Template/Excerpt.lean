/-
Where in a template something is wrong, for a reader: the line and column of
a position, and the line itself with a caret under the place.
-/

namespace Lockstep.Excerpt

/-- The number of the line a position lies in, from one: the line feeds before it, and one. -/
def line (source : List Char) (position : Nat) : Nat :=
  (source.take position).count '\n' + 1

/-- Where the line a position lies in begins: behind the last line feed before the position. -/
def lineStart (source : List Char) (position : Nat) : Nat :=
  let before := source.take position
  before.length - (before.reverse.takeWhile (· != '\n')).length

/-- How far into its line the position lies, from zero. It may lie beyond the end. -/
def column (source : List Char) (position : Nat) : Nat :=
  position - lineStart source position

/-- The line a position lies in, without the line feed that ends it. A line feed belongs to the
line it ends. -/
def lineText (source : List Char) (position : Nat) : List Char :=
  let start := lineStart source position
  (source.drop start).take (position - start) ++
    (source.drop position).takeWhile (· != '\n')

/-- A complaint about a position of a text. With no text to show it names the bare position. -/
def report (reason : String) (position : Nat) (source : String) : String :=
  if source.isEmpty then
    s!"{reason} (at position {position})"
  else
    let cs := source.toList
    let col := column cs position
    s!"{reason} (line {line cs position}, column {col + 1})\n  " ++
      String.ofList (lineText cs position) ++ "\n  " ++
      String.ofList (List.replicate col ' ') ++ "^"

end Lockstep.Excerpt
