/-
Common indentation. `Indent.strip` takes from every line as many characters
as the least indented line begins with blanks. A line of blanks alone has no
say in that number, and is cut only where it is longer than it.
-/
import Lockstep.Text.Blank
import Lockstep.Text.Pieces

namespace Lockstep.Text.Indent

/-- The number of blanks a line begins with. -/
def width (line : List Char) : Nat :=
  (line.takeWhile isBlank).length

/-- The least indentation of the lines that hold more than blanks, if there is such a line. -/
def common (lines : List (List Char)) : Option Nat :=
  ((lines.filter fun l => l.any fun c => !isBlank c).map width).min?

/-- Takes `n` characters from the front of a line that is longer than that. -/
def cut (n : Nat) (line : List Char) : List Char :=
  if n < line.length then line.drop n else line

/-- The lines without their common indentation. -/
def stripLines (lines : List (List Char)) : List (List Char) :=
  match common lines with
  | .some n => lines.map (cut n)
  | .none => lines

/-- The text without the common indentation of its lines. -/
def strip (raw : String) : String :=
  String.ofList (join '\n' (stripLines (split '\n' raw.toList)))

end Lockstep.Text.Indent
