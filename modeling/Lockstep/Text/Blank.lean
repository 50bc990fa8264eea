/-
The blanks: characters that count as white space, and trimming by them.
-/
import Lockstep.Text.Ranges

namespace Lockstep.Text

/-- All blanks, in rising order. -/
def blankRanges : List (Nat × Nat) :=
  [(0x9, 0xd), (0x1c, 0x20), (0x85, 0x85), (0xa0, 0xa0), (0x1680, 0x1680), (0x2000, 0x200a),
    (0x2028, 0x2029), (0x202f, 0x202f), (0x205f, 0x205f), (0x3000, 0x3000)]

/-- White space of any kind: tabs, line ends, separators and spaces of every width. -/
def isBlank (c : Char) : Bool :=
  inRanges blankRanges c

/-- A text without the characters of a class at its two ends. -/
def trimWhile (p : Char → Bool) (cs : List Char) : List Char :=
  ((cs.dropWhile p).reverse.dropWhile p).reverse

/-- The text without the blanks at its two ends. -/
def trim (s : String) : String :=
  String.ofList (trimWhile isBlank s.toList)

end Lockstep.Text
