/-
Whole numbers in text, as people write them in settings. White space around
the number is dropped, then a plus sign, zeros too many in front, a point
with nothing but zeros behind it, and single underscores between digits. What
is left has to be digits, with a minus sign in front or none (`signedDigits?`),
and not too long.
-/
import Lockstep.Decimal.Notation
import Lockstep.Text.Blank
import Lockstep.Text.Pieces

namespace Lockstep.Decimal

/-- No whole number in text has more characters, its sign among them, but not zeros in front. -/
def integerLimit : Nat := 4300

/-- Why a text gives no whole number. -/
inductive IntegerError where
  /-- It spells none. -/
  | malformed
  /-- It begins with a number that is too long. -/
  | oversized
  deriving DecidableEq, Repr, Inhabited

/-- The value of digits of which no more than `limit` stand behind the zeros in front. -/
def boundedDigits? (limit : Nat) (ds : List Char) : Option Nat :=
  if ds.isEmpty || !ds.all Char.isDigit || limit < (ds.dropWhile (· == '0')).length then .none
  else .some (digitsValue ds)

/-- The whole number of digits, with a minus sign in front or none. -/
def signedDigits? : List Char → Option Int
  | '-' :: ds => (boundedDigits? (integerLimit - 1) ds).map fun n => -(n : Int)
  | ds => (boundedDigits? integerLimit ds).map Int.ofNat

/-! ## Tidying -/

/-- White space that may stand around a number: blanks other than information separators. -/
def isPadding (c : Char) : Bool :=
  Text.isBlank c && !(0x1c ≤ c.toNat && c.toNat ≤ 0x1f)

/-- Drops a plus sign that no minus sign follows. -/
def dropPlus : List Char → List Char
  | '+' :: '-' :: cs => '+' :: '-' :: cs
  | '+' :: cs => cs
  | cs => cs

/-- Drops zeros, and underscores among them, behind a zero in front; `last` is the one before the
text. It stays where nothing or a point follows. -/
def dropMoreZeros (last : Char) : List Char → Option (List Char)
  | [] => .some [last]
  | c :: cs =>
    if c = '0' ∨ c = '_' then dropMoreZeros c cs
    else if c = '.' then .some (last :: c :: cs)
    else if c = '-' ∨ c.isDigit then .some (c :: cs)
    else .none

/-- Drops zeros too many in front of a text that begins like a number. -/
def dropZeros : List Char → Option (List Char)
  | [] => .none
  | c :: cs =>
    if c = '0' then dropMoreZeros c cs
    else if c = '-' ∨ c.isDigit then .some (c :: cs)
    else .none

/-- Drops a point with nothing but zeros behind it, of which there has to be one. -/
def dropZeroFraction (cs : List Char) : List Char :=
  match cs.dropWhile (· != '.') with
  | '.' :: zeros =>
    if !zeros.isEmpty && zeros.all (· == '0') then cs.takeWhile (· != '.') else cs
  | _ => cs

/-- Drops underscores, each of which has to stand between two other characters. -/
def dropUnderscores (cs : List Char) : Option (List Char) :=
  let pieces := Text.split '_' cs
  if pieces.any List.isEmpty then .none else .some pieces.flatten

/-- What a text holds of a number, tidied. -/
def tidied? (cs : List Char) : Option (List Char) := do
  let digits ← dropZeros (dropPlus (Text.trimWhile isPadding cs))
  dropUnderscores (dropZeroFraction digits)

/-! ## Reading -/

/-- The text begins with a number that is too long: with digits, the first of them no zero, maybe
behind a minus sign. -/
def beginsOversized (cs : List Char) : Bool :=
  let (sign, ds) := match cs with
    | '-' :: ds => (1, ds)
    | ds => (0, ds)
  let digits := ds.takeWhile Char.isDigit
  digits.head? != .some '0' && integerLimit < sign + digits.length

/-- The whole number that a text spells. -/
def readInteger (s : String) : Except IntegerError Int :=
  let cs := s.toList
  if beginsOversized cs then .error .oversized
  else
    match (tidied? cs).bind signedDigits? with
    | .some n => .ok n
    | .none => .error .malformed

/-- The whole number that a text spells, if it spells one. -/
def integer? (s : String) : Option Int :=
  (readInteger s).toOption

end Lockstep.Decimal
