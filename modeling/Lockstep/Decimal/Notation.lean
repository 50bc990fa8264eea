/-
How doubles are written and read. `render` writes the shortest decimal,
positionally from 0.0001 up to below 10^16 and with a signed exponent of two
digits or more elsewhere; a whole number keeps its `.0`. `read?` reads a
decimal with or without point and exponent, and the names of infinity and of
what is no number.
-/
import Lockstep.Decimal.Shortest

namespace Lockstep.Decimal

/-! ## Writing -/

/-- `n` with zeros in front up to the given width. -/
def padded (width n : Nat) : String :=
  let ds := Nat.toDigits 10 n
  String.ofList (List.replicate (width - ds.length) '0' ++ ds)

/-- The digits with the point `places` digits from the left, filled up with zeros. -/
def positional (ds : List Char) (places : Int) : String :=
  if places ≤ 0 then
    "0." ++ String.ofList (List.replicate (-places).toNat '0' ++ ds)
  else
    let k := places.toNat
    let whole := ds.take k ++ List.replicate (k - ds.length) '0'
    let fraction := ds.drop k
    String.ofList whole ++ "." ++ (if fraction.isEmpty then "0" else String.ofList fraction)

/-- One digit, the others behind a point, and the exponent of ten. -/
def scientific (ds : List Char) (exponent : Int) : String :=
  let mark := if exponent < 0 then "e-" else "e+"
  let mantissa := match ds with
    | [] => ""
    | [d] => String.ofList [d]
    | d :: rest => String.ofList (d :: '.' :: rest)
  mantissa ++ mark ++ padded 2 exponent.natAbs

/-- A positive decimal: positional if its first digit stands from the fourth place behind the
point to the sixteenth before it. -/
def Scientific.render (s : Scientific) : String :=
  let ds := Nat.toDigits 10 s.digits
  let first := s.exponent + (ds.length : Int) - 1
  if -4 ≤ first ∧ first < 16 then positional ds (first + 1) else scientific ds first

def Magnitude.render (m : Magnitude) : String :=
  if m.significand = 0 then "0.0" else m.shortest.render

def Parts.render : Parts → String
  | .nan => "nan"
  | .infinite negative => if negative then "-inf" else "inf"
  | .finite negative m => (if negative then "-" else "") ++ m.render

/-- The text of a double. -/
def render (x : Float) : String :=
  (Parts.ofFloat x).render

/-! ## Reading -/

/-- The value of decimal digits, most significant first. -/
def digitsValue (ds : List Char) : Nat :=
  ds.foldl (fun n c => 10 * n + (c.toNat - '0'.toNat)) 0

/-- A decimal with its sign: digits before the point, digits behind it, and an exponent. -/
structure Literal where
  negative : Bool := false
  whole : List Char := []
  fraction : List Char := []
  exponent : Int := 0
  deriving DecidableEq, Repr, Inhabited

/-- Beyond this the exponent alone decides: the number is nought or out of range. It grows with
the number of digits, so that digits cannot make up for the exponent. -/
def Literal.exponentBound (l : Literal) : Nat :=
  400 + l.whole.length + l.fraction.length

/-- The double nearest to the decimal; infinity where it is out of range. -/
def Literal.toFloat (l : Literal) : Float :=
  let n := digitsValue (l.whole ++ l.fraction)
  let bound : Int := l.exponentBound
  let e := max (-bound) (min bound l.exponent) - (l.fraction.length : Int)
  let (num, den) := timesTenPower n 1 e
  nearest l.negative num den

/-- The exponent behind an `e`: an optional sign and digits. -/
def readExponent? (cs : List Char) : Option Int :=
  let (negative, ds) := match cs with
    | '-' :: ds => (true, ds)
    | '+' :: ds => (false, ds)
    | ds => (false, ds)
  if ds.isEmpty || !ds.all Char.isDigit then .none
  else
    let n : Int := (digitsValue ds : Nat)
    .some (if negative then -n else n)

/-- An unsigned decimal: digits with at most one point among or around them, and maybe an
exponent. -/
def readUnsigned? (negative : Bool) (cs : List Char) : Option Literal := do
  let whole := cs.takeWhile Char.isDigit
  let rest := cs.dropWhile Char.isDigit
  let (fraction, rest) := match rest with
    | '.' :: more => (more.takeWhile Char.isDigit, more.dropWhile Char.isDigit)
    | _ => ([], rest)
  if whole.isEmpty && fraction.isEmpty then .none
  else match rest with
    | [] => .some ⟨negative, whole, fraction, 0⟩
    | c :: more =>
      if c = 'e' ∨ c = 'E' then
        (readExponent? more).map fun e => ⟨negative, whole, fraction, e⟩
      else .none

/-- The double that a text names. -/
def read? (s : String) : Option Float :=
  let (negative, cs) := match s.toList with
    | '-' :: cs => (true, cs)
    | '+' :: cs => (false, cs)
    | cs => (false, cs)
  let name := String.ofList (cs.map Char.toLower)
  if name = "inf" ∨ name = "infinity" then
    .some (Float.ofBits (if negative then 0xfff0000000000000 else 0x7ff0000000000000))
  else if name = "nan" then .some (Float.ofBits 0x7ff8000000000000)
  else (readUnsigned? negative cs).map Literal.toFloat

end Lockstep.Decimal
