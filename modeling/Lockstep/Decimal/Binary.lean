/-
Doubles as exact numbers. A finite double is `significand * 2 ^ unit / 2 ^ 1074`
with its sign apart (`Magnitude`), so that it can be compared with decimals in
whole numbers. `ofFloat` takes a double apart and `nearest` puts the double
together that lies nearest a quotient, a tie going to the even significand.
-/

namespace Lockstep.Decimal

/-- The least positive double is one over this. -/
def scale : Nat := Nat.pow 2 1074

/-- The finite double `significand * 2 ^ unit / scale`. -/
structure Magnitude where
  significand : Nat
  unit : Nat
  deriving DecidableEq, Repr, Inhabited

/-- The magnitude as a number of units of the least positive double. -/
def Magnitude.scaled (m : Magnitude) : Nat :=
  m.significand * Nat.pow 2 m.unit

/-- What a double is: not a number, or a sign with a magnitude or infinity. -/
inductive Parts where
  | nan
  | infinite (negative : Bool)
  | finite (negative : Bool) (magnitude : Magnitude)
  deriving DecidableEq, Repr, Inhabited

/-- Takes the bits of a double apart. -/
def Parts.ofBits (bits : Nat) : Parts :=
  let negative := bits / Nat.pow 2 63 = 1
  let exponent := bits / Nat.pow 2 52 % Nat.pow 2 11
  let fraction := bits % Nat.pow 2 52
  if exponent = 2047 then
    if fraction = 0 then .infinite negative else .nan
  else if exponent = 0 then .finite negative ⟨fraction, 0⟩
  else .finite negative ⟨Nat.pow 2 52 + fraction, exponent - 1⟩

def Parts.ofFloat (x : Float) : Parts :=
  ofBits x.toBits.toNat

/-- The whole number a finite double is, if it is one. -/
def Parts.toInt? : Parts → Option Int
  | .finite negative m =>
    if m.scaled % scale = 0 then
      let n : Int := (m.scaled / scale : Nat)
      .some (if negative then -n else n)
    else .none
  | _ => .none

/-- The whole number next to `n / d`; halfway between two it is the even one. -/
def roundHalfEven (n d : Nat) : Nat :=
  let q := n / d
  let r := n % d
  if d < 2 * r ∨ (2 * r = d ∧ q % 2 = 1) then q + 1 else q

/-- How far the significand of `n / d` units has to be shifted to have 53 bits at most. -/
def unitFor (n d : Nat) : Nat :=
  let q := n / d
  if q < Nat.pow 2 53 then 0 else q.log2 - 52

/-- The bits of the double nearest to `n / d`, or of infinity where that is out of range. A
significand that is rounded up to 54 bits carries into the exponent. -/
def nearestBits (n d : Nat) : Nat :=
  let units := n * scale
  let u := unitFor units d
  let significand := roundHalfEven units (d * Nat.pow 2 u)
  min (u * Nat.pow 2 52 + significand) (2047 * Nat.pow 2 52)

/-- The double nearest to `± n / d`. -/
def nearest (negative : Bool) (n d : Nat) : Float :=
  Float.ofBits (UInt64.ofNat ((if negative then Nat.pow 2 63 else 0) + nearestBits n d))

end Lockstep.Decimal
