/-
The decimal a double is written with: the fewest digits that read back to the
same double, and of those the nearest to it. A decimal reads back if it lies
between the points halfway to the neighbouring doubles; those points
themselves read back if the significand is even. For one digit, two digits
and so on the two decimals around the double are tried until one reads back.
-/
import Lockstep.Decimal.Binary

namespace Lockstep.Decimal

/-- The number `digits * 10 ^ exponent`. -/
structure Scientific where
  digits : Nat
  exponent : Int
  deriving DecidableEq, Repr, Inhabited

/-- The quotient of two numbers, times a power of ten, as a quotient of numbers. -/
def timesTenPower (n d : Nat) : Int → Nat × Nat
  | .ofNat k => (n * Nat.pow 10 k, d)
  | .negSucc k => (n, d * Nat.pow 10 (k + 1))

/-- A quarter of the distance of the double to its neighbours is the unit here: the double itself
is four times its significand. The lower neighbour of a power of two is only half as far away. -/
def Magnitude.interval (m : Magnitude) : Nat × Nat :=
  let low := if m.significand = Nat.pow 2 52 ∧ m.unit ≠ 0 then 1 else 2
  (4 * m.significand - low, 4 * m.significand + 2)

/-- The decimal `digits * 10 ^ exponent` reads back to the double. -/
def Magnitude.readsBack (m : Magnitude) (s : Scientific) : Bool :=
  let (n, d) := timesTenPower s.digits 1 s.exponent
  let point := 4 * scale * n
  let low := m.interval.1 * Nat.pow 2 m.unit * d
  let high := m.interval.2 * Nat.pow 2 m.unit * d
  if m.significand % 2 = 0 then low ≤ point && point ≤ high else low < point && point < high

/-- The number of digits of a number written in tens; nought has one. -/
def digitCount (n : Nat) : Nat :=
  (Nat.toDigits 10 n).length

/-- The exponent of ten of the first digit of a positive double. -/
def Magnitude.leading (m : Magnitude) : Int :=
  let n := m.scaled
  if scale ≤ n then digitCount (n / scale) - 1
  else -(digitCount ((scale - 1) / n) : Nat)

/-- The better of the two decimals with exponent `e` around the double that reads back, if one
does: the nearer, and of two equally near the one with an even last digit. -/
def Magnitude.onGrid? (m : Magnitude) (e : Int) : Option Scientific :=
  let (n, d) := timesTenPower m.scaled scale (-e)
  let below : Scientific := ⟨n / d, e⟩
  let above : Scientific := ⟨n / d + 1, e⟩
  let r := n % d
  let upFirst := d < 2 * r || (2 * r == d && (n / d) % 2 == 1)
  let candidates := if upFirst then [above, below] else [below, above]
  candidates.find? m.readsBack

/-- A decimal without zeros at its end. Every zero dropped makes the digits smaller. -/
def Scientific.normal (s : Scientific) : Scientific :=
  if h : s.digits ≠ 0 ∧ s.digits % 10 = 0 then
    normal ⟨s.digits / 10, s.exponent + 1⟩
  else s
termination_by s.digits
decreasing_by omega

/-- The decimal a positive double is written with. Seventeen digits are always enough. -/
def Magnitude.shortest (m : Magnitude) : Scientific :=
  let tries := (List.range 17).map fun k : Nat => m.leading - (k : Int)
  ((tries.findSome? m.onGrid?).getD ⟨m.scaled / scale, 0⟩).normal

end Lockstep.Decimal
