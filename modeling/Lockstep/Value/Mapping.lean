/-
Keys of mappings. Two numbers are the same key if they are equal, be they
whole or not; a truth value counts as nought or one. Sequences and mappings
cannot be keys.
-/
import Lockstep.Decimal.Binary
import Lockstep.Value.Basic

namespace Lockstep.Value

/-- The value can be the key of an entry. -/
def isKey : Value → Bool
  | .null | .bool _ | .int _ | .float _ | .text _ | .bytes _ | .other .. => true
  | _ => false

/-- The whole number that a number or truth value is. -/
def wholeNumber? : Value → Option Int
  | .bool b => .some (if b then 1 else 0)
  | .int n => .some n
  | .float x => (Decimal.Parts.ofFloat x).toInt?
  | _ => .none

/-- The two values are one key. -/
def sameKey (a b : Value) : Bool :=
  match a.wholeNumber?, b.wholeNumber? with
  | .some m, .some n => m == n
  | .none, .none =>
    match a, b with
    | .null, .null => true
    | .text s, .text t => s == t
    | .bytes s, .bytes t => s == t
    | .float x, .float y => x == y
    | .other k s _, .other l t _ => k == l && s == t
    | _, _ => false
  | _, _ => false

/-- The entries with one more, which takes the place of an earlier one with the same key. -/
def insertEntry (k v : Value) : List (Value × Value) → List (Value × Value)
  | [] => [(k, v)]
  | e :: es => if e.1.sameKey k then (e.1, v) :: es else e :: insertEntry k v es

/-- Null, false, nought, and whatever is empty. Scalars of other kinds never are. -/
def isVoid : Value → Bool
  | .null => true
  | .bool b => !b
  | .int n => n == 0
  | .float x => x == 0
  | .text s => s.isEmpty
  | .bytes bs | .buffer bs | .view bs => bs.isEmpty
  | .list xs | .tuple xs | .queue xs | .set xs => xs.isEmpty
  | .range start stop step =>
    if 0 < step then stop ≤ start else start ≤ stop
  | .dict es => es.isEmpty
  | .other .. => false

end Lockstep.Value
