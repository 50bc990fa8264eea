/-
Sequences: what a group can iterate. Lists, tuples, queues, ranges and views
of bytes are sequences; texts and bytes are scalars, and so are sets and
mappings. The numbers of a range are made when they are asked for, however
many there are.
-/
import Lockstep.Value.Basic

namespace Lockstep

/-- What a group iterates: items that are at hand, or numbers at equal distances. -/
inductive Sequence where
  | items (items : List Value)
  | numbers (start step : Int) (count : Nat)
  deriving Repr, Inhabited

namespace Sequence

def length : Sequence → Nat
  | .items xs => xs.length
  | .numbers _ _ count => count

/-- The element at a position, counted from zero. -/
def get? : Sequence → Nat → Option Value
  | .items xs, i => xs[i]?
  | .numbers start step count, i => if i < count then .some (.int (start + step * i)) else .none

/-- All elements, in order. -/
def toList : Sequence → List Value
  | .items xs => xs
  | .numbers start step count => (List.range count).map fun (i : Nat) => .int (start + step * i)

@[simp] theorem length_toList (s : Sequence) : s.toList.length = s.length := by
  cases s <;> simp [toList, length]

theorem getElem?_toList (s : Sequence) (i : Nat) : s.toList[i]? = s.get? i := by
  cases s with
  | items xs => rfl
  | numbers start step count =>
    simp only [toList, get?, List.getElem?_map]
    by_cases h : i < count
    · simp [h]
    · simp [h]

/-- Every position before the end has an element, and no other. -/
theorem isSome_get? (s : Sequence) (i : Nat) : (s.get? i).isSome = true ↔ i < s.length := by
  rw [← getElem?_toList, ← length_toList]
  simp

end Sequence

/-- How many numbers there are from `start` on in steps of `step` up to and without `stop`. -/
def rangeCount (start stop step : Int) : Nat :=
  if 0 < step then ((stop - start + step - 1) / step).toNat
  else if step < 0 then ((start - stop - step - 1) / (-step)).toNat
  else 0

namespace Value

/-- The sequence a value is, if a group can iterate it. -/
def sequence? : Value → Option Sequence
  | .list xs | .tuple xs | .queue xs => .some (.items xs)
  | .range start stop step => .some (.numbers start step (rangeCount start stop step))
  | .view bs => .some (.items (bs.map fun b => .int b.toNat))
  | _ => .none

def isSequence (v : Value) : Bool :=
  v.sequence?.isSome

end Value

end Lockstep
