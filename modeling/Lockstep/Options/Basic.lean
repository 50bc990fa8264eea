/-
The options of rendering: what happens to sequences of unequal length, and
how deep groups may nest.
-/

namespace Lockstep

/-- What a group does with sequences of unequal length. -/
inductive LengthPolicy where
  /-- It stops where the shortest ends. -/
  | truncate
  /-- It refuses them. -/
  | strict
  deriving DecidableEq, Repr, Inhabited

def LengthPolicy.name : LengthPolicy → String
  | .truncate => "truncate"
  | .strict => "strict"

/-- The policy of a name, spelled exactly. -/
def LengthPolicy.ofName? (name : String) : Option LengthPolicy :=
  [truncate, strict].find? (·.name == name)

/-- The deepest nesting that can be allowed. -/
def deepestLimit : Nat := 200

/-- A limit on how deep groups nest. -/
structure DepthLimit where
  groups : Nat
  pos : 1 ≤ groups := by decide
  le : groups ≤ deepestLimit := by decide
  deriving DecidableEq, Repr

/-- The limit that holds where none is given. -/
def DepthLimit.standard : DepthLimit := { groups := 64 }

instance : Inhabited DepthLimit := ⟨DepthLimit.standard⟩

/-- A number as a limit, if it is one. -/
def DepthLimit.ofInt? (n : Int) : Option DepthLimit :=
  if h : 1 ≤ n ∧ n ≤ deepestLimit then
    .some { groups := n.toNat, pos := by omega, le := by omega }
  else .none

structure Options where
  lengthPolicy : LengthPolicy := .truncate
  maxDepth : DepthLimit := DepthLimit.standard
  deriving DecidableEq, Repr, Inhabited

end Lockstep
