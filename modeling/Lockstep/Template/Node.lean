/-
Templates as trees: literal text, references that show or hide a value, and
groups that repeat. What a reference binds for its later siblings
(`Reference.bound`) and how deep groups nest (`Node.nesting`) are read off
the tree here.
-/

namespace Lockstep

/-- A name, with the label its value is bound to for what follows. -/
structure Reference where
  name : String
  label : Option String := .none
  deriving DecidableEq, Repr, Inhabited

/-- The label that binds nothing. -/
def discard : String := "_"

/-- The name the reference binds, if it binds one: its label, unless that is the discard. -/
def Reference.bound (r : Reference) : Option String :=
  r.label.filter (· != discard)

/-- A part of a template. -/
inductive Node where
  /-- Text that stands for itself. -/
  | literal (text : String)
  /-- A reference whose value is written. -/
  | shown (ref : Reference)
  /-- A reference that is read and writes nothing. -/
  | hidden (ref : Reference)
  /-- The children once for each element of what they iterate, with the separator between. -/
  | group (children : List Node) (separator : Option String)
  /-- Something of another kind that stands where a part of a template should. -/
  | foreign (kind : String)
  deriving Repr, Inhabited

namespace Node

/-- The reference the node makes itself; those inside a group are the group's. -/
def reference? : Node → Option Reference
  | .shown r | .hidden r => .some r
  | _ => .none

/-! ## Nesting -/

mutual
/-- How many groups lie inside each other at the deepest place. -/
def nesting : Node → Nat
  | .group children _ => nestingList children + 1
  | _ => 0

/-- The deepest nesting of a list of nodes. -/
def nestingList : List Node → Nat
  | [] => 0
  | n :: ns => max n.nesting (nestingList ns)
end

theorem nesting_group (ns : List Node) (sep : Option String) :
    (group ns sep).nesting = nestingList ns + 1 := by
  simp only [nesting]

@[simp] theorem nestingList_nil : nestingList [] = 0 := by
  simp only [nestingList]

@[simp] theorem nestingList_cons (n : Node) (ns : List Node) :
    nestingList (n :: ns) = max n.nesting (nestingList ns) := by
  simp only [nestingList]

end Node

end Lockstep
