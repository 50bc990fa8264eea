/-
JSON documents as trees. The members of an object stay in their order, and a
name that comes again stays too; whoever reads an object decides what it
means. So it is with what cannot be read: it stands in the tree as a fault,
and whoever needs that part decides (`faults` tells all of them).
-/
import Lockstep.Table
import Lockstep.Value.Basic

namespace Lockstep

namespace Json

/-- What is wrong with a part of a text. -/
inductive Fault where
  /-- It breaks the grammar, and nothing behind it is read. -/
  | malformed
  /-- It is a string that holds bytes that are no text. -/
  | notText
  /-- It is a number that no double is near to, or a whole one too long. -/
  | outOfRange
  deriving DecidableEq, Repr, Inhabited

end Json

/-- A document. A member whose name is no text stands under the empty name, with that fault in
front of its value (`Json.member`). -/
inductive Json where
  | null
  | bool (b : Bool)
  | int (n : Int)
  | float (x : Float)
  | string (s : String)
  | array (items : List Json)
  | object (members : List (String × Json))
  | faulty (fault : Json.Fault)
  deriving Repr, Inhabited

namespace Json

/-- A member of an object by its name, if the name is text. -/
def member (name : Option String) (j : Json) : String × Json :=
  match name with
  | .some s => (s, j)
  | .none => ("", .array [.faulty .notText, j])

mutual
/-- All faults of a document, in the order of the text. -/
def faults : Json → List Fault
  | .faulty fault => [fault]
  | .array items => itemFaults items
  | .object members => memberFaults members
  | .null | .bool _ | .int _ | .float _ | .string _ => []

def itemFaults : List Json → List Fault
  | [] => []
  | j :: js => j.faults ++ itemFaults js

def memberFaults : List (String × Json) → List Fault
  | [] => []
  | (_, j) :: ms => j.faults ++ memberFaults ms
end

/-- The text breaks off within the document. -/
def isBroken (j : Json) : Bool :=
  j.faults.contains .malformed

mutual
/-- The value a document stands for. In an object the last member of a name counts, in the place
of the first. A fault stands for nothing. -/
def toValue : Json → Value
  | .null | .faulty _ => .null
  | .bool b => .bool b
  | .int n => .int n
  | .float x => .float x
  | .string s => .text s
  | .array items => .list (itemValues items)
  | .object members => .dict ((memberValues ∅ members).entries.map fun e => (.text e.1, e.2))

def itemValues : List Json → List Value
  | [] => []
  | j :: js => j.toValue :: itemValues js

/-- A table with the values of further members. -/
def memberValues (t : Table Value) : List (String × Json) → Table Value
  | [] => t
  | (name, j) :: ms => memberValues (t.insert name j.toValue) ms
end

end Json

end Lockstep
