/-
The values that names are bound to: scalars of several kinds, sequences that
a group can iterate, and the composite scalars (sets and mappings) that are
written as a whole. A scalar of any other kind, such as a date, is known by how
it is written.
-/

namespace Lockstep

inductive Value where
  | null
  | bool (b : Bool)
  | int (n : Int)
  | float (x : Float)
  | text (s : String)
  /-- Bytes that are fixed. -/
  | bytes (bs : List UInt8)
  /-- Bytes that can be changed. -/
  | buffer (bs : List UInt8)
  /-- A window on bytes, read as a sequence of numbers. -/
  | view (bs : List UInt8)
  | list (items : List Value)
  | tuple (items : List Value)
  | queue (items : List Value)
  /-- The numbers from `start` on in steps of `step`, up to and without `stop`. -/
  | range (start stop step : Int)
  | set (items : List Value)
  /-- A mapping, in the order of its entries. -/
  | dict (entries : List (Value × Value))
  /-- A scalar of another kind: its text, and how it is written inside another value. -/
  | other (kind text quoted : String)
  deriving Repr, Inhabited

/-- The name of the kind a value is of. -/
def Value.kind : Value → String
  | .null => "NoneType"
  | .bool _ => "bool"
  | .int _ => "int"
  | .float _ => "float"
  | .text _ => "str"
  | .bytes _ => "bytes"
  | .buffer _ => "bytearray"
  | .view _ => "memoryview"
  | .list _ => "list"
  | .tuple _ => "tuple"
  | .queue _ => "deque"
  | .range .. => "range"
  | .set _ => "set"
  | .dict _ => "dict"
  | .other kind _ _ => kind

end Lockstep
