/-
How values are written. By itself (`Value.toText`) a text is written as it
is, and a scalar of another kind as it says; everything else is written as it
would be inside another value (`Value.quoted`), where a text stands between
quotes.
-/
import Lockstep.Decimal.Notation
import Lockstep.Text.Quoted
import Lockstep.Value.Basic

namespace Lockstep.Value

/-- Parts with a comma and a space between each two. -/
def listed (parts : List String) : String :=
  String.intercalate ", " parts

mutual
/-- A value as it is written inside another. -/
def quoted : Value → String
  | .null => "None"
  | .bool b => if b then "True" else "False"
  | .int n => toString n
  | .float x => Decimal.render x
  | .text s => Text.Quoted.encode s
  | .bytes bs => Text.Quoted.encodeBytes bs
  | .buffer bs => "bytearray(" ++ Text.Quoted.encodeBuffer bs ++ ")"
  | .view bs => s!"<memory of {bs.length} bytes>"
  | .list xs => "[" ++ listed (quotedItems xs) ++ "]"
  | .tuple [x] => "(" ++ x.quoted ++ ",)"
  | .tuple xs => "(" ++ listed (quotedItems xs) ++ ")"
  | .queue xs => "deque([" ++ listed (quotedItems xs) ++ "])"
  | .range start stop step =>
    if step = 1 then s!"range({start}, {stop})" else s!"range({start}, {stop}, {step})"
  | .set [] => "set()"
  | .set xs => "\x7b" ++ listed (quotedItems xs) ++ "\x7d"
  | .dict entries => "\x7b" ++ listed (quotedEntries entries) ++ "\x7d"
  | .other _ _ s => s

def quotedItems : List Value → List String
  | [] => []
  | x :: xs => x.quoted :: quotedItems xs

def quotedEntries : List (Value × Value) → List String
  | [] => []
  | (k, v) :: es => (k.quoted ++ ": " ++ v.quoted) :: quotedEntries es
end

/-- A value as it is written by itself. -/
def toText : Value → String
  | .text s => s
  | .other _ s _ => s
  | v => v.quoted

end Lockstep.Value
