/-
Texts and bytes between quotes, on one line and with nothing in them that
cannot be seen. Single quotes are used, or double ones around a text that
holds single quotes only. Backslashes, the quote itself and whatever is not
printable are escaped.
-/
import Lockstep.Text.Hex
import Lockstep.Text.Printable

namespace Lockstep.Text.Quoted

/-- The quote to put around a text: a double one if that saves escaping. -/
def quoteFor (cs : List Char) : Char :=
  if cs.contains '\'' && !cs.contains '"' then '"' else '\''

/-- Line feed, carriage return and tab have escapes of one letter. -/
def letterEscape? : Char → Option (List Char)
  | '\n' => .some ['\\', 'n']
  | '\r' => .some ['\\', 'r']
  | '\t' => .some ['\\', 't']
  | _ => .none

/-- A character that is not printable, in two, four or eight hexadecimal digits. -/
def hexEscape (c : Char) : List Char :=
  let n := c.toNat
  if n < 0x100 then '\\' :: 'x' :: hexDigits 2 n
  else if n < 0x10000 then '\\' :: 'u' :: hexDigits 4 n
  else '\\' :: 'U' :: hexDigits 8 n

/-- One character of a quoted text. -/
def encodeChar (quote c : Char) : List Char :=
  if c = quote ∨ c = '\\' then ['\\', c]
  else match letterEscape? c with
    | .some e => e
    | .none => if isPrintable c then [c] else hexEscape c

/-- A text between quotes. -/
def encode (s : String) : String :=
  let cs := s.toList
  let quote := quoteFor cs
  String.ofList (quote :: cs.flatMap (encodeChar quote) ++ [quote])

/-! ## Bytes -/

/-- Printable ASCII stands for itself, other bytes for two hexadecimal digits. The characters in
`escaped` get a backslash. -/
def encodeByte (escaped : List Char) (b : UInt8) : List Char :=
  let c := Char.ofNat b.toNat
  if escaped.contains c then ['\\', c]
  else match letterEscape? c with
    | .some e => e
    | .none =>
      if 0x20 ≤ b.toNat && b.toNat < 0x7f then [c] else '\\' :: 'x' :: hexDigits 2 b.toNat

/-- Bytes between quotes, behind a `b`. -/
def encodeBytes (bs : List UInt8) : String :=
  let quote := quoteFor (bs.map fun b => Char.ofNat b.toNat)
  String.ofList ('b' :: quote :: bs.flatMap (encodeByte [quote, '\\']) ++ [quote])

/-- The same for bytes that can be changed: a single quote is escaped between quotes of any
kind. -/
def encodeBuffer (bs : List UInt8) : String :=
  let quote := quoteFor (bs.map fun b => Char.ofNat b.toNat)
  String.ofList ('b' :: quote :: bs.flatMap (encodeByte ['\'', '\\']) ++ [quote])

end Lockstep.Text.Quoted
