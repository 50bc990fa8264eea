/-
Backslash escapes in raw template text. `Escape.decode` reads a backslash
followed by a backslash, `n`, `r` or `t` as one character and `\xHH` as the
code point HH; a backslash before anything else stays, and so does the
character after it. Nothing that was decoded is looked at again.
-/
import Lockstep.Text.Hex

namespace Lockstep.Text.Escape

/-- What a one-letter escape stands for. -/
def simple? : Char → Option Char
  | '\\' => .some '\\'
  | 'n' => .some '\n'
  | 'r' => .some '\r'
  | 't' => .some '\t'
  | _ => .none

/-- The character two hexadecimal digits name. -/
def hexPair? (a b : Char) : Option Char := do
  let high ← hexValue? a
  let low ← hexValue? b
  return Char.ofNat (16 * high + low)

/-- Decodes every escape, from left to right. After `\x` two characters are taken, be they digits
or not; without two digits they stay as they are. -/
def decodeChars : List Char → List Char
  | '\\' :: 'x' :: a :: b :: rest =>
    match hexPair? a b with
    | .some c => c :: decodeChars rest
    | .none => '\\' :: 'x' :: a :: b :: decodeChars rest
  | '\\' :: 'x' :: rest => '\\' :: 'x' :: rest
  | '\\' :: c :: rest =>
    match simple? c with
    | .some d => d :: decodeChars rest
    | .none => '\\' :: c :: decodeChars rest
  | c :: rest => c :: decodeChars rest
  | [] => []

/-- Raw text with its escapes decoded. -/
def decode (raw : String) : String :=
  String.ofList (decodeChars raw.toList)

end Lockstep.Text.Escape
