/-
Bytes as text. `Utf8.decode` reads bytes as UTF-8 and puts `.none` in the
place of every byte that is no part of a character; `Utf8.text?` is the text
of bytes that hold none of those.
-/

namespace Lockstep.Text.Utf8

/-- A byte that goes on with a character. -/
def isTail (b : UInt8) : Bool :=
  0x80 ≤ b && b ≤ 0xbf

/-- The six bits such a byte carries. -/
def tailBits (b : UInt8) : Nat :=
  b.toNat % 64

/-- The character of two bytes. Those below `c2` would spell an ASCII character at length. -/
def two? (a b : UInt8) : Option Char :=
  if 0xc2 ≤ a && a ≤ 0xdf && isTail b then
    .some (Char.ofNat (a.toNat % 32 * 64 + tailBits b))
  else .none

/-- The character of three bytes, unless it is spelled at length or half of a pair. -/
def three? (a b c : UInt8) : Option Char :=
  let n := a.toNat % 16 * 4096 + tailBits b * 64 + tailBits c
  if 0xe0 ≤ a && a ≤ 0xef && isTail b && isTail c && 0x800 ≤ n && !(0xd800 ≤ n && n ≤ 0xdfff) then
    .some (Char.ofNat n)
  else .none

/-- The character of four bytes, unless it is spelled at length or out of range. -/
def four? (a b c d : UInt8) : Option Char :=
  let n := a.toNat % 8 * 262144 + tailBits b * 4096 + tailBits c * 64 + tailBits d
  if 0xf0 ≤ a && a ≤ 0xf4 && isTail b && isTail c && isTail d && 0x10000 ≤ n && n ≤ 0x10ffff then
    .some (Char.ofNat n)
  else .none

/-- The characters of bytes; `skip` bytes belong to the character before them. -/
def decodeFrom : (skip : Nat) → List UInt8 → List (Option Char)
  | _, [] => []
  | skip + 1, _ :: bs => decodeFrom skip bs
  | 0, a :: bs =>
    if a < 0x80 then .some (Char.ofNat a.toNat) :: decodeFrom 0 bs
    else
      match bs[0]?.bind (two? a ·) with
      | .some c => .some c :: decodeFrom 1 bs
      | .none =>
        match bs[0]?.bind fun b => bs[1]?.bind fun c => three? a b c with
        | .some c => .some c :: decodeFrom 2 bs
        | .none =>
          match bs[0]?.bind fun b => bs[1]?.bind fun c => bs[2]?.bind fun d => four? a b c d with
          | .some c => .some c :: decodeFrom 3 bs
          | .none => .none :: decodeFrom 0 bs

/-- The characters of bytes, and `.none` for each byte that belongs to none. -/
def decode (bs : List UInt8) : List (Option Char) :=
  decodeFrom 0 bs

/-- The text of bytes that are UTF-8 throughout. -/
def text? (bs : List UInt8) : Option String :=
  ((decode bs).mapM id).map String.ofList

end Lockstep.Text.Utf8
