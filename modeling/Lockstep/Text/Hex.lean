/-
Hexadecimal digits. `hexDigits` writes a number with a fixed count of digits
in lower case, `hexValue?` reads one digit of either case; a digit that was
written is read as what it stands for (`hexValue?_hexDigit`).
-/

namespace Lockstep.Text

/-- The digit for a number below sixteen. -/
def hexDigit (d : Nat) : Char :=
  if d < 10 then Char.ofNat (48 + d) else Char.ofNat (87 + d)

/-- The last `width` hexadecimal digits of a number, the most significant first. -/
def hexDigits : (width n : Nat) → List Char
  | 0, _ => []
  | width + 1, n => hexDigits width (n / 16) ++ [hexDigit (n % 16)]

/-- The value of a digit of either case. -/
def hexValue? (c : Char) : Option Nat :=
  if c.isDigit then .some (c.toNat - '0'.toNat)
  else if 'a' ≤ c ∧ c ≤ 'f' then .some (c.toNat - 'a'.toNat + 10)
  else if 'A' ≤ c ∧ c ≤ 'F' then .some (c.toNat - 'A'.toNat + 10)
  else .none

theorem mem_hexDigits {width n : Nat} {c : Char} (h : c ∈ hexDigits width n) :
    ∃ d < 16, c = hexDigit d := by
  induction width generalizing n with
  | zero => cases h
  | succ width ih =>
    rw [hexDigits, List.mem_append, List.mem_singleton] at h
    rcases h with h | rfl
    · exact ih h
    · exact ⟨_, Nat.mod_lt _ (by decide), rfl⟩

theorem hexValue?_hexDigit : ∀ d < 16, hexValue? (hexDigit d) = .some d := by decide

end Lockstep.Text
