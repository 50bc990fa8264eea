/-
What comes of decoding, one equation for each way raw text can begin. A
character that is no backslash stays; of a backslash and the character behind
it come one character or both, and what stands behind them is decoded as if
they were not there.
-/
import Lockstep.Text.Escape

namespace Lockstep.Text.Escape

variable {c d : Char}

@[simp] theorem decodeChars_nil : decodeChars [] = [] := by
  simp only [decodeChars]

theorem decodeChars_other (h : c ≠ '\\') (cs : List Char) :
    decodeChars (c :: cs) = c :: decodeChars cs := by
  simp [decodeChars, h]

/-- No digits stand behind a backslash and a letter that stands for a character. -/
theorem ne_of_simple? (h : simple? c = .some d) : c ≠ 'x' := by
  rintro rfl
  simp [simple?] at h

theorem decodeChars_simple (h : simple? c = .some d) (cs : List Char) :
    decodeChars ('\\' :: c :: cs) = d :: decodeChars cs := by
  simp [decodeChars, h, ne_of_simple? h]

theorem decodeChars_kept (h : simple? c = .none) (hx : c ≠ 'x') (cs : List Char) :
    decodeChars ('\\' :: c :: cs) = '\\' :: c :: decodeChars cs := by
  simp [decodeChars, h, hx]

theorem decodeChars_hex {a b : Char} (h : hexPair? a b = .some c) (cs : List Char) :
    decodeChars ('\\' :: 'x' :: a :: b :: cs) = c :: decodeChars cs := by
  simp [decodeChars, h]

theorem decodeChars_garbled {a b : Char} (h : hexPair? a b = .none) (cs : List Char) :
    decodeChars ('\\' :: 'x' :: a :: b :: cs) = '\\' :: 'x' :: a :: b :: decodeChars cs := by
  simp [decodeChars, h]

/-- Text without a backslash stays as it is. -/
theorem decodeChars_append_of_plain {cs : List Char} (h : '\\' ∉ cs) (ds : List Char) :
    decodeChars (cs ++ ds) = cs ++ decodeChars ds := by
  induction cs with
  | nil => rfl
  | cons c cs ih =>
    rw [List.mem_cons, not_or] at h
    have hc : c ≠ '\\' := fun hc => h.1 hc.symm
    rw [List.cons_append, decodeChars_other hc, ih h.2, List.cons_append]

end Lockstep.Text.Escape
