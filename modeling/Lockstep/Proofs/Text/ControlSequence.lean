/-
Which texts are printed as they are: those that hold no control sequence
(`strip_eq_self_iff`). What stands in front of the first escape character is
printed as it is anyway.
-/
import Lockstep.Text.ControlSequence

namespace Lockstep.Text.ControlSequence

variable {cs : List Char} {c : Char} {n : Nat}

/-! ## Where one begins -/

/-- The text goes on with a control sequence whose escape character stands in front of it. -/
def Continues (cs : List Char) : Prop :=
  ∃ parameters letter rest, cs = '[' :: (parameters ++ letter :: rest) ∧
    (∀ c ∈ parameters, isParameter c = true) ∧ letter.isAlpha = true

/-- Somewhere in the text stands a control sequence. -/
def Holds (cs : List Char) : Prop :=
  ∃ before rest, cs = before ++ escape :: rest ∧ Continues rest

/-- No letter is a parameter, so it is clear where the parameters end. -/
theorem isParameter_of_isAlpha (h : c.isAlpha = true) : isParameter c = false := by
  have hcase : c.isUpper = true ∨ c.isLower = true := Bool.or_eq_true_iff.mp h
  have hbounds : 65 ≤ c.toNat ∧ c.toNat ≤ 90 ∨ 97 ≤ c.toNat ∧ c.toNat ≤ 122 := by
    rcases hcase with hupper | hlower
    · have hboth : 'A'.val ≤ c.val ∧ c.val ≤ 'Z'.val := of_decide_eq_true hupper
      exact .inl ⟨UInt32.le_iff_toNat_le.mp hboth.1, UInt32.le_iff_toNat_le.mp hboth.2⟩
    · obtain ⟨ha, hz⟩ := Bool.and_eq_true_iff.mp hlower
      exact .inr ⟨UInt32.le_iff_toNat_le.mp (of_decide_eq_true ha),
        UInt32.le_iff_toNat_le.mp (of_decide_eq_true hz)⟩
  have hsemicolon : c ≠ ';' := by
    rintro rfl
    revert hbounds
    decide
  have hquestion : c ≠ '?' := by
    rintro rfl
    revert hbounds
    decide
  have hdigit : c.isDigit = false := by
    rw [Bool.eq_false_iff, ne_eq, Char.isDigit_iff_toNat]
    have h9 : '9'.toNat = 57 := rfl
    omega
  simp [isParameter, hdigit, hsemicolon, hquestion]

/-- What follows an escape character has the length of a control sequence just if there is one. -/
theorem isSome_restLength? : (restLength? cs).isSome = true ↔ Continues cs := by
  constructor
  · intro h
    unfold restLength? at h
    split at h
    · next cs =>
      split at h
      · next letter rest hrest =>
        split at h
        · next hletter =>
          refine ⟨cs.takeWhile isParameter, letter, rest, ?_, ?_, hletter⟩
          · rw [← hrest, List.takeWhile_append_dropWhile]
          · exact fun c hc => List.all_eq_true.mp List.all_takeWhile c hc
        · cases h
      · cases h
    · cases h
  · rintro ⟨parameters, letter, rest, rfl, hparameters, hletter⟩
    have hdrop : (parameters ++ letter :: rest).dropWhile isParameter = letter :: rest := by
      rw [List.dropWhile_append_of_pos hparameters,
        List.dropWhile_cons_of_neg (by simp [isParameter_of_isAlpha hletter])]
    simp [restLength?, hdrop, hletter]

/-- A control sequence stands at the beginning of a text, or behind its first character. -/
theorem holds_cons (c : Char) (cs : List Char) :
    Holds (c :: cs) ↔ (c = escape ∧ Continues cs) ∨ Holds cs := by
  constructor
  · rintro ⟨before, rest, h, hrest⟩
    cases before with
    | nil =>
      obtain ⟨rfl, rfl⟩ := List.cons.inj h
      exact .inl ⟨rfl, hrest⟩
    | cons d before =>
      obtain ⟨-, rfl⟩ := List.cons.inj h
      exact .inr ⟨before, rest, rfl, hrest⟩
  · rintro (⟨rfl, h⟩ | ⟨before, rest, rfl, hrest⟩)
    · exact ⟨[], cs, rfl, h⟩
    · exact ⟨c :: before, rest, rfl, hrest⟩

/-! ## Taking them out -/

theorem length_stripFrom (n : Nat) (cs : List Char) : (stripFrom n cs).length ≤ cs.length := by
  induction cs generalizing n with
  | nil => simp [stripFrom]
  | cons c cs ih =>
    cases n with
    | succ n =>
      have := ih n
      simp only [stripFrom, List.length_cons]
      omega
    | zero =>
      simp only [stripFrom]
      split
      · next n _ =>
        have := ih n
        simp only [List.length_cons]
        omega
      · have := ih 0
        simp only [List.length_cons]
        omega

/-- **A text stays as it is just if it holds no control sequence**: where there is one the text gets
shorter. -/
theorem stripFrom_eq_self_iff : stripFrom 0 cs = cs ↔ ¬ Holds cs := by
  induction cs with
  | nil =>
    have hno : ¬ Holds [] := by
      rintro ⟨before, rest, h, -⟩
      simp at h
    simp [stripFrom, hno]
  | cons c cs ih =>
    rw [holds_cons, not_or, ← ih, ← isSome_restLength?, stripFrom]
    split
    · next n hn =>
      have hbegins : c = escape ∧ (restLength? cs).isSome = true := by
        split at hn
        · next hc => exact ⟨hc, by rw [hn]; rfl⟩
        · cases hn
      constructor
      · intro h
        have hlength := congrArg List.length h
        have hle := length_stripFrom n cs
        simp only [List.length_cons] at hlength
        omega
      · intro h
        exact absurd hbegins h.1
    · next hn =>
      have hnot : ¬ (c = escape ∧ (restLength? cs).isSome = true) := by
        rintro ⟨hc, hsome⟩
        rw [if_pos hc] at hn
        rw [hn] at hsome
        cases hsome
      simp [hnot]

theorem strip_eq_self_iff {s : String} : strip s = s ↔ ¬ Holds s.toList := by
  rw [← stripFrom_eq_self_iff, ← String.toList_inj, strip, String.toList_ofList]

/-- What stands in front of the first escape character stays. -/
theorem strip_append {s : String} (h : escape ∉ s.toList) (t : String) :
    strip (s ++ t) = s ++ strip t := by
  have hchars : ∀ cs ds : List Char, escape ∉ cs → stripFrom 0 (cs ++ ds) = cs ++ stripFrom 0 ds := by
    intro cs ds hcs
    induction cs with
    | nil => rfl
    | cons c cs ih =>
      rw [List.mem_cons, not_or] at hcs
      have hc : c ≠ escape := fun hc => hcs.1 hc.symm
      simp [stripFrom, hc, ih hcs.2]
  rw [← String.toList_inj, strip, strip, String.toList_ofList, String.toList_append,
    String.toList_append, String.toList_ofList, hchars _ _ h]

end Lockstep.Text.ControlSequence
