/-
Numbers written in digits are read as they were, as settings
(`readInteger_toString`) and in the digits of any script (`ofScript?_toString`):
there is nothing to tidy in the digits of a number, and they are not too long if
they are no more than the limit allows.
-/
import Mathlib.Data.List.TakeWhile
import Lockstep.Decimal.Script
import Lockstep.Proofs.Text.Pieces

namespace Lockstep.Decimal

/-! ## Digits -/

/-- A digit is none of the signs that are dropped around and between digits. -/
theorem ne_of_isDigit {c d : Char} (hc : c.isDigit = true) (hd : d.isDigit = false) : c ≠ d := by
  rintro rfl
  rw [hc] at hd
  cases hd

theorem isPadding_of_isDigit {c : Char} (hc : c.isDigit = true) : isPadding c = false := by
  simp only [Char.isDigit, Bool.and_eq_true, decide_eq_true_eq] at hc
  have hlow : 48 ≤ c.toNat := hc.1
  have hhigh : c.toNat ≤ 57 := hc.2
  simp [isPadding, Text.isBlank, Text.inRanges, Text.blankRanges]
  omega

/-- Only the digits of zero begin with one. -/
theorem toDigits_eq_zero_cons {n : Nat} {cs : List Char} (h : Nat.toDigits 10 n = '0' :: cs) :
    cs = [] := by
  induction n using Nat.strongRecOn generalizing cs with
  | ind n ih =>
    by_cases hn : n < 10
    · rw [Nat.toDigits_of_lt_base hn] at h
      exact (List.cons.inj h).2.symm
    · rw [Nat.toDigits_of_base_le (by decide) (by omega)] at h
      cases hfirst : Nat.toDigits 10 (n / 10) with
      | nil => exact absurd hfirst Nat.toDigits_ne_nil
      | cons c ds =>
        rw [hfirst, List.cons_append] at h
        obtain ⟨rfl, -⟩ := List.cons.inj h
        rw [ih (n / 10) (by omega) hfirst] at hfirst
        have hvalue := Nat.ofDigitChars_ten_toDigits (n := n / 10)
        rw [hfirst] at hvalue
        have hnone : n / 10 = 0 := hvalue.symm
        omega

section Tidying

variable {c : Char} {cs : List Char}

theorem trimWhile_digits (h : ∀ d ∈ cs, d.isDigit = true) : Text.trimWhile isPadding cs = cs := by
  have hkeep : ∀ ds : List Char, (∀ d ∈ ds, d.isDigit = true) → ds.dropWhile isPadding = ds := by
    intro ds hds
    cases ds with
    | nil => rfl
    | cons d ds =>
      have hd := isPadding_of_isDigit (hds d (List.mem_cons_self))
      rw [List.dropWhile_cons_of_neg (by simp [hd])]
  rw [Text.trimWhile, hkeep cs h, hkeep cs.reverse (fun d hd => h d (List.mem_reverse.mp hd)),
    List.reverse_reverse]

theorem dropPlus_digits (hc : c.isDigit = true) : dropPlus (c :: cs) = c :: cs := by
  have hplus : c ≠ '+' := ne_of_isDigit hc rfl
  unfold dropPlus
  split
  all_goals simp_all

theorem dropZeros_digits (hc : c.isDigit = true) (hzero : c = '0' → cs = []) :
    dropZeros (c :: cs) = .some (c :: cs) := by
  by_cases h : c = '0'
  · rw [hzero h, h]
    rfl
  · simp [dropZeros, h, hc]

theorem dropZeroFraction_digits (h : ∀ d ∈ cs, d.isDigit = true) : dropZeroFraction cs = cs := by
  have hdrop : cs.dropWhile (· != '.') = [] := by
    rw [List.dropWhile_eq_nil_iff]
    intro d hd
    exact bne_iff_ne.mpr (ne_of_isDigit (h d hd) rfl)
  rw [dropZeroFraction, hdrop]

theorem dropUnderscores_digits (h : ∀ d ∈ c :: cs, d.isDigit = true) :
    dropUnderscores (c :: cs) = .some (c :: cs) := by
  have hsplit : Text.split '_' (c :: cs) = [c :: cs] :=
    Text.split_of_not_mem fun hmem => ne_of_isDigit (h '_' hmem) (d := '_') rfl rfl
  simp [dropUnderscores, hsplit]

/-- There is nothing to tidy in digits, unless they begin with a zero too many. -/
theorem tidied?_digits (h : ∀ d ∈ c :: cs, d.isDigit = true) (hzero : c = '0' → cs = []) :
    tidied? (c :: cs) = .some (c :: cs) := by
  have hc := h c List.mem_cons_self
  simp [tidied?, trimWhile_digits h, dropPlus_digits hc, dropZeros_digits hc hzero,
    dropZeroFraction_digits h, dropUnderscores_digits h]

/-- Digits of one script are digits of some script. -/
theorem digit?_of_isDigit (hc : c.isDigit = true) : digit? c = .some (c.toNat - '0'.toNat) := by
  simp only [Char.isDigit, Bool.and_eq_true, decide_eq_true_eq] at hc
  have hlow : 48 ≤ c.toNat := hc.1
  have hhigh : c.toNat ≤ 57 := hc.2
  simp [digit?, zeros, hlow, hhigh]

theorem scriptDigits?_digits (h : ∀ d ∈ c :: cs, d.isDigit = true)
    (hlength : (c :: cs).length ≤ integerLimit) :
    scriptDigits? (c :: cs) = .some (digitsValue (c :: cs)) := by
  have hdigits : ∀ {ds : List Char}, (∀ d ∈ ds, d.isDigit = true) →
      ds.mapM digit? = .some (ds.map fun d => d.toNat - '0'.toNat) := by
    intro ds hds
    induction ds with
    | nil => rfl
    | cons d ds ih =>
      obtain ⟨hd, hrest⟩ := List.forall_mem_cons.mp hds
      simp [digit?_of_isDigit hd, ih hrest]
  have hfits : ¬ integerLimit < ((c :: cs).map fun d => d.toNat - '0'.toNat).length := by
    rw [List.length_map]
    exact Nat.not_lt.mpr hlength
  simp only [scriptDigits?, dropUnderscores_digits h, Option.bind_eq_bind, Option.bind_some,
    hdigits h, if_neg hfits, List.foldl_map, digitsValue]

end Tidying

/-! ## Numbers -/

/-- The digits of a number: there is one at least, all are digits, and they have its value. -/
theorem exists_digits (n : Nat) : ∃ c cs, Nat.toDigits 10 n = c :: cs ∧
    (toString n).toList = c :: cs ∧ (∀ d ∈ c :: cs, d.isDigit = true) ∧
    digitsValue (c :: cs) = n := by
  have hdigits : ∀ d ∈ Nat.toDigits 10 n, d.isDigit = true := fun d hd =>
    Nat.isDigit_of_mem_toDigits (by decide) (by decide) hd
  have hvalue : digitsValue (Nat.toDigits 10 n) = n := by
    rw [digitsValue, ← Nat.ofDigitChars_eq_foldl, Nat.ofDigitChars_ten_toDigits]
  have hchars : (toString n).toList = Nat.toDigits 10 n := by
    rw [Nat.toString_eq_ofList_toDigits, String.toList_ofList]
  cases hcs : Nat.toDigits 10 n with
  | nil => exact absurd hcs Nat.toDigits_ne_nil
  | cons c cs =>
    rw [hcs] at hdigits hvalue hchars
    exact ⟨c, cs, rfl, hchars, hdigits, hvalue⟩

section Reading

variable {n : Nat} (h : (Nat.toDigits 10 n).length ≤ integerLimit)
include h

/-- **A number is read from its digits**, if it has no more of them than the limit allows. -/
theorem readInteger_toString : readInteger (toString n) = .ok (n : Int) := by
  obtain ⟨c, cs, hcs, hchars, hdigits, hvalue⟩ := exists_digits n
  have hzero : ∀ ds, Nat.toDigits 10 n = '0' :: ds → ds = [] := fun ds => toDigits_eq_zero_cons
  rw [hcs] at h hzero
  rw [readInteger, hchars]
  have hminus : c ≠ '-' := ne_of_isDigit (hdigits c List.mem_cons_self) rfl
  have hshort : ((c :: cs).takeWhile Char.isDigit).length ≤ integerLimit :=
    (List.takeWhile_prefix _).length_le.trans h
  have hbounded : ((c :: cs).dropWhile (· == '0')).length ≤ integerLimit :=
    (List.dropWhile_suffix _).length_le.trans h
  have hfits : beginsOversized (c :: cs) = false := by
    unfold beginsOversized
    split
    next hparts =>
      split at hparts
      · next hsign => exact absurd (List.cons.inj hsign).1 hminus
      · cases hparts
        simp only [Nat.zero_add, Nat.not_lt.mpr hshort, decide_false, Bool.and_false]
  have hread : signedDigits? (c :: cs) = .some (n : Int) := by
    unfold signedDigits?
    split
    · next hsign => exact absurd (List.cons.inj hsign).1 hminus
    · simp [boundedDigits?, List.all_eq_true.mpr hdigits, Nat.not_lt.mpr hbounded, hvalue]
  rw [hfits, tidied?_digits hdigits (fun hz => hzero cs (by rw [hz])), Option.bind_some, hread]
  rfl

theorem integer?_toString : integer? (toString n) = .some (n : Int) := by
  rw [integer?, readInteger_toString h]
  rfl

theorem ofScript?_toString : ofScript? (toString n) = .some (n : Int) := by
  obtain ⟨c, cs, hcs, hchars, hdigits, hvalue⟩ := exists_digits n
  rw [hcs] at h
  have hc := hdigits c List.mem_cons_self
  have hminus : c ≠ '-' := ne_of_isDigit hc rfl
  have hplus : c ≠ '+' := ne_of_isDigit hc rfl
  rw [ofScript?, hchars, trimWhile_digits hdigits]
  split
  · next hsign => exact absurd (List.cons.inj hsign).1 hminus
  · next hsign => exact absurd (List.cons.inj hsign).1 hplus
  · rw [scriptDigits?_digits hdigits h, hvalue]
    rfl

end Reading

end Lockstep.Decimal
