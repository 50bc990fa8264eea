/-
What errors say tells them apart: the first three characters of a message show
whether it is about a source that cannot be read or about a template that cannot
be rendered (`opening_message`, `disjoint_openings`), but that groups nest too
deep is told alike in both. Printing leaves these characters as they are.
-/
import Lockstep.Proofs.Text.ControlSequence
import Lockstep.Render.Error

namespace Lockstep

open Text.ControlSequence (escape strip stripFrom strip_eq_self)

/-! ## How messages begin -/

/-- The first three characters of a message. -/
def opening (message : String) : List Char :=
  message.toList.take 3

theorem opening_append {text : String} (h : 3 ≤ text.length) (more : String) :
    opening (text ++ more) = opening text := by
  have hlength : 3 ≤ text.toList.length := by rwa [String.length_toList]
  rw [opening, String.toList_append, List.take_append_of_le_length hlength, opening]

/-- How messages about sources begin that cannot be read. -/
def readOpenings : List (List Char) :=
  [['D', 'a', 'n'], ['E', 'x', 'p'], ['U', 'n', 't'], ['T', 'e', 'm']]

/-- How messages about templates begin that cannot be rendered, but for groups that nest too
deep. -/
def renderOpenings : List (List Char) :=
  [['N', 'o', ' '], ['V', 'a', 'r'], ['Z', 'i', 'p'], ['A', 'l', 'i'], ['R', 'e', 'p'],
    ['U', 'n', 'k']]

theorem disjoint_openings : ∀ cs ∈ readOpenings, cs ∉ renderOpenings := by
  decide

theorem Excerpt.report_eq (reason : String) (position : Nat) (source : String) :
    ∃ more, report reason position source = reason ++ more := by
  unfold report
  simp only [String.append_assoc]
  split
  · exact ⟨_, rfl⟩
  · exact ⟨_, rfl⟩

theorem tooDeepMessage_eq (limit : Nat) : tooDeepMessage limit =
    "Template too deeply nested (limit is " ++ (toString limit ++ " groups)") :=
  String.append_assoc

theorem opening_tooDeepMessage (limit : Nat) : opening (tooDeepMessage limit) = ['T', 'e', 'm'] := by
  rw [tooDeepMessage_eq, opening_append (by decide)]
  decide

theorem ReadError.opening_message (e : ReadError) (source : String) :
    opening (e.message source) ∈ readOpenings := by
  cases e with
  | malformed what position =>
    obtain ⟨more, hmore⟩ := Excerpt.report_eq what.reason position source
    have hlength : 3 ≤ what.reason.length := by cases what <;> decide
    rw [message, hmore, opening_append hlength]
    cases what <;> decide
  | tooDeep limit =>
    rw [message, opening_tooDeepMessage]
    decide

theorem RenderError.opening_message (e : RenderError) (h : ∀ l, e ≠ .tooDeep l) :
    opening e.message ∈ renderOpenings := by
  have hbegins (text more : String) (hlength : 3 ≤ text.length)
      (hmem : opening text ∈ renderOpenings) : opening (text ++ more) ∈ renderOpenings := by
    rwa [opening_append hlength]
  cases e with
  | tooDeep l => exact absurd rfl (h l)
  | noLanes => decide
  | missing names => exact hbegins "No binding for " _ (by decide) (by decide)
  | unequal lengths =>
    exact hbegins "Zipped variables have different lengths: " _ (by decide) (by decide)
  | foreign kind => exact hbegins "Unknown node type: " _ (by decide) (by decide)
  | mismatch name expected actual =>
    have hmessage : (mismatch name expected actual).message = "Variable '" ++
        (name ++ ("' must be a " ++ (expected.name ++ (", got " ++ actual)))) := by
      simp only [← String.append_assoc]
      rfl
    rw [hmessage]
    exact hbegins "Variable '" _ (by decide) (by decide)
  | clash label name =>
    have hmessage : (clash label name).message = "Alias '" ++ (label ++ ("' for '" ++
        (name ++ "' clashes with another iterated variable in the same group"))) := by
      simp only [← String.append_assoc]
      rfl
    rw [hmessage]
    exact hbegins "Alias '" _ (by decide) (by decide)

/-! ## What is printed of them -/

theorem take_stripFrom {cs : List Char} {n : Nat} (h : escape ∉ cs.take n) :
    (stripFrom 0 cs).take n = cs.take n := by
  induction cs generalizing n with
  | nil => rfl
  | cons c cs ih =>
    cases n with
    | zero => rfl
    | succ n =>
      rw [List.take_succ_cons, List.mem_cons, not_or] at h
      have hc : c ≠ escape := fun hc => h.1 hc.symm
      simp [stripFrom, hc, ih h.2]

theorem opening_strip {message : String} (h : escape ∉ opening message) :
    opening (strip message) = opening message := by
  rw [opening, strip, String.toList_ofList, take_stripFrom h, opening]

/-- **What is printed of an error of reading is no error of rendering**, unless groups nest too
deep. -/
theorem strip_message_ne (e : ReadError) (source : String) {e' : RenderError}
    (h : ∀ l, e' ≠ .tooDeep l) : strip (e.message source) ≠ strip e'.message := by
  intro hsame
  have hread := e.opening_message source
  have hrender := e'.opening_message h
  have hno : (∀ cs ∈ readOpenings, escape ∉ cs) ∧ ∀ cs ∈ renderOpenings, escape ∉ cs := by decide
  have hopening := congrArg opening hsame
  rw [opening_strip (hno.1 _ hread), opening_strip (hno.2 _ hrender)] at hopening
  rw [hopening] at hread
  exact disjoint_openings _ hread hrender

theorem escape_not_mem_tooDeepMessage (limit : Nat) : escape ∉ (tooDeepMessage limit).toList := by
  have hdigits : escape ∉ (toString limit).toList := by
    intro h
    have hdigit : escape.isDigit = true := by
      refine Nat.isDigit_of_mem_toDigits (b := 10) (n := limit) (by decide) (by decide) ?_
      simpa [Nat.repr] using h
    exact absurd hdigit (by decide)
  have hbefore : escape ∉ "Template too deeply nested (limit is ".toList := by decide
  have hbehind : escape ∉ " groups)".toList := by decide
  rw [tooDeepMessage_eq, String.toList_append, String.toList_append, List.mem_append,
    List.mem_append]
  exact fun h => h.elim hbefore fun h => h.elim hdigits hbehind

/-- **That groups nest too deep is not printed like anything else**, nor like another limit. -/
theorem eq_tooDeep_of_strip {e : ReadError} {source : String} {limit : Nat}
    (h : strip (e.message source) = strip (tooDeepMessage limit)) : e = .tooDeep limit := by
  cases e with
  | malformed what position =>
    have hno : ∀ cs ∈ readOpenings, escape ∉ cs := by decide
    have hopening := congrArg opening h
    rw [opening_strip (hno _ (ReadError.opening_message _ source)), strip_eq_self
      (escape_not_mem_tooDeepMessage limit), opening_tooDeepMessage] at hopening
    obtain ⟨more, hmore⟩ := Excerpt.report_eq what.reason position source
    have hlength : 3 ≤ what.reason.length := by cases what <;> decide
    rw [ReadError.message, hmore, opening_append hlength] at hopening
    exact absurd hopening (by cases what <;> decide)
  | tooDeep limit' =>
    have hmessage : tooDeepMessage limit' = tooDeepMessage limit := by
      rw [← strip_eq_self (escape_not_mem_tooDeepMessage limit'),
        ← strip_eq_self (escape_not_mem_tooDeepMessage limit)]
      exact h
    rw [tooDeepMessage_eq, tooDeepMessage_eq, String.append_right_inj, String.append_left_inj]
      at hmessage
    have hdigits : Nat.toDigits 10 limit' = Nat.toDigits 10 limit := by
      rw [Nat.toString_eq_ofList_toDigits, Nat.toString_eq_ofList_toDigits] at hmessage
      simpa using congrArg String.toList hmessage
    rw [← Nat.ofDigitChars_ten_toDigits (n := limit'), hdigits, Nat.ofDigitChars_ten_toDigits]

end Lockstep
