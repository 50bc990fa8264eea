/-
Which options come of settings: each option of its own setting, a limit of the
number within its bounds, a policy of its name.
-/
import Lockstep.Options.Settings
import Lockstep.Proofs.Sequencing

namespace Lockstep

theorem LengthPolicy.ofName?_eq_some {name : String} {p : LengthPolicy} :
    LengthPolicy.ofName? name = .some p ↔ name = p.name := by
  constructor
  · intro h
    have hname := List.find?_some h
    exact (beq_iff_eq.mp hname).symm
  · rintro rfl
    cases p <;> decide

/-- The limits are the numbers within their bounds. -/
theorem DepthLimit.ofInt?_eq_some {n : Int} {l : DepthLimit} :
    DepthLimit.ofInt? n = .some l ↔ n = l.groups := by
  obtain ⟨groups, hpos, hle⟩ := l
  constructor
  · intro h
    unfold ofInt? at h
    split at h
    · simp only [Option.some.injEq, DepthLimit.mk.injEq] at h
      show n = groups
      omega
    · cases h
  · rintro rfl
    unfold ofInt?
    have hbounds : 1 ≤ (groups : Int) ∧ (groups : Int) ≤ deepestLimit := by omega
    rw [dif_pos hbounds]
    simp

namespace Settings

variable {s : String} {p : LengthPolicy} {l : DepthLimit} {n : Int}

theorem policy_text_eq_ok : policy (.text s) = .ok p ↔ s = p.name := by
  rw [← LengthPolicy.ofName?_eq_some]
  simp only [policy, text?, Option.bind_some]
  cases LengthPolicy.ofName? s <;> simp

theorem limit_int_eq_ok : limit (.int n) = .ok l ↔ n = l.groups := by
  rw [← DepthLimit.ofInt?_eq_some]
  simp only [limit, integer]
  cases DepthLimit.ofInt? n <;> simp

theorem spelled_eq_ok : spelled s = .ok n ↔ Decimal.readInteger s = .ok n :=
  mapError_eq_ok

theorem limit_text_eq_ok :
    limit (.text s) = .ok l ↔ Decimal.readInteger s = .ok (l.groups : Int) := by
  rw [← spelled_eq_ok]
  cases hspelled : spelled s with
  | error e => simp [limit, integer, hspelled]
  | ok n =>
    have hsame : limit (.text s) = limit (.int n) := by
      simp only [limit, integer, hspelled]
    rw [hsame, limit_int_eq_ok, Except.ok.injEq]

theorem checked_eq_ok {α : Type} {setting : Setting} {check : Value → Except Complaint α}
    {standard a : α} {v : Option Value} :
    checked setting check standard v = .ok a ↔
      match v with
      | .some v => check v = .ok a
      | .none => a = standard := by
  cases v with
  | none => simp [checked, eq_comm]
  | some v => exact mapError_eq_ok

end Settings

/-- Options come of settings just if each of them comes of its own. -/
theorem Options.ofSettings_eq_ok {policy limit : Option Value} {o : Options} :
    Options.ofSettings policy limit = .ok o ↔
      Settings.checked .lengthPolicy Settings.policy .truncate policy = .ok o.lengthPolicy ∧
      Settings.checked .maxDepth Settings.limit .standard limit = .ok o.maxDepth := by
  obtain ⟨lengthPolicy, maxDepth⟩ := o
  unfold Options.ofSettings
  simp only
  cases Settings.checked .lengthPolicy Settings.policy .truncate policy with
  | error c => cases Settings.checked .maxDepth Settings.limit .standard limit <;> simp
  | ok p => cases Settings.checked .maxDepth Settings.limit .standard limit <;> simp

end Lockstep
