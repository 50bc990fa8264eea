/-
The options that the command renders under. A switch comes before the variable
of the environment, and the variable before the standard; a variable that is
empty is none. `Governs` says so for each option, and the options of a request
are those that it allows (`options_eq_ok_iff`).
-/
import Lockstep.Command.Run
import Lockstep.Proofs.Options

namespace Lockstep.Command

/-- What a variable of the environment says, if it is set and not empty. -/
def environmentValue? (environment : String → Option String) (name : String) : Option String :=
  (environment name).filter (· ≠ "")

/-- **The options that a request and the environment allow.** -/
structure Governs (environment : String → Option String) (r : RenderRequest) (o : Options) :
    Prop where
  policy :
    if r.strict then o.lengthPolicy = .strict
    else
      match environmentValue? environment "EXTFMT_LENGTH_POLICY" with
      | .some s => String.ofList ((Text.trim s).toList.map Char.toLower) = o.lengthPolicy.name
      | .none => o.lengthPolicy = .truncate
  limit :
    match r.maxDepth with
    | .some l => o.maxDepth = l
    | .none =>
      match environmentValue? environment "EXTFMT_MAX_DEPTH" with
      | .some s => Decimal.readInteger (Text.trim s) = .ok (o.maxDepth.groups : Int)
      | .none => o.maxDepth = .standard

theorem fromVariable_eq (environment : String → Option String) (name : String) :
    Settings.fromVariable environment name = (environmentValue? environment name).map Text.trim := by
  unfold Settings.fromVariable environmentValue?
  cases environment name with
  | none => rfl
  | some s =>
    by_cases hs : s = ""
    · simp [hs, Option.filter]
    · simp [hs, Option.filter]

/-- A switch decides the length policy, or else the environment does, or nothing. -/
theorem policy_eq_ok {environment : String → Option String} {r : RenderRequest}
    {p : LengthPolicy} :
    Settings.checked .lengthPolicy Settings.policy .truncate
        ((Settings.given (if r.strict then .some (Value.text LengthPolicy.strict.name) else .none)).or
          ((Settings.fromVariable environment policyVariable).map fun s =>
            Value.text (String.ofList (s.toList.map Char.toLower)))) = .ok p ↔
      if r.strict then p = .strict
      else
        match environmentValue? environment "EXTFMT_LENGTH_POLICY" with
        | .some s => String.ofList ((Text.trim s).toList.map Char.toLower) = p.name
        | .none => p = .truncate := by
  rw [Settings.checked_eq_ok, fromVariable_eq, policyVariable]
  cases r.strict with
  | true =>
    simp only [Settings.given, if_true, Option.some_or, Settings.policy_text_eq_ok]
    cases p <;> decide
  | false =>
    cases environmentValue? environment "EXTFMT_LENGTH_POLICY" with
    | none => rfl
    | some s =>
      simp only [Settings.given, Bool.false_eq_true, if_false, Option.none_or, Option.map_some]
      exact Settings.policy_text_eq_ok

theorem limit_eq_ok {environment : String → Option String} {r : RenderRequest} {l : DepthLimit} :
    Settings.checked .maxDepth Settings.limit .standard
        ((Settings.given (r.maxDepth.map fun l => Value.int l.groups)).or
          ((Settings.fromVariable environment depthVariable).map Value.text)) = .ok l ↔
      match r.maxDepth with
      | .some l' => l = l'
      | .none =>
        match environmentValue? environment "EXTFMT_MAX_DEPTH" with
        | .some s => Decimal.readInteger (Text.trim s) = .ok (l.groups : Int)
        | .none => l = .standard := by
  rw [Settings.checked_eq_ok, fromVariable_eq, depthVariable]
  cases r.maxDepth with
  | some l' =>
    simp only [Settings.given, Option.map_some, Option.some_or, Settings.limit_int_eq_ok]
    obtain ⟨groups, _, _⟩ := l
    obtain ⟨groups', _, _⟩ := l'
    simp only [DepthLimit.mk.injEq]
    omega
  | none =>
    cases environmentValue? environment "EXTFMT_MAX_DEPTH" with
    | none => rfl
    | some s =>
      simp only [Settings.given, Option.map_none, Option.none_or, Option.map_some]
      exact Settings.limit_text_eq_ok

/-- **The options of a request** are those that it and the environment allow; there are none if the
environment says what is no option. -/
theorem options_eq_ok_iff {i : Inputs} {r : RenderRequest} {o : Options} :
    options i r = .ok o ↔ Governs i.environment r o := by
  have hoptions : options i r = .ok o ↔ Options.fromEnvironment i.environment
      (if r.strict then .some (Value.text LengthPolicy.strict.name) else .none)
      (r.maxDepth.map fun l => Value.int l.groups) = .ok o := by
    simp only [options]
    split
    · next h => rw [h, Except.ok.injEq, Except.ok.injEq]
    · next h => simp [h]
  rw [hoptions, Options.fromEnvironment, Options.ofSettings_eq_ok, policy_eq_ok, limit_eq_ok]
  exact ⟨fun h => ⟨h.1, h.2⟩, fun h => ⟨h.policy, h.limit⟩⟩

end Lockstep.Command
