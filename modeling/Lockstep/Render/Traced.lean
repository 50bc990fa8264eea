/-
Computations that may fail and take notes as they go. What was noted before a
failure stays noted.
-/

namespace Lockstep

/-- An outcome, and the notes taken on the way to it. -/
structure Traced (ν ε α : Type) where
  notes : List ν
  outcome : Except ε α

namespace Traced

variable {ν ε α β : Type}

protected def pure (a : α) : Traced ν ε α :=
  ⟨[], .ok a⟩

/-- Goes on with an outcome, unless it is a failure. -/
protected def bind (x : Traced ν ε α) (f : α → Traced ν ε β) : Traced ν ε β :=
  match x.outcome with
  | .ok a =>
    let y := f a
    ⟨x.notes ++ y.notes, y.outcome⟩
  | .error e => ⟨x.notes, .error e⟩

instance : Monad (Traced ν ε) where
  pure := Traced.pure
  bind := Traced.bind

/-- A failure. -/
def fail (e : ε) : Traced ν ε α :=
  ⟨[], .error e⟩

/-- Takes a note. -/
def note (n : ν) : Traced ν ε Unit :=
  ⟨[n], .ok ()⟩

/-- A computation that takes no notes. -/
def ofExcept (x : Except ε α) : Traced ν ε α :=
  ⟨[], x⟩

theorem bind_def (x : Traced ν ε α) (f : α → Traced ν ε β) : x >>= f = Traced.bind x f := rfl

theorem outcome_bind (x : Traced ν ε α) (f : α → Traced ν ε β) :
    (x >>= f).outcome = x.outcome.bind fun a => (f a).outcome := by
  rw [bind_def, Traced.bind]
  cases x.outcome <;> rfl

instance : LawfulMonad (Traced ν ε) :=
  LawfulMonad.mk'
    (Traced ν ε)
    (fun x => by
      obtain ⟨n, o⟩ := x
      cases o <;> simp [Functor.map, Traced.bind, Traced.pure])
    (fun a f => by
      simp [pure, Bind.bind, Traced.bind, Traced.pure])
    (fun x f g => by
      obtain ⟨n, o⟩ := x
      cases o with
      | error e => rfl
      | ok a =>
        simp only [Bind.bind, Traced.bind]
        cases h : (f a).outcome <;> simp [List.append_assoc])

end Traced

end Lockstep
