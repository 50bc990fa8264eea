/-
Renderings as wholes, with the notes they take. Two of them one after the
other take the notes of the first and, if it does not fail, then those of the
second (`Traced.notes_bind`). A group takes a note of itself and then the notes
of its rounds (`node_group`).
-/
import Lockstep.Proofs.Render.Outcome

namespace Lockstep

namespace Traced

variable {ν ε α β : Type}

@[simp] theorem notes_pure (a : α) : (pure a : Traced ν ε α).notes = [] := rfl

@[simp] theorem notes_fail (e : ε) : (fail e : Traced ν ε α).notes = [] := rfl

@[simp] theorem notes_ofExcept (x : Except ε α) : (ofExcept x : Traced ν ε α).notes = [] := rfl

theorem notes_bind_of_ok {x : Traced ν ε α} {a : α} (h : x.outcome = .ok a)
    (f : α → Traced ν ε β) : (x >>= f).notes = x.notes ++ (f a).notes := by
  rw [bind_def, Traced.bind, h]

theorem notes_bind_of_error {x : Traced ν ε α} {e : ε} (h : x.outcome = .error e)
    (f : α → Traced ν ε β) : (x >>= f).notes = x.notes := by
  rw [bind_def, Traced.bind, h]

/-- The first computation's notes are not lost. -/
theorem notes_subset_bind (x : Traced ν ε α) (f : α → Traced ν ε β) :
    x.notes ⊆ (x >>= f).notes := by
  cases h : x.outcome with
  | ok a =>
    rw [notes_bind_of_ok h]
    exact List.subset_append_left _ _
  | error e =>
    rw [notes_bind_of_error h]
    exact List.Subset.refl _

theorem outcome_map (f : α → β) (x : Traced ν ε α) : (f <$> x).outcome = x.outcome.map f := by
  rw [map_eq_pure_bind, outcome_bind_pure]

theorem notes_map (f : α → β) (x : Traced ν ε α) : (f <$> x).notes = x.notes := by
  rw [map_eq_pure_bind]
  cases h : x.outcome with
  | ok a => rw [notes_bind_of_ok h, notes_pure, List.append_nil]
  | error e => rw [notes_bind_of_error h]

/-- What comes second matters only where the first ends well. -/
theorem bind_congr_of_ok {x : Traced ν ε α} {f g : α → Traced ν ε β}
    (h : ∀ a, x.outcome = .ok a → f a = g a) : x >>= f = x >>= g := by
  rw [bind_def, bind_def, Traced.bind, Traced.bind]
  cases hx : x.outcome with
  | ok a =>
    dsimp only
    rw [h a hx]
  | error e => rfl

end Traced

namespace Render

/-- **A group, step by step**: nesting, lanes, columns and their lengths are looked at in this
order, and then the rounds follow. -/
theorem node_group (o : Options) (children : List Node) (sep : Option String) (depth : Nat)
    (s : Scope) :
    node o (.group children sep) depth s =
      if o.maxDepth.groups < depth + 1 then .fail (.tooDeep o.maxDepth.groups)
      else do
        let lanes ← .ofExcept (planLanes children (depth + 1 : Nat))
        if lanes.isEmpty then .fail .noLanes
        else do
          let cs ← .ofExcept (columns s lanes)
          let n ← count o.lengthPolicy cs
          let text ← rounds (sep.getD "") (round o children depth s lanes cs) 0 n
          return (text, s) := by
  rw [node]
  rfl

theorem ofExcept_columns_cons (s : Scope) (l : Lane) (lanes : List Lane) :
    (.ofExcept (columns s (l :: lanes)) : Rendering (List Column)) =
      .ofExcept (column s l) >>= fun c => (c :: ·) <$> .ofExcept (columns s lanes) := by
  rw [columns]
  cases column s l with
  | error e => rfl
  | ok c => cases columns s lanes <;> rfl

/-- Rounds that are the same one by one are the same together. -/
theorem rounds_congr {separator : String} {f g : Nat → Rendering String} {i n : Nat}
    (h : ∀ j, i ≤ j → j < i + n → f j = g j) :
    rounds separator f i n = rounds separator g i n := by
  induction n generalizing i with
  | zero => rfl
  | succ n ih =>
    have hfirst : f i = g i := h i (Nat.le_refl i) (by omega)
    cases n with
    | zero => rw [rounds, rounds, hfirst]
    | succ n =>
      rw [rounds, rounds, hfirst, ih fun j hj hj' => h j (by omega) (by omega)]

end Render

end Lockstep
