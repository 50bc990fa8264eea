/-
The two length policies side by side. Under the strict one a rendering comes
to what it comes to under the other, as long as no group leaves elements out;
the first group that does so is where it fails, with the lengths of that group
(`strict_stops_at_truncation`).

The renderings are compared step by step: one heeds the notes of another
(`Traced.Heeds`) if it ends as the other does, or as the first note that is
refused says it has to. Steps that heed each other may be put one after the
other (`Heeds.congruence`), so the policies have to be compared only where they
are read, in `Render.count`.
-/
import Lockstep.Proofs.Render.Congruence

namespace Lockstep

namespace Traced

variable {ν ε α β : Type} {refusal : ν → Option ε} {x y : Traced ν ε α}

/-- What a computation comes to if it has to stop at the first note that is refused. -/
def heeding (refusal : ν → Option ε) (y : Traced ν ε α) : Except ε α :=
  match y.notes.findSome? refusal with
  | .some e => .error e
  | .none => y.outcome

/-- The first computation ends as the second would, stopped at its first note that is refused. -/
def Heeds (refusal : ν → Option ε) (x y : Traced ν ε α) : Prop :=
  x.outcome = y.heeding refusal

theorem heeding_of_refused {e : ε} (h : y.notes.findSome? refusal = .some e) :
    y.heeding refusal = .error e := by
  rw [heeding, h]

theorem heeding_of_none (h : y.notes.findSome? refusal = .none) :
    y.heeding refusal = y.outcome := by
  rw [heeding, h]

theorem Heeds.of_notes_eq_nil (h : x.notes = []) : Heeds refusal x x := by
  rw [Heeds, heeding_of_none (by rw [h, List.findSome?_nil])]

theorem Heeds.pure (a : α) : Heeds refusal (Pure.pure a : Traced ν ε α) (Pure.pure a) :=
  .of_notes_eq_nil (notes_pure a)

theorem Heeds.fail (e : ε) : Heeds refusal (Traced.fail e : Traced ν ε α) (Traced.fail e) :=
  .of_notes_eq_nil (notes_fail e)

/-- **A computation that heeds another goes on to heed it.** Either the first part has a refused
note, and both stop there; or it has none, and the notes of the second part decide. -/
theorem Heeds.bind {f g : α → Traced ν ε β} (h : Heeds refusal x y)
    (hfg : ∀ a, Heeds refusal (f a) (g a)) : Heeds refusal (x >>= f) (y >>= g) := by
  rw [Heeds] at h
  rw [Heeds, outcome_bind, h]
  cases hr : y.notes.findSome? refusal with
  | some e =>
    have hall : (y >>= g).notes.findSome? refusal = .some e := by
      cases hy : y.outcome with
      | ok a => rw [notes_bind_of_ok hy, List.findSome?_append, hr, Option.some_or]
      | error e' => rw [notes_bind_of_error hy, hr]
    rw [heeding_of_refused hr, heeding_of_refused hall]
    rfl
  | none =>
    rw [heeding_of_none hr]
    cases hy : y.outcome with
    | ok a =>
      have hnotes : (y >>= g).notes.findSome? refusal = (g a).notes.findSome? refusal := by
        rw [notes_bind_of_ok hy, List.findSome?_append, hr, Option.none_or]
      have hfga := hfg a
      rw [Heeds] at hfga
      rw [heeding, hnotes, outcome_bind, hy]
      exact hfga
    | error e' =>
      have hnotes : (y >>= g).notes.findSome? refusal = .none := by
        rw [notes_bind_of_error hy, hr]
      rw [heeding_of_none hnotes, outcome_bind, hy]
      rfl

theorem Heeds.congruence (refusal : ν → Option ε) : Congruence (Heeds refusal) :=
  ⟨Heeds.pure, Heeds.fail, Heeds.bind⟩

end Traced

namespace Render

open Traced (Heeds)

variable {limit : DepthLimit}

/-- Why the strict policy refuses a group: because it leaves elements out. -/
def refusal (z : Zip) : Option RenderError :=
  if z.isUneven then .some (.unequal z.lengths) else .none

/-- Where the policies are read: the strict one refuses what the other takes a note of. -/
theorem heeds_count (cs : List Column) :
    Heeds refusal (count .strict cs) (count .truncate cs) := by
  cases hu : (zip cs).isUneven <;>
    simp [Heeds, Traced.heeding, count, Traced.bind_def, Traced.bind, Traced.note, refusal, hu]

/-- **The strict policy heeds the other**, for they differ at the lengths alone. -/
theorem heeds_nodes (ns : List Node) (depth : Nat) (s : Scope) :
    Heeds refusal (nodes ⟨.strict, limit⟩ ns depth s) (nodes ⟨.truncate, limit⟩ ns depth s) := by
  refine related_nodes (Heeds.congruence refusal) (fun depth x y h => ?_) heeds_count ns depth s
  split
  · exact .fail _
  · exact h

/-- The first note that is refused is that of the first group that leaves elements out. -/
theorem findSome?_refusal (notes : List Zip) :
    notes.findSome? refusal =
      (notes.filter Zip.isUneven).head?.map fun z => .unequal z.lengths := by
  induction notes with
  | nil => rfl
  | cons z notes ih =>
    cases hu : z.isUneven with
    | true => simp [refusal, hu]
    | false => simp [refusal, hu, ih]

end Render

/-! ## The policies -/

/-- **The strict policy differs from the other exactly at the first truncation.** If no group leaves
elements out, up to where the rendering ends, the strict policy gives the same text or the same
error. Otherwise it complains of the lengths of the first group that does, whatever comes behind it.
So a text under the strict policy is the text under the other. -/
theorem strict_stops_at_truncation (limit : DepthLimit) (template : List Node) (env : Env)
    (aliases : Table String) :
    let truncate : Options := ⟨.truncate, limit⟩
    let strict : Options := ⟨.strict, limit⟩
    (truncations truncate template env aliases = [] →
      render strict template env aliases = render truncate template env aliases) ∧
    (∀ z zs, truncations truncate template env aliases = z :: zs →
      render strict template env aliases = .error (.unequal z.lengths)) ∧
    (∀ text, render strict template env aliases = .ok text →
      render truncate template env aliases = .ok text) := by
  intro truncate strict
  have hheeds : Traced.Heeds Render.refusal (renderTraced strict template env aliases)
      (renderTraced truncate template env aliases) :=
    (Render.heeds_nodes template 0 (.root env aliases)).bind fun p => .pure p.1
  have hrefused : (renderTraced truncate template env aliases).notes.findSome? Render.refusal =
      (truncations truncate template env aliases).head?.map fun z => .unequal z.lengths :=
    Render.findSome?_refusal _
  have hnone (h : truncations truncate template env aliases = []) :
      render strict template env aliases = render truncate template env aliases := by
    rw [h] at hrefused
    rw [render, hheeds, Traced.heeding_of_none hrefused]
    rfl
  have hsome (z : Zip) (zs : List Zip)
      (h : truncations truncate template env aliases = z :: zs) :
      render strict template env aliases = .error (.unequal z.lengths) := by
    rw [h] at hrefused
    rw [render, hheeds, Traced.heeding_of_refused hrefused]
  refine ⟨hnone, hsome, fun text htext => ?_⟩
  cases ht : truncations truncate template env aliases with
  | nil => rw [← hnone ht, htext]
  | cons z zs =>
    rw [hsome z zs ht] at htext
    cases htext

/-- Two columns in front of a name: the shorter one ends the group before the name is missing, and
under the strict policy ends the rendering. With columns of one length there is no difference. -/
theorem strict_stops_at_truncation_columns :
    let template : List Node :=
      [.group [.shown ⟨"xs", .none⟩, .shown ⟨"ys", .none⟩] (.some ","), .shown ⟨"z", .none⟩]
    let uneven : Env := fun name =>
      if name = "xs" then .some (.list [.text "1", .text "2"])
      else if name = "ys" then .some (.list [.text "3"])
      else .none
    let even : Env := fun name =>
      if name = "xs" ∨ name = "ys" then .some (.list [.text "1", .text "2"])
      else if name = "z" then .some (.text ".")
      else .none
    let truncate : Options := ⟨.truncate, .standard⟩
    let strict : Options := ⟨.strict, .standard⟩
    truncations truncate template uneven = [⟨1, [("xs", 2), ("ys", 1)]⟩] ∧
      render truncate template uneven = .error (.missing ["z"]) ∧
      render strict template uneven = .error (.unequal [("xs", 2), ("ys", 1)]) ∧
      truncations truncate template even = [] ∧ render strict template even = .ok "11,22." ∧
      render truncate template even = .ok "11,22." := by
  intro template uneven even truncate strict
  have huneven : truncations truncate template uneven = [⟨1, [("xs", 2), ("ys", 1)]⟩] := by
    decide +kernel
  have heven : truncations truncate template even = [] := by decide +kernel
  have htext : render truncate template even = .ok "11,22." := by rfl
  obtain ⟨-, hsome, -⟩ := strict_stops_at_truncation .standard template uneven ∅
  obtain ⟨hnone, -, hok⟩ := strict_stops_at_truncation .standard template even ∅
  have hstrict : render strict template even = .ok "11,22." := (hnone heven).trans htext
  exact ⟨huneven, by rfl, hsome _ _ huneven, heven, hstrict, hok _ hstrict⟩

end Lockstep
