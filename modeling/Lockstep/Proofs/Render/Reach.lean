/-
Where rendering gets to: the nodes that are still to be rendered, the depth of
the groups around them, and the scope at hand (`Render.Reaches`). It begins
with the whole template at the root, goes past a node that is rendered, and
enters a group at each of its rounds, if the rounds before are rendered too
(`Render.Begins`).

What fails in a place that is reached fails the whole rendering
(`Reaches.error`), and the references of such a place are among those of the
template (`Reaches.references_subset`).
-/
import Lockstep.Proofs.Render.Outcome

namespace Lockstep.Render

variable {o : Options} {template ns pre post children : List Node} {env : Env} {depth i : Nat}
  {s s' u w : Scope} {lanes : List Lane} {cs : List Column} {n : Node} {sep : Option String}
  {text : String} {e : RenderError}

/-! ## Scopes left behind -/

/-- The nodes are rendered in one scope, and leave the other one behind. -/
def Leaves (o : Options) (ns : List Node) (depth : Nat) (s u : Scope) : Prop :=
  ∃ text, (nodes o ns depth s).outcome = .ok (text, u)

namespace Leaves

theorem nil_iff : Leaves o [] depth s u ↔ u = s := by
  unfold Leaves
  rw [outcome_nodes_nil]
  constructor
  · rintro ⟨text, h⟩
    cases h
    rfl
  · rintro rfl
    exact ⟨"", rfl⟩

theorem cons_iff : Leaves o (n :: ns) depth s u ↔
    ∃ text w, (node o n depth s).outcome = .ok (text, w) ∧ Leaves o ns depth w u := by
  unfold Leaves
  rw [outcome_nodes_cons]
  constructor
  · rintro ⟨text, h⟩
    obtain ⟨⟨t, w⟩, hn, h⟩ := bind_eq_ok.mp h
    obtain ⟨⟨t', u'⟩, hns, h⟩ := map_eq_ok.mp h
    cases h
    exact ⟨t, w, hn, t', hns⟩
  · rintro ⟨t, w, hn, t', hns⟩
    rw [hn]
    refine ⟨t ++ t', ?_⟩
    simp only [Except.bind, hns, Except.map]

/-- No more than one scope is left behind. -/
theorem unique (h : Leaves o ns depth s u) (h' : Leaves o ns depth s w) : u = w := by
  obtain ⟨text, h⟩ := h
  obtain ⟨text', h'⟩ := h'
  rw [h] at h'
  cases h'
  rfl

end Leaves

/-! ## Places that are reached -/

/-- Round `i` of a group over the columns begins: the group may be rendered and repeats more often
than `i` times, and its rounds before `i` are rendered. -/
structure Begins (o : Options) (children : List Node) (depth : Nat) (s : Scope) (lanes : List Lane)
    (cs : List Column) (i : Nat) : Prop where
  shallow : depth + 1 ≤ o.maxDepth.groups
  plan : planLanes children (depth + 1 : Nat) = .ok lanes
  columns : columns s lanes = .ok cs
  count : ∃ n, (count o.lengthPolicy cs).outcome = .ok n ∧ i < n
  earlier : ∀ j < i, ∃ text, (round o children depth s lanes cs j).outcome = .ok text

theorem Begins.lt_shortest (h : Begins o children depth s lanes cs i) : i < shortest cs := by
  obtain ⟨n, hn, hi⟩ := h.count
  exact shortest_of_count hn ▸ hi

/-- Rendering the template in the environment gets to the nodes at the depth, in the scope. -/
inductive Reaches (o : Options) (template : List Node) (env : Env) :
    List Node → Nat → Scope → Prop
  | start : Reaches o template env template 0 (.root env)
  | past {n : Node} {ns : List Node} {depth : Nat} {s s' : Scope} {text : String} :
      Reaches o template env (n :: ns) depth s → (node o n depth s).outcome = .ok (text, s') →
      Reaches o template env ns depth s'
  | enter {children ns : List Node} {sep : Option String} {depth i : Nat} {s : Scope}
      {lanes : List Lane} {cs : List Column} :
      Reaches o template env (.group children sep :: ns) depth s →
      Begins o children depth s lanes cs i →
      Reaches o template env children (depth + 1) (roundScope s lanes cs i)

namespace Reaches

/-- Rendering gets past nodes that are rendered. -/
theorem behind (h : Reaches o template env (pre ++ post) depth s) (hpre : Leaves o pre depth s u) :
    Reaches o template env post depth u := by
  induction pre generalizing s with
  | nil =>
    rw [Leaves.nil_iff.mp hpre]
    exact h
  | cons n pre ih =>
    obtain ⟨text, w, hn, hpre⟩ := Leaves.cons_iff.mp hpre
    exact ih (h.past hn) hpre

theorem references_subset (h : Reaches o template env ns depth s) :
    Node.references ns ⊆ Node.references template := by
  induction h with
  | start => exact List.Subset.refl _
  | past _ _ ih => exact List.Subset.trans (Node.references_subset_tail _ _) ih
  | enter _ _ ih => exact List.Subset.trans (Node.references_subset_children _ _ _) ih

/-- A group fails where one of its rounds fails, the rounds before being rendered. -/
theorem group_of_round (hb : Begins o children depth s lanes cs i)
    (he : (round o children depth s lanes cs i).outcome = .error e) :
    (node o (.group children sep) depth s).outcome = .error e := by
  obtain ⟨n, hn, hi⟩ := hb.count
  have hlanes : lanes.isEmpty = false := by
    cases lanes with
    | nil =>
      have hcs : cs = [] := by simpa using columns_lanes hb.columns
      have hlt := hb.lt_shortest
      rw [hcs] at hlt
      exact absurd hlt (Nat.not_lt_zero i)
    | cons l lanes => rfl
  rw [outcome_group, groupText, if_neg (Nat.not_lt.mpr hb.shallow), hb.plan]
  simp only [Except.bind, hlanes, hb.columns, hn, Bool.false_eq_true, if_false]
  rw [mapM_range_eq_error hi hb.earlier he]
  rfl

/-- **What fails where rendering gets to is what comes of rendering.** -/
theorem error (h : Reaches o template env ns depth s)
    (he : (nodes o ns depth s).outcome = .error e) : render o template env = .error e := by
  induction h with
  | start =>
    rw [render, renderTraced, Traced.outcome_bind_pure, he]
    rfl
  | past _ hn ih =>
    apply ih
    rw [outcome_nodes_cons, hn]
    simp only [Except.bind, he, Except.map]
  | @enter children ns sep depth i s lanes cs _ hb ih =>
    apply ih
    have hround : (round o children depth s lanes cs i).outcome = .error e := by
      rw [outcome_round, he]
      rfl
    rw [outcome_nodes_cons, group_of_round hb hround]
    rfl

end Reaches

end Lockstep.Render
