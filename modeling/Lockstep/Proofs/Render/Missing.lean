/-
The analysis of free names is sound for rendering (`missing_is_free`): where
rendering misses a name, it misses one, which the environment does not bind
and the analysis finds.

The analysis goes through a template once, with a list of names it takes for
bound. The renderer has a scope instead, another one in each round. The scope
covers the list (`Covers`) if every name in it has an alias, and every alias
leads to a value. References and rounds of groups keep that up, so a name that
means nothing is not in the list, and the analysis has found it.
-/
import Lockstep.Proofs.Render.Outcome
import Lockstep.Proofs.Template.FreeNames

namespace Lockstep

/-- Every name taken for bound has an alias in the scope, and every alias leads to a value. -/
structure Covers (bound : List String) (s : Scope) : Prop where
  closed : s.Closed
  aliased : ∀ name ∈ bound, (s.alias? name).isSome = true

section

variable {o : Options} {bound names : List String} {depth i : Nat} {s s' : Scope} {m text : String}
  {n : Node} {ns children : List Node} {sep : Option String} {r : Reference} {lanes : List Lane}
  {cs : List Render.Column} {l : Lane}

/-! ## Covering scopes -/

/-- What is kept by a reference, with the name it binds, is kept by every node that is rendered. -/
theorem Render.after_of_bindReference {P : List String → Scope → Prop} (h : P bound s)
    (hbind : ∀ r v, P (r.bound.toList ++ bound) (s.bindReference r v))
    (hn : (Render.node o n depth s).outcome = .ok (text, s')) :
    P (FreeNames.boundAfter n bound) s' := by
  rw [Render.scope_of_node hn, FreeNames.boundAfter]
  cases hr : n.reference? with
  | none =>
    rw [Render.after_eq_self hr]
    exact h
  | some r =>
    obtain ⟨v, hv⟩ := Render.lookup_of_node hr hn
    rw [Render.after_eq_bindReference hr hv]
    exact hbind r v

namespace Covers

theorem root (env : Env) : Covers [] (.root env) :=
  ⟨Scope.Closed.root env, fun name hn => by cases hn⟩

/-- A name that means nothing is not bound, in the analysis or in the environment. -/
theorem not_bound (h : Covers bound s) (hm : s.lookup m = .none) :
    m ∉ bound ∧ s.env m = .none := by
  obtain ⟨ha, he⟩ := h.closed.of_lookup_eq_none hm
  refine ⟨fun hb => ?_, he⟩
  have hs := h.aliased m hb
  rw [ha] at hs
  cases hs

theorem bindReference (h : Covers bound s) (r : Reference) (v : Value) :
    Covers (r.bound.toList ++ bound) (s.bindReference r v) := by
  refine ⟨h.closed.bindReference r v, fun name hn => ?_⟩
  cases hr : r.bound with
  | none =>
    rw [hr] at hn
    rw [Scope.bindReference_eq_self hr]
    exact h.aliased name hn
  | some a =>
    rw [hr] at hn
    rw [Scope.bindReference_eq_bind hr, Scope.alias?_bind]
    split
    · rfl
    · next hne =>
      have hn : name ∈ bound := by simpa [hne] using hn
      exact h.aliased name hn

/-- A node that is rendered binds in the scope what it binds in the analysis. -/
theorem after (h : Covers bound s) (hn : (Render.node o n depth s).outcome = .ok (text, s')) :
    Covers (FreeNames.boundAfter n bound) s' :=
  Render.after_of_bindReference h h.bindReference hn

/-- **Every round of a group binds what the analysis takes for bound inside it.** -/
theorem round (h : Covers bound s) (hl : planLanes children (depth + 1 : Nat) = .ok lanes)
    (hcs : Render.columns s lanes = .ok cs) (hi : i < Render.shortest cs) :
    Covers (FreeNames.laneNames lanes ++ bound) (Render.roundScope s lanes cs i) := by
  have hp := Lanes.apart_of_planLanes hl
  refine ⟨Render.Closed.roundScope h.closed hp (Render.columns_lanes hcs) fun c hc =>
    Render.isSome_get?_of_lt_shortest hi hc, fun name hn => ?_⟩
  by_cases hm : ∃ l ∈ lanes, l.Means name
  · obtain ⟨l, hl, hm⟩ := hm
    rw [Render.alias?_roundScope_of_means hp hl hm]
    rfl
  · have hno : ∀ l ∈ lanes, ¬ l.Means name := fun l hl hlm => hm ⟨l, hl, hlm⟩
    rw [Render.alias?_roundScope_of_not hno]
    rcases List.mem_append.mp hn with hn | hn
    · exact absurd (FreeNames.mem_laneNames.mp hn) hm
    · exact h.aliased name hn

end Covers

/-! ## Missing names -/

namespace Render

/-- A reference misses its own name. -/
theorem missing_of_reference (hr : n.reference? = .some r)
    (h : (node o n depth s).outcome = .error (.missing names)) :
    names = [r.name] ∧ s.lookup r.name = .none := by
  have of_resolve : s.resolve r.name = .error (.missing names) →
      names = [r.name] ∧ s.lookup r.name = .none := by
    intro h
    obtain ⟨hv, he⟩ := Scope.resolve_eq_error.mp h
    cases he
    exact ⟨rfl, hv⟩
  cases n with
  | shown r' =>
    cases hr
    rw [outcome_shown] at h
    rcases bind_eq_error.mp h with h | ⟨v, -, h⟩
    · exact of_resolve h
    · split at h <;> cases h
  | hidden r' =>
    cases hr
    rw [outcome_hidden] at h
    exact of_resolve (map_eq_error.mp h)
  | literal text => cases hr
  | group children sep => cases hr
  | foreign kind => cases hr

/-- A column misses the name of its lane. -/
theorem missing_of_column (h : column s l = .error (.missing names)) :
    names = [l.name] ∧ s.lookup l.name = .none := by
  unfold column at h
  split at h
  · split at h <;> cases h
  · next e he =>
    cases h
    obtain ⟨hv, he⟩ := Scope.resolve_eq_error.mp he
    cases he
    exact ⟨rfl, hv⟩

/-- A group misses the name of a lane, or misses a name in a round. -/
theorem missing_of_group (h : (node o (.group children sep) depth s).outcome =
      .error (.missing names)) :
    ∃ lanes, planLanes children (depth + 1 : Nat) = .ok lanes ∧
      ((∃ l ∈ lanes, names = [l.name] ∧ s.lookup l.name = .none) ∨
      ∃ cs, columns s lanes = .ok cs ∧ ∃ i < shortest cs,
        (nodes o children (depth + 1) (roundScope s lanes cs i)).outcome =
          .error (.missing names)) := by
  rw [outcome_group] at h
  rcases groupText_eq_error (map_eq_error.mp h) with ⟨-, h⟩ | h | ⟨-, h⟩ | ⟨lanes, hl, h⟩
  · cases h
  · obtain ⟨label, name, he⟩ := Lanes.planFrom_eq_error h
    cases he
  · cases h
  · refine ⟨lanes, hl, ?_⟩
    rcases h with h | ⟨cs, hcs, h | ⟨-, -, i, hi, h, -⟩⟩
    · obtain ⟨l, hm, h⟩ := columns_eq_error h
      exact .inl ⟨l, hm, missing_of_column h⟩
    · cases h
    · rw [outcome_round] at h
      exact .inr ⟨cs, hcs, i, hi, map_eq_error.mp h⟩

/-- The names are one name, which the environment does not bind, and which the analysis finds. -/
def Foreseen (bound : List String) (ns : List Node) (env : Env) (names : List String) : Prop :=
  ∃ name, names = [name] ∧ env name = .none ∧
    ∀ found free, FreeNames.nodes ns bound found = .ok free → name ∈ free

/-- What is found behind a node is found with it. -/
theorem Foreseen.cons {env : Env} (h : Foreseen (FreeNames.boundAfter n bound) ns env names) :
    Foreseen bound (n :: ns) env names := by
  obtain ⟨name, hn, he, hfree⟩ := h
  refine ⟨name, hn, he, fun found free hf => ?_⟩
  obtain ⟨mid, -, hf⟩ := FreeNames.nodes_cons_eq_ok hf
  exact hfree mid free hf

/-- What is found in the children of a group, with its lanes bound, is found with the group. -/
theorem Foreseen.group {env : Env} (hl : planLanes children (depth + 1 : Nat) = .ok lanes)
    (h : Foreseen (FreeNames.laneNames lanes ++ bound) children env names) :
    Foreseen bound (.group children sep :: ns) env names := by
  obtain ⟨name, hn, he, hfree⟩ := h
  refine ⟨name, hn, he, fun found free hf => ?_⟩
  obtain ⟨mid, hg, hf⟩ := FreeNames.nodes_cons_eq_ok hf
  exact FreeNames.nodes_subset hf (hfree _ mid (FreeNames.group_eq_ok hl hg))

/-- What a reference misses is found, for nothing has bound it before. -/
theorem foreseen_reference (hc : Covers bound s) (hr : n.reference? = .some r)
    (h : (node o n depth s).outcome = .error (.missing names)) :
    Foreseen bound (n :: ns) s.env names := by
  obtain ⟨rfl, hv⟩ := missing_of_reference hr h
  obtain ⟨hb, he⟩ := hc.not_bound hv
  exact ⟨r.name, rfl, he, fun found free hf => FreeNames.mem_nodes_of_reference hr hb hf⟩

/-- **A missing name is found by the analysis**, by induction on the nodes. What is missing behind
the first node is missing in the scope the node leaves behind; what is missing in a group is the
name of a lane, or is missing in the scope of a round. -/
theorem missing_nodes (hc : Covers bound s)
    (h : (nodes o ns depth s).outcome = .error (.missing names)) :
    Foreseen bound ns s.env names := by
  induction ns using Node.listInduction generalizing bound depth s with
  | nil =>
    rw [outcome_nodes_nil] at h
    cases h
  | literal text ns ih =>
    rcases nodes_cons_eq_error h with h | ⟨text', s', hn, h⟩
    · rw [outcome_literal] at h
      cases h
    · rw [← env_of_node hn]
      exact (ih (hc.after hn) h).cons
  | shown r ns ih | hidden r ns ih =>
    rcases nodes_cons_eq_error h with h | ⟨text', s', hn, h⟩
    · exact foreseen_reference hc rfl h
    · rw [← env_of_node hn]
      exact (ih (hc.after hn) h).cons
  | group children sep ns ihc ih =>
    rcases nodes_cons_eq_error h with h | ⟨text', s', hn, h⟩
    · obtain ⟨lanes, hl, ⟨l, hm, rfl, hv⟩ | ⟨cs, hcs, i, hi, h⟩⟩ := missing_of_group h
      · obtain ⟨hb, he⟩ := hc.not_bound hv
        exact ⟨l.name, rfl, he, fun found free hf => FreeNames.mem_nodes_of_lane hl hm hb hf⟩
      · have hround := ihc (hc.round hl hcs hi) h
        rw [env_roundScope] at hround
        exact hround.group hl
    · rw [← env_of_node hn]
      exact (ih (hc.after hn) h).cons
  | foreign kind ns ih =>
    rcases nodes_cons_eq_error h with h | ⟨text', s', hn, h⟩
    · rw [outcome_foreign] at h
      cases h
    · rw [← env_of_node hn]
      exact (ih (hc.after hn) h).cons

end Render

end

/-! ## Soundness -/

/-- **The analysis of free names is sound.** Under all options and in every environment, rendering
misses at most one name; the environment does not bind it, and it is among the free names if there
are any. So a template whose bindings have been checked misses no name, in any group or round. -/
theorem missing_is_free (o : Options) (template : List Node) (env : Env) :
    (∀ names, render o template env = .error (.missing names) →
      ∃ name, names = [name] ∧ env name = .none ∧
        ∀ free, freeNames template = .ok free → name ∈ free) ∧
    (checkBindings template env = .ok () →
      ∀ names, render o template env ≠ .error (.missing names)) := by
  have hsound : ∀ names, render o template env = .error (.missing names) →
      ∃ name, names = [name] ∧ env name = .none ∧
        ∀ free, freeNames template = .ok free → name ∈ free := by
    intro names h
    rw [render, renderTraced, Traced.outcome_bind_pure] at h
    obtain ⟨name, hn, he, hfree⟩ := Render.missing_nodes (Covers.root env) (map_eq_error.mp h)
    exact ⟨name, hn, he, fun free hf => hfree [] free hf⟩
  refine ⟨hsound, fun hcheck names h => ?_⟩
  obtain ⟨name, -, he, hfree⟩ := hsound names h
  obtain ⟨free, hf, hall⟩ := checkBindings_eq_ok hcheck
  have hbound := hall name (hfree free hf)
  rw [he] at hbound
  cases hbound

/-- Missing names in a group inside a group, whose rows are the elements of the one around it: with
a binding for the unit missing, and with all bindings there. -/
theorem missing_is_free_rows :
    let rows : List Node := [.group [.hidden ⟨"rows", .some "row"⟩,
      .group [.shown ⟨"row", .some "cell"⟩, .shown ⟨"unit", .none⟩] .none] .none]
    let env : Env := fun name =>
      if name = "rows" then .some (.list [.list [.text "1", .text "2"]]) else .none
    let env' : Env := fun name =>
      if name = "unit" then .some (.tuple [.text "cm", .text "mm"]) else env name
    (∃ free, freeNames rows = .ok free ∧ render {} rows env = .error (.missing ["unit"]) ∧
      env "unit" = .none ∧ "unit" ∈ free) ∧
    checkBindings rows env' = .ok () ∧ ∀ names, render {} rows env' ≠ .error (.missing names) := by
  intro rows env env'
  have hfree : freeNames rows = .ok ["rows", "unit"] := by rfl
  have hmissing : render {} rows env = .error (.missing ["unit"]) := by rfl
  have hcheck : checkBindings rows env' = .ok () := by rfl
  obtain ⟨name, hn, he, hm⟩ := (missing_is_free {} rows env).1 _ hmissing
  obtain rfl : "unit" = name := by simpa using hn
  exact ⟨⟨_, hfree, hmissing, he, hm _ hfree⟩, hcheck, (missing_is_free {} rows env').2 hcheck⟩

end Lockstep
