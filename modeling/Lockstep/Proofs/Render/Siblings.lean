/-
Templates one behind the other (`render_append`). What a template binds for
what follows it could as well be bound by the environment: by the one behind
its references (`Plain.behind`), to which groups contribute nothing.

The scope that a template leaves behind has layers that the root of that
environment has not, but the two cannot be told apart by looking names up
(`Render.alike_behind`), and so renderings in them go along with each other.
-/
import Lockstep.Proofs.Render.Plain
import Lockstep.Proofs.Render.Simulation

namespace Lockstep

/-! ## What a template binds for what follows it -/

namespace Plain

/-- The environment behind a node: with what the node binds, if it is a reference that means
something, and otherwise as it was. -/
def after (ρ : Env) (n : Node) : Env :=
  match n.reference? with
  | .some r => ((ρ r.name).map (bindReference ρ r)).getD ρ
  | .none => ρ

/-- The environment behind nodes. -/
def behind (ρ : Env) (ns : List Node) : Env :=
  ns.foldl after ρ

/-- Behind a group the environment is as it was in front of it. -/
theorem behind_append_group (ρ : Env) (ns children : List Node) (sep : Option String) :
    behind ρ (ns ++ [.group children sep]) = behind ρ ns := by
  rw [behind, List.foldl_append]
  rfl

end Plain

namespace Render

variable {o : Options} {depth : Nat} {s s' : Scope} {ρ : Env} {ns : List Node} {text : String}

theorem alike_after (h : s.Alike (.root ρ)) (n : Node) :
    (after s n).Alike (.root (Plain.after ρ n)) := by
  unfold after Plain.after
  cases n.reference? with
  | none => exact h
  | some r =>
    dsimp only
    rw [h.lookup r.name, Scope.lookup_root]
    cases ρ r.name with
    | none => exact h
    | some v =>
      cases hr : r.bound with
      | none =>
        simp only [Option.map_some, Option.getD_some, Plain.bindReference, hr]
        rw [Scope.bindReference_eq_self hr]
        exact h
      | some a =>
        simp only [Option.map_some, Option.getD_some, Plain.bindReference, hr]
        rw [Scope.bindReference_eq_bind hr]
        exact h.bind_root fun m => rfl

/-- **The scope behind a template is like the root of the environment behind it.** -/
theorem alike_behind (h : s.Alike (.root ρ)) (hns : (nodes o ns depth s).outcome = .ok (text, s')) :
    s'.Alike (.root (Plain.behind ρ ns)) := by
  rw [scope_of_nodes hns]
  clear hns
  induction ns generalizing s ρ with
  | nil => exact h
  | cons n ns ih => exact ih (alike_after h n)

/-! ## Nodes behind others -/

/-- Nodes are rendered one list after the other. -/
theorem nodes_append (o : Options) (ns ms : List Node) (depth : Nat) (s : Scope) :
    nodes o (ns ++ ms) depth s = do
      let (text, s') ← nodes o ns depth s
      let (rest, s'') ← nodes o ms depth s'
      return (text ++ rest, s'') := by
  induction ns generalizing s with
  | nil =>
    rw [List.nil_append, nodes]
    simp
  | cons n ns ih =>
    rw [List.cons_append, nodes, nodes]
    simp only [ih, bind_assoc, pure_bind, String.append_assoc]

/-- The rest of a template is rendered in the environment behind what stands in front of it. -/
theorem renderTraced_append {front : List Node} {env : Env}
    (h : (nodes o front 0 (.root env)).outcome = .ok (text, s)) (rest : List Node) :
    renderTraced o (front ++ rest) env = do
      let text ← renderTraced o front env
      let text' ← renderTraced o rest (Plain.behind env front)
      return text ++ text' := by
  have hrest : (nodes o rest 0 s >>= fun p => pure p.1) =
      renderTraced o rest (Plain.behind env front) := by
    have htexts := (simulation_mapped id).texts_eq .refl o rest 0 (alike_behind (.refl _) h).mapped
    rw [Traced.mapError_id, Traced.mapError_id] at htexts
    exact htexts
  rw [renderTraced, nodes_append, renderTraced, bind_assoc, bind_assoc]
  refine Traced.bind_congr_of_ok fun p hp => ?_
  rw [h, Except.ok.injEq] at hp
  rw [← hp, ← hrest]
  simp only [bind_assoc, pure_bind]

theorem nodes_eq_ok_of_render {env : Env} (h : render o ns env = .ok text) :
    ∃ s, (nodes o ns 0 (.root env)).outcome = .ok (text, s) := by
  rw [render, renderTraced, Traced.outcome_bind_pure] at h
  obtain ⟨⟨t, s⟩, hs, rfl⟩ := map_eq_ok.mp h
  exact ⟨s, hs⟩

theorem render_append_of_ok {front : List Node} {env : Env} (h : render o front env = .ok text)
    (rest : List Node) :
    render o (front ++ rest) env =
      (render o rest (Plain.behind env front)).map (text ++ ·) := by
  obtain ⟨s, hs⟩ := nodes_eq_ok_of_render h
  have hfront : (renderTraced o front env).outcome = .ok text := h
  rw [render, renderTraced_append hs, Traced.outcome_bind, hfront]
  exact Traced.outcome_bind_pure _ _

end Render

/-- **Rendering composes over siblings.** If the front of a template fails, the template fails with
the same error. Otherwise it writes the text of the front and then what the rest writes in the
environment behind the front, or fails as the rest fails there; and the groups that leave elements
out are those of the front and then those of the rest. The environment behind the front binds what
names mean behind it. A group between the two changes nothing of what the rest writes, whatever it
binds inside. -/
theorem render_append (o : Options) (front rest : List Node) (env : Env) :
    (∀ e, render o front env = .error e → render o (front ++ rest) env = .error e) ∧
    (∀ text, render o front env = .ok text →
      (∃ s, (Render.nodes o front 0 (.root env)).outcome = .ok (text, s) ∧
        ∀ m, s.lookup m = Plain.behind env front m) ∧
      render o (front ++ rest) env =
        (render o rest (Plain.behind env front)).map (text ++ ·) ∧
      truncations o (front ++ rest) env =
        truncations o front env ++ truncations o rest (Plain.behind env front) ∧
      ∀ children sep inserted,
        render o [.group children sep] (Plain.behind env front) = .ok inserted →
        render o (front ++ .group children sep :: rest) env =
          (render o rest (Plain.behind env front)).map (text ++ inserted ++ ·)) := by
  refine ⟨fun e he => ?_, fun text htext => ?_⟩
  · have hnodes : (Render.nodes o front 0 (.root env)).outcome = .error e := by
      rw [render, renderTraced, Traced.outcome_bind_pure] at he
      exact map_eq_error.mp he
    rw [render, renderTraced, Render.nodes_append, Traced.outcome_bind, Traced.outcome_bind, hnodes]
    rfl
  · obtain ⟨s, hs⟩ := Render.nodes_eq_ok_of_render htext
    refine ⟨⟨s, hs, fun m => ?_⟩, Render.render_append_of_ok htext rest, ?_,
      fun children sep inserted hgroup => ?_⟩
    · have halike : s.Alike (.root (Plain.behind env front)) :=
        Render.alike_behind (.refl _) hs
      rw [halike.lookup m, Scope.lookup_root]
    · have hfront : (renderTraced o front env).outcome = .ok text := htext
      rw [truncations, Render.renderTraced_append hs, Traced.notes_bind_of_ok hfront,
        ← map_eq_pure_bind, Traced.notes_map, List.filter_append]
      rfl
    · have hboth : render o (front ++ [.group children sep]) env = .ok (text ++ inserted) := by
        rw [Render.render_append_of_ok htext, hgroup]
        rfl
      have hall := Render.render_append_of_ok hboth rest
      rw [Plain.behind_append_group, List.append_assoc] at hall
      exact hall

/-- A row that is read and labelled, and a group that binds the label again for itself: what stands
behind it reads the label of the row. A name that is missing in front ends all of it. -/
theorem render_append_row :
    let front : List Node := [.hidden ⟨"row", .some "x"⟩, .shown ⟨"unit", .some "u"⟩]
    let children : List Node := [.shown ⟨"xs", .some "x"⟩, .hidden ⟨"x", .some "u"⟩]
    let rest : List Node := [.group [.shown ⟨"x", .none⟩] .none, .shown ⟨"u", .none⟩]
    let env : Env := fun name =>
      if name = "row" then .some (.list [.text "1", .text "2"])
      else if name = "xs" then .some (.tuple [.text "a", .text "b"])
      else if name = "unit" then .some (.text "cm")
      else .none
    let env' := Plain.behind env front
    render {} front env = .ok "cm" ∧ render {} [.group children .none] env' = .ok "ab" ∧
      render {} rest env' = .ok "12cm" ∧ render {} (front ++ rest) env = .ok "cm12cm" ∧
      render {} (front ++ .group children .none :: rest) env = .ok "cmab12cm" ∧
      render {} [.shown ⟨"z", .none⟩] env = .error (.missing ["z"]) ∧
      render {} ([.shown ⟨"z", .none⟩] ++ rest) env = .error (.missing ["z"]) := by
  intro front children rest env env'
  have hfront : render {} front env = .ok "cm" := by rfl
  have hgroup : render {} [.group children .none] env' = .ok "ab" := by rfl
  have hrest : render {} rest env' = .ok "12cm" := by rfl
  have hmissing : render {} [.shown ⟨"z", .none⟩] env = .error (.missing ["z"]) := by rfl
  obtain ⟨-, hok⟩ := render_append {} front rest env
  obtain ⟨-, happend, -, hinsert⟩ := hok "cm" hfront
  obtain ⟨hfail, -⟩ := render_append {} [.shown ⟨"z", .none⟩] rest env
  refine ⟨hfront, hgroup, hrest, ?_, ?_, hmissing, hfail _ hmissing⟩
  · rw [happend, hrest]
    rfl
  · rw [hinsert children .none "ab" hgroup, hrest]
    rfl

end Lockstep
