/-
How rendering fails (`render_fails_told`). Every failure of a template with
nothing foreign in it is one of those that are told (`Render.Fails`): a name
that the environment does not bind, a value of the wrong shape, lengths that
are not equal, a group that lies too deep. A group without lanes, or with lanes
that clash, can be what fails only where rendering gets to it (`Render.Meets`).

A rendering that takes no precautions fails in the same way and in no other: no
element is missing, no lengths either, and what the environment offers is all
that is asked for.
-/
import Lockstep.Proofs.Render.Reach
import Lockstep.Proofs.Render.Unguarded
import Lockstep.Proofs.Template.Documents

namespace Lockstep

namespace Render

variable {o : Options} {aliases : Table String} {n : Node} {ns ns' children : List Node}
  {sep : Option String} {depth depth' i : Nat} {s s' : Scope} {lanes : List Lane} {cs : List Column}
  {l : Lane} {text : String} {e : RenderError}

/-! ## Groups that are met -/

/-- Rendering the nodes in the scope gets to a group with the children, at the depth inside it. -/
inductive Meets (o : Options) : List Node → Nat → Scope → List Node → Nat → Prop
  | here {body ns : List Node} {sep : Option String} {depth : Nat} {s : Scope} :
      Meets o (.group body sep :: ns) depth s body (depth + 1)
  | behind {n : Node} {ns body : List Node} {depth d : Nat} {s s' : Scope} {text : String} :
      (node o n depth s).outcome = .ok (text, s') → Meets o ns depth s' body d →
      Meets o (n :: ns) depth s body d
  | inside {children ns body : List Node} {sep : Option String} {depth d i : Nat} {s : Scope}
      {lanes : List Lane} {cs : List Column} :
      Begins o children depth s lanes cs i →
      Meets o children (depth + 1) (roundScope s lanes cs i) body d →
      Meets o (.group children sep :: ns) depth s body d

/-! ## Failures -/

/-- **How nodes can fail**: at a name that the environment does not bind, under the alias given for
it if there is one, at a value, at lengths or at a depth, or else at a group that has no lanes or
whose lanes clash. -/
inductive Fails (o : Options) (aliases : Table String) (ns : List Node) (depth : Nat) (s : Scope) :
    RenderError → Prop
  | missing (name : String) : s.env ((aliases.get? name).getD name) = .none →
      Fails o aliases ns depth s (.missing [name])
  | mismatch (name : String) (expected : Shape) (actual : String) :
      Fails o aliases ns depth s (.mismatch name expected actual)
  | unequal (lengths : List (String × Nat)) : Fails o aliases ns depth s (.unequal lengths)
  | tooDeep : Fails o aliases ns depth s (.tooDeep o.maxDepth.groups)
  | clash {body : List Node} {d : Nat} {label name : String} : Meets o ns depth s body d →
      planLanes body d = .error (.clash label name) → Fails o aliases ns depth s (.clash label name)
  | noLanes {body : List Node} {d : Nat} : Meets o ns depth s body d →
      planLanes body d = .ok [] → Fails o aliases ns depth s .noLanes

/-- Nodes fail in the ways of others, if rendering them gets to the groups of those. -/
theorem Fails.mono (h : Fails o aliases ns depth s e) (henv : s.env = s'.env)
    (hmeets : ∀ {body d}, Meets o ns depth s body d → Meets o ns' depth' s' body d) :
    Fails o aliases ns' depth' s' e := by
  cases h with
  | missing name hname => exact .missing name (henv ▸ hname)
  | mismatch name expected actual => exact .mismatch name expected actual
  | unequal lengths => exact .unequal lengths
  | tooDeep => exact .tooDeep
  | clash hm hplan => exact .clash (hmeets hm) hplan
  | noLanes hm hplan => exact .noLanes (hmeets hm) hplan

theorem Fails.behind (hn : (node o n depth s).outcome = .ok (text, s'))
    (h : Fails o aliases ns depth s' e) : Fails o aliases (n :: ns) depth s e :=
  h.mono (env_of_node hn) (.behind hn)

theorem Fails.inside (hb : Begins o children depth s lanes cs i)
    (h : Fails o aliases children (depth + 1) (roundScope s lanes cs i) e) :
    Fails o aliases (.group children sep :: ns) depth s e :=
  h.mono (env_roundScope s lanes cs i) (.inside hb)

theorem fails_of_resolve (hs : s.ClosedAbove aliases) {name : String}
    (h : s.resolve name = .error e) : Fails o aliases ns depth s e := by
  obtain ⟨hname, rfl⟩ := Scope.resolve_eq_error.mp h
  exact .missing name (hs.env_eq_none hname)

theorem fails_of_column (hs : s.ClosedAbove aliases) (h : column s l = .error e) :
    Fails o aliases ns depth s e := by
  unfold column at h
  split at h
  · split at h
    · cases h
    · cases h
      exact .mismatch _ _ _
  · next he =>
    cases h
    exact fails_of_resolve hs he

/-- A group fails in one of these ways, if its rounds do. -/
theorem fails_of_group (hs : s.ClosedAbove aliases)
    (h : (node o (.group children sep) depth s).outcome = .error e)
    (hround : ∀ {u}, u.ClosedAbove aliases → (nodes o children (depth + 1) u).outcome = .error e →
      Fails o aliases children (depth + 1) u e) :
    Fails o aliases (.group children sep :: ns) depth s e := by
  rw [outcome_group] at h
  rcases groupText_eq_error (map_eq_error.mp h) with ⟨-, rfl⟩ | hl | ⟨hl, rfl⟩ | ⟨lanes, hl, h⟩
  · exact .tooDeep
  · obtain ⟨label, name, rfl⟩ := Lanes.planFrom_eq_error hl
    exact .clash .here hl
  · exact .noLanes .here hl
  · rcases h with h | ⟨cs, hcs, rfl | ⟨hshallow, hn, i, hi, he, hbefore⟩⟩
    · obtain ⟨l, -, h⟩ := columns_eq_error h
      exact fails_of_column hs h
    · exact .unequal _
    -- The rounds before this one are rendered, so rendering gets to what it meets inside.
    · have hclosed : (roundScope s lanes cs i).ClosedAbove aliases :=
        ClosedAbove.roundScope hs (Lanes.apart_of_planLanes hl) (columns_lanes hcs) fun c hc =>
          isSome_get?_of_lt_shortest hi hc
      rw [outcome_round] at he
      exact .inside ⟨hshallow, hl, hcs, ⟨_, hn, hi⟩, hbefore⟩ (hround hclosed (map_eq_error.mp he))

/-- What is behind a node is above the same aliases. -/
theorem ClosedAbove.after (hs : s.ClosedAbove aliases)
    (hn : (node o n depth s).outcome = .ok (text, s')) : s'.ClosedAbove aliases :=
  of_node hs (fun r v _ => hs.bindReference r v) hn

/-- **Templates with nothing foreign in them fail in no other way**, by induction on the nodes. -/
theorem fails_of_nodes (hs : s.ClosedAbove aliases) (hproper : Node.areProper ns = true)
    (h : (nodes o ns depth s).outcome = .error e) : Fails o aliases ns depth s e := by
  induction ns using Node.listInduction generalizing depth s with
  | nil =>
    rw [outcome_nodes_nil] at h
    cases h
  | literal text ns ih =>
    rw [Node.areProper_literal] at hproper
    rcases nodes_cons_eq_error h with h | ⟨t, u, hn, h⟩
    · rw [outcome_literal] at h
      cases h
    · exact (ih (ClosedAbove.after hs hn) hproper h).behind hn
  | shown r ns ih =>
    rw [Node.areProper_shown] at hproper
    rcases nodes_cons_eq_error h with h | ⟨t, u, hn, h⟩
    · rw [outcome_shown] at h
      rcases bind_eq_error.mp h with h | ⟨v, -, h⟩
      · exact fails_of_resolve hs h
      · split at h
        · cases h
          exact .mismatch _ _ _
        · cases h
    · exact (ih (ClosedAbove.after hs hn) hproper h).behind hn
  | hidden r ns ih =>
    rw [Node.areProper_hidden] at hproper
    rcases nodes_cons_eq_error h with h | ⟨t, u, hn, h⟩
    · rw [outcome_hidden] at h
      exact fails_of_resolve hs (map_eq_error.mp h)
    · exact (ih (ClosedAbove.after hs hn) hproper h).behind hn
  | group children sep ns ihc ih =>
    rw [Node.areProper_group, Bool.and_eq_true] at hproper
    rcases nodes_cons_eq_error h with h | ⟨t, u, hn, h⟩
    · exact fails_of_group hs h fun hu h => ihc hu hproper.1 h
    · exact (ih (ClosedAbove.after hs hn) hproper.2 h).behind hn
  | foreign kind ns =>
    rw [Node.areProper_foreign] at hproper
    cases hproper

end Render

/-! ## Failures that are told -/

/-- **Rendering fails with errors that are told, and in no other way.** If the host has the length
of every sequence that is bound and the text of every scalar, at all depths, then rendering a
template without any precautions gives what rendering it with them gives: that a key is missing is
told as a name without a meaning, no element is out of range in any lane and round, the least and
the greatest length are always taken of some, and no length or text is wanting. What is told is a
missing name, which the environment does not bind, a mismatch, unequal lengths or a group too deep;
and that there are no lanes, or that they clash, is told only of a group that rendering gets to. -/
theorem render_fails_told (host : Host) (o : Options) (template : List Node) (env : Env)
    (aliases : Table String) (hproper : Node.areProper template = true)
    (hoffers : ∀ name v, env name = .some v → host.Offers v) :
    Unguarded.render host o template env aliases =
        (render o template env aliases).mapError .told ∧
      ∀ e, render o template env aliases = .error e →
        Render.Fails o aliases template 0 (.root env aliases) e := by
  refine ⟨?_, fun e he => ?_⟩
  · rw [Unguarded.render, render, renderTraced, Traced.outcome_bind_pure]
    exact Unguarded.map_told _ (Unguarded.nodes_eq (Unguarded.Offered.root hoffers aliases))
  · rw [render, renderTraced, Traced.outcome_bind_pure] at he
    exact Render.fails_of_nodes (.root env aliases) hproper (map_eq_error.mp he)

/-- Rows of a table with their names, of which there are less, on a host that counts no further than
63 bits. In the second template a group without lanes is met in the first round. -/
theorem render_fails_told_rows :
    let host : Host :=
      { length? := fun q => if q.length < 9223372036854775808 then .some q.length else .none
        text? := fun v => .some v.toText }
    let row : Node := .hidden ⟨"rows", .some "row"⟩
    let rows : List Node :=
      [.group [row, .group [.shown ⟨"row", .none⟩] (.some "+"), .shown ⟨"names", .none⟩]
        (.some ",")]
    let broken : List Node := [.group [row, .group [.literal "-"] .none] .none]
    let env : Env := fun name =>
      if name = "rows" then .some (.list [.tuple [.null, .text "x"], .range 4 6 1, .list []])
      else if name = "names" then .some (.queue [.text "a", .bool true])
      else .none
    Node.areProper rows = true ∧ Node.areProper broken = true ∧
      (∀ name v, env name = .some v → host.Offers v) ∧
      Unguarded.render host {} rows env = .ok "None+xa,4+5True" ∧
      Unguarded.render host {} broken env = .error (.told .noLanes) ∧
      Render.Fails {} ∅ broken 0 (.root env) .noLanes := by
  intro host row rows broken env
  have hscalar : ∀ v, v.sequence? = .none → host.Offers v := fun v hv => .scalar hv rfl
  have hoffers : ∀ name v, env name = .some v → host.Offers v := by
    intro name v hv
    simp only [env] at hv
    split at hv
    · cases hv
      refine .sequence rfl rfl fun x hx => ?_
      simp only [Sequence.toList, List.mem_cons, List.not_mem_nil, or_false] at hx
      rcases hx with rfl | rfl | rfl
      · refine .sequence rfl rfl fun y hy => hscalar y ?_
        simp only [Sequence.toList, List.mem_cons, List.not_mem_nil, or_false] at hy
        rcases hy with rfl | rfl <;> rfl
      · refine .sequence rfl rfl fun y hy => hscalar y ?_
        obtain ⟨i, -, rfl⟩ := List.mem_map.mp hy
        rfl
      · exact .sequence rfl rfl fun y hy => absurd hy List.not_mem_nil
    · split at hv
      · cases hv
        refine .sequence rfl rfl fun x hx => hscalar x ?_
        simp only [Sequence.toList, List.mem_cons, List.not_mem_nil, or_false] at hx
        rcases hx with rfl | rfl <;> rfl
      · cases hv
  have hrows : Node.areProper rows = true := by rfl
  have hbroken : Node.areProper broken = true := by rfl
  have htext : render {} rows env = .ok "None+xa,4+5True" := by rfl
  have herror : render {} broken env = .error .noLanes := by rfl
  obtain ⟨hsame, -⟩ := render_fails_told host {} rows env ∅ hrows hoffers
  obtain ⟨hsame', hfails⟩ := render_fails_told host {} broken env ∅ hbroken hoffers
  exact ⟨hrows, hbroken, hoffers, by rw [hsame, htext]; rfl, by rw [hsame', herror]; rfl,
    hfails _ herror⟩

end Lockstep
