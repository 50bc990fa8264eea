/-
Rendering reads its environment at the free names of the template and nowhere
else (`render_eq_of_free`).

Of two renderings in environments that agree there, one goes on in the same
layers as the other. In a closed scope an alias leads to a value that a layer
keeps, so the environment is read at a name without an alias alone. Names that
are bound in front have an alias (`Covers`); all others that are read are free.
-/
import Lockstep.Proofs.Render.Missing
import Lockstep.Proofs.Render.Notes

namespace Lockstep

namespace Scope

variable {s : Scope} {m : String} {env : Env}

/-- The same layers above another environment. -/
def withEnv (s : Scope) (env : Env) : Scope :=
  { s with env }

@[simp] theorem alias?_withEnv (s : Scope) (env : Env) (m : String) :
    (s.withEnv env).alias? m = s.alias? m := rfl

@[simp] theorem stored?_withEnv (s : Scope) (env : Env) (m : String) :
    (s.withEnv env).stored? m = s.stored? m := rfl

theorem bindReference_withEnv (s : Scope) (env : Env) (r : Reference) (v : Value) :
    (s.withEnv env).bindReference r v = (s.bindReference r v).withEnv env := by
  cases h : r.bound with
  | none => rw [bindReference_eq_self h, bindReference_eq_self h]
  | some a =>
    rw [bindReference_eq_bind h, bindReference_eq_bind h]
    rfl

/-- In a closed scope a name means the same above another environment, unless it has no alias and
the environments differ at it. -/
theorem Closed.lookup_withEnv (h : s.Closed) (hm : s.alias? m = .none → s.env m = env m) :
    (s.withEnv env).lookup m = s.lookup m := by
  rw [lookup_eq, lookup_eq, keyFor_eq, keyFor_eq, valueAt_eq, valueAt_eq, alias?_withEnv,
    stored?_withEnv]
  cases ha : s.alias? m with
  | none =>
    have he : (s.withEnv env).env m = s.env m := (hm ha).symm
    rw [Option.getD_none, he]
  | some k =>
    obtain ⟨v, hv⟩ := Option.isSome_iff_exists.mp (h m k ha)
    rw [Option.getD_some, hv, Option.some_or, Option.some_or]

end Scope

/-- A name means the same above another environment, unless it is not bound in front and the
environments differ at it. -/
theorem Covers.lookup_withEnv {bound : List String} {s : Scope} {m : String} {env : Env}
    (hc : Covers bound s) (hm : m ∉ bound → s.env m = env m) :
    (s.withEnv env).lookup m = s.lookup m := by
  refine hc.closed.lookup_withEnv fun ha => hm fun hb => ?_
  have hsome := hc.aliased m hb
  rw [ha] at hsome
  cases hsome

namespace Render

variable {o : Options} {bound : List String} {depth : Nat} {s : Scope} {env : Env} {n : Node}
  {ns children : List Node} {sep : Option String} {lanes : List Lane}

/-! ## Scopes above another environment -/

theorem setElement_withEnv (s : Scope) (env : Env) (c : Column) (i : Nat) :
    setElement i (s.withEnv env) c = (setElement i s c).withEnv env := by
  unfold setElement
  split <;> rfl

theorem setElements_withEnv (s : Scope) (env : Env) (cs : List Column) (i : Nat) :
    setElements (s.withEnv env) cs i = (setElements s cs i).withEnv env := by
  induction cs generalizing s with
  | nil => rfl
  | cons c cs ih => rw [setElements_cons, setElements_cons, setElement_withEnv, ih]

theorem nameLanes_withEnv (s : Scope) (env : Env) (lanes : List Lane) :
    nameLanes (s.withEnv env) lanes = (nameLanes s lanes).withEnv env := by
  induction lanes generalizing s with
  | nil => rfl
  | cons l lanes ih =>
    have hl : nameLane (s.withEnv env) l = (nameLane s l).withEnv env := by
      unfold nameLane
      cases l.explicit <;> rfl
    rw [nameLanes_cons, nameLanes_cons, hl, ih]

theorem roundScope_withEnv (s : Scope) (env : Env) (lanes : List Lane) (cs : List Column)
    (i : Nat) : roundScope (s.withEnv env) lanes cs i = (roundScope s lanes cs i).withEnv env := by
  have hchild : (s.withEnv env).child = s.child.withEnv env := rfl
  rw [roundScope, hchild, nameLanes_withEnv, setElements_withEnv]
  rfl

theorem columns_withEnv (h : ∀ l ∈ lanes, (s.withEnv env).lookup l.name = s.lookup l.name) :
    columns (s.withEnv env) lanes = columns s lanes := by
  induction lanes with
  | nil => rfl
  | cons l lanes ih =>
    have hl : column (s.withEnv env) l = column s l := by
      rw [column, column, Scope.resolve_congr (h l List.mem_cons_self)]
    rw [columns, columns, hl, ih fun l' hl' => h l' (List.mem_cons_of_mem _ hl')]

/-! ## Renderings above another environment -/

/-- Above another environment a rendering comes to the same: the same text or error with the same
notes, and the same layers left behind. -/
def Unmoved (env : Env) (f : Scope → Rendering (String × Scope)) (s : Scope) : Prop :=
  f (s.withEnv env) = (fun p => (p.1, p.2.withEnv env)) <$> f s

theorem Unmoved.shown {r : Reference} (h : (s.withEnv env).lookup r.name = s.lookup r.name) :
    Unmoved env (node o (.shown r) depth) s := by
  rw [Unmoved, node, node, Scope.resolve_congr h, map_bind]
  congr 1
  funext v
  split
  · rfl
  · rw [Scope.bindReference_withEnv]
    rfl

theorem Unmoved.hidden {r : Reference} (h : (s.withEnv env).lookup r.name = s.lookup r.name) :
    Unmoved env (node o (.hidden r) depth) s := by
  rw [Unmoved, node, node, Scope.resolve_congr h, map_bind]
  congr 1
  funext v
  rw [Scope.bindReference_withEnv]
  rfl

/-- A group does not see another environment, if its columns are the same and its rounds do not see
it. -/
theorem Unmoved.group
    (hcols : ∀ lanes, planLanes children (depth + 1 : Nat) = .ok lanes →
      ∀ l ∈ lanes, (s.withEnv env).lookup l.name = s.lookup l.name)
    (hround : ∀ lanes cs i, planLanes children (depth + 1 : Nat) = .ok lanes →
      columns s lanes = .ok cs → i < shortest cs →
      Unmoved env (nodes o children (depth + 1)) (roundScope s lanes cs i)) :
    Unmoved env (node o (.group children sep) depth) s := by
  rw [Unmoved, node_group, node_group]
  split
  · rfl
  · rw [map_bind]
    refine Traced.bind_congr_of_ok fun lanes hl => ?_
    split
    · rfl
    · rw [columns_withEnv (hcols lanes hl), map_bind]
      refine Traced.bind_congr_of_ok fun cs hcs => ?_
      rw [map_bind]
      refine Traced.bind_congr_of_ok fun k hk => ?_
      -- The columns are the same values, so only the scopes of the rounds tell the two apart.
      rw [map_bind, rounds_congr (g := round o children depth s lanes cs)]
      · rfl
      · intro j _ hj
        have hj : j < shortest cs := by
          rw [← shortest_of_count hk]
          omega
        have hmoved := hround lanes cs j hl hcs hj
        rw [Unmoved] at hmoved
        rw [round, round, roundScope_withEnv, hmoved, bind_map_left]

theorem Unmoved.cons (hn : Unmoved env (node o n depth) s)
    (hns : ∀ text s', (node o n depth s).outcome = .ok (text, s') →
      Unmoved env (nodes o ns depth) s') :
    Unmoved env (nodes o (n :: ns) depth) s := by
  rw [Unmoved] at hn
  rw [Unmoved, nodes, nodes, hn, bind_map_left, map_bind]
  refine Traced.bind_congr_of_ok fun p hp => ?_
  have hrest := hns p.1 p.2 hp
  rw [Unmoved] at hrest
  simp only [hrest, bind_map_left, map_bind, map_pure]

/-- Behind a node rendering goes on in the scope it leaves behind, and what is free there is free
in front of the node. -/
theorem Unmoved.cons_of_free (hc : Covers bound s)
    (h : ∀ m, FreeNames.FreeIn m bound (n :: ns) → s.env m = env m)
    (hn : Unmoved env (node o n depth) s)
    (hns : ∀ s', Covers (FreeNames.boundAfter n bound) s' →
      (∀ m, FreeNames.FreeIn m (FreeNames.boundAfter n bound) ns → s'.env m = env m) →
      Unmoved env (nodes o ns depth) s') :
    Unmoved env (nodes o (n :: ns) depth) s := by
  refine hn.cons fun text s' hs' => hns s' (hc.after hs') fun m hm => ?_
  rw [env_of_node hs']
  exact h m (.behind hm)

/-- **Rendering sees the environment at the free names alone**, by induction on the nodes. A name
that is read is free or has an alias; a round of a group gives an alias to all that the analysis
takes for bound inside it. -/
theorem unmoved_nodes (hc : Covers bound s)
    (h : ∀ m, FreeNames.FreeIn m bound ns → s.env m = env m) :
    Unmoved env (nodes o ns depth) s := by
  induction ns using Node.listInduction generalizing bound depth s with
  | nil =>
    rw [Unmoved, nodes, nodes]
    rfl
  | literal text ns ih =>
    refine .cons_of_free hc h ?_ fun s' => ih
    rw [Unmoved, node, node]
    rfl
  | shown r ns ih =>
    refine .cons_of_free hc h (.shown ?_) fun s' => ih
    exact hc.lookup_withEnv fun hb => h r.name (.reference rfl rfl hb)
  | hidden r ns ih =>
    refine .cons_of_free hc h (.hidden ?_) fun s' => ih
    exact hc.lookup_withEnv fun hb => h r.name (.reference rfl rfl hb)
  | group children sep ns ihc ih =>
    refine .cons_of_free hc h (.group (fun lanes hl l hm => ?_) fun lanes cs i hl hcs hi => ?_)
      fun s' => ih
    · exact hc.lookup_withEnv fun hb => h l.name (.lane hl hm rfl hb)
    · refine ihc (hc.round hl hcs hi) fun m hm => ?_
      rw [env_roundScope]
      exact h m (.inside hl hm)
  | foreign kind ns ih =>
    refine .cons_of_free hc h ?_ fun s' => ih
    rw [Unmoved, node, node]
    rfl

end Render

/-! ## Independence -/

/-- **Rendering depends on the environment through the free names alone.** In two environments that
agree on each free name of a template, that is bind it to the same value or both not at all, all
options give the same text or the same error, and the same groups leave elements out before. -/
theorem render_eq_of_free (o : Options) (template : List Node) (env env' : Env) {free : List String}
    (hfree : freeNames template = .ok free) (h : ∀ name ∈ free, env name = env' name) :
    render o template env = render o template env' ∧
      truncations o template env = truncations o template env' := by
  have hmoved : Render.Unmoved env' (Render.nodes o template 0) (.root env) :=
    Render.unmoved_nodes (Covers.root env) fun m hm =>
      h m (FreeNames.mem_nodes_of_freeIn hm hfree)
  rw [Render.Unmoved] at hmoved
  have hroot : (Scope.root env).withEnv env' = .root env' := rfl
  have htraced : renderTraced o template env = renderTraced o template env' := by
    rw [renderTraced, renderTraced, ← hroot, hmoved, bind_map_left]
  exact ⟨congrArg Traced.outcome htraced, by rw [truncations, truncations, htraced]⟩

/-- Two environments that differ at names bound inside the template: at the label of a lane, which
the group inside iterates, and at a label behind it. -/
theorem render_eq_of_free_rows :
    let rows : List Node := [.group [.hidden ⟨"rows", .some "row"⟩,
      .group [.shown ⟨"row", .some "cell"⟩, .shown ⟨"unit", .none⟩, .shown ⟨"cell", .none⟩]
        .none] (.some "; ")]
    let env : Env := fun name =>
      if name = "rows" then .some (.list [.list [.text "1", .text "2"], .list [.text "3"]])
      else if name = "unit" then .some (.tuple [.text "cm", .text "mm"])
      else .none
    let env' : Env := fun name => if name = "row" ∨ name = "cell" then .some (.int 0) else env name
    freeNames rows = .ok ["rows", "unit"] ∧ (∀ name ∈ ["rows", "unit"], env name = env' name) ∧
      render {} rows env = render {} rows env' ∧
      truncations {} rows env = truncations {} rows env' ∧
      render {} rows env' = .ok "1cm12mm2; 3cm3" := by
  intro rows env env'
  have hfree : freeNames rows = .ok ["rows", "unit"] := by rfl
  have hagree : ∀ name ∈ ["rows", "unit"], env name = env' name := by
    intro name hn
    rcases List.mem_cons.mp hn with rfl | hn
    · rfl
    · rw [List.mem_singleton.mp hn]
      rfl
  obtain ⟨hrender, htruncations⟩ := render_eq_of_free {} rows env env' hfree hagree
  exact ⟨hfree, hagree, hrender, htruncations, by rfl⟩

end Lockstep
