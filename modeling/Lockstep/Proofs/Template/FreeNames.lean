/-
What the analysis of free names does with a list of nodes: it keeps the names
it has found, in their order (`isPrefix_nodes`), adds a reference's name unless
it is bound (`mem_nodes_of_reference`), and inside a group it takes the names
and labels of the lanes for bound, which do not depend on the depth of the
group (`group_eq_ok`).

Which names are free can be said without going through the nodes in order
(`FreeIn`). The analysis finds all of them (`mem_nodes_of_freeIn`).
-/
import Lockstep.Proofs.Template.Plan
import Lockstep.Template.FreeNames

namespace Lockstep

namespace FreeNames

variable {bound bound' found found' : List String} {name : String} {n : Node}
  {ns children : List Node} {r : Reference} {lanes : List Lane} {sep : Option String} {depth : Int}

/-! ## Finding names -/

/-- What is found stays, and what is found next comes behind it. -/
theorem isPrefix_find (bound found : List String) (name : String) :
    found <+: find bound found name := by
  unfold find
  split
  · exact List.prefix_rfl
  · exact List.prefix_append found [name]

theorem mem_find (h : name ∉ bound) : name ∈ find bound found name := by
  unfold find
  split
  · next hf => simpa [h] using hf
  · simp

theorem find_eq_append (hb : name ∉ bound) (hf : name ∉ found) :
    find bound found name = found ++ [name] := by
  rw [find, if_neg (by simp [hb, hf])]

/-- What is found was found before, or is the name itself, which then is not bound. -/
theorem of_mem_find {m : String} (h : m ∈ find bound found name) :
    m ∈ found ∨ m = name ∧ name ∉ bound := by
  unfold find at h
  split at h
  · exact .inl h
  · next hnew =>
    rcases List.mem_append.mp h with h | h
    · exact .inl h
    · exact .inr ⟨List.mem_singleton.mp h, fun hb => hnew (by simp [hb])⟩

theorem isPrefix_foldl_find (bound names found : List String) :
    found <+: names.foldl (find bound) found := by
  induction names generalizing found with
  | nil => exact List.prefix_rfl
  | cons m names ih => exact (isPrefix_find bound found m).trans (ih _)

theorem mem_foldl_find {names : List String} (hn : name ∈ names) (h : name ∉ bound) :
    name ∈ names.foldl (find bound) found := by
  induction names generalizing found with
  | nil => cases hn
  | cons m names ih =>
    rw [List.foldl_cons]
    rcases List.mem_cons.mp hn with rfl | hn
    · exact (isPrefix_foldl_find bound names _).subset (mem_find h)
    · exact ih hn

/-! ## Nodes -/

/-- The names bound behind a node. -/
def boundAfter (n : Node) (bound : List String) : List String :=
  match n.reference? with
  | .some r => r.bound.toList ++ bound
  | .none => bound

theorem nodes_cons_eq_ok (h : nodes (n :: ns) bound found = .ok found') :
    ∃ mid, node n bound found = .ok (boundAfter n bound, mid) ∧
      nodes ns (boundAfter n bound) mid = .ok found' := by
  rw [nodes] at h
  split at h
  · next b mid hn =>
    have hb : b = boundAfter n bound := by
      cases n with
      | literal text | shown r | hidden r | foreign kind =>
        rw [node] at hn
        cases hn
        rfl
      | group children sep =>
        rw [node] at hn
        split at hn
        · simp only at hn
          split at hn
          · cases hn
            rfl
          · cases hn
        · cases hn
    subst hb
    exact ⟨mid, hn, h⟩
  · cases h

theorem node_of_reference (hr : n.reference? = .some r) :
    node n bound found = .ok (r.bound.toList ++ bound, find bound found r.name) := by
  cases n with
  | shown r' | hidden r' =>
    cases hr
    rw [node]
  | literal text => cases hr
  | group children sep => cases hr
  | foreign kind => cases hr

theorem laneNames_map_atDepth (depth : Int) (lanes : List Lane) :
    laneNames (lanes.map (Lanes.atDepth depth)) = laneNames lanes := by
  rw [laneNames, laneNames, List.flatMap_map]
  congr 1
  funext l
  rw [Lanes.atDepth_explicit, Lanes.atDepth_name]
  split
  · next he => rw [Lanes.atDepth_key depth he]
  · rfl

/-- A name is bound inside a group if it is the name of a lane, or a label that is a key. -/
theorem mem_laneNames {m : String} :
    m ∈ laneNames lanes ↔ ∃ l ∈ lanes, m = l.name ∨ (l.explicit = true ∧ m = l.key) := by
  rw [laneNames, List.mem_flatMap]
  refine exists_congr fun l => and_congr_right fun _ => ?_
  cases l.explicit <;> simp

/-- **What is found in a group**: the names of its lanes, and then what is found in its children,
for which the names and labels of its lanes are bound. -/
theorem group_eq_ok (hl : planLanes children depth = .ok lanes)
    (h : node (.group children sep) bound found = .ok (bound', found')) :
    nodes children (laneNames lanes ++ bound) ((lanes.map (·.name)).foldl (find bound) found) =
      .ok found' := by
  have h0 : planLanes children 0 = .ok (lanes.map (Lanes.atDepth 0)) := by
    rw [Lanes.planLanes_depth children depth 0, hl]
    rfl
  have hnames : (lanes.map (Lanes.atDepth 0)).map (·.name) = lanes.map (·.name) := by
    simp
  rw [node, h0] at h
  simp only [laneNames_map_atDepth, hnames] at h
  split at h
  · next found'' hc =>
    cases h
    exact hc
  · cases h

/-- **Names are found one after the other**: those found so far stay where they are. -/
theorem isPrefix_nodes (h : nodes ns bound found = .ok found') : found <+: found' := by
  induction ns using Node.listInduction generalizing bound found found' with
  | nil =>
    rw [nodes] at h
    cases h
    exact List.prefix_rfl
  | literal text ns ih | foreign kind ns ih =>
    obtain ⟨mid, hn, h⟩ := nodes_cons_eq_ok h
    rw [node] at hn
    cases hn
    exact ih h
  | shown r ns ih | hidden r ns ih =>
    obtain ⟨mid, hn, h⟩ := nodes_cons_eq_ok h
    rw [node_of_reference rfl] at hn
    cases hn
    exact (isPrefix_find bound found r.name).trans (ih h)
  | group children sep ns ihc ih =>
    obtain ⟨mid, hn, h⟩ := nodes_cons_eq_ok h
    have hmid : found <+: mid := by
      cases hl : planLanes children 0 with
      | error e =>
        rw [node, hl] at hn
        cases hn
      | ok lanes =>
        exact (isPrefix_foldl_find bound _ found).trans (ihc (group_eq_ok hl hn))
    exact hmid.trans (ih h)

theorem isPrefix_node (h : node n bound found = .ok (bound', found')) : found <+: found' := by
  have hnodes : nodes [n] bound found = .ok found' := by
    rw [nodes, h]
    dsimp only
    rw [nodes]
  exact isPrefix_nodes hnodes

/-- Names once found stay found. -/
theorem nodes_subset (h : nodes ns bound found = .ok found') : found ⊆ found' :=
  (isPrefix_nodes h).subset

/-- A reference to a name that is not bound is found. -/
theorem mem_nodes_of_reference (hr : n.reference? = .some r) (hb : r.name ∉ bound)
    (h : nodes (n :: ns) bound found = .ok found') : r.name ∈ found' := by
  obtain ⟨mid, hn, h⟩ := nodes_cons_eq_ok h
  rw [node_of_reference hr, Except.ok.injEq, Prod.mk.injEq] at hn
  rw [← hn.2] at h
  exact nodes_subset h (mem_find hb)

/-- The name of a lane is found if it is not bound around the group. -/
theorem mem_nodes_of_lane (hl : planLanes children depth = .ok lanes) {l : Lane} (hm : l ∈ lanes)
    (hb : l.name ∉ bound) (h : nodes (.group children sep :: ns) bound found = .ok found') :
    l.name ∈ found' := by
  obtain ⟨mid, hn, h⟩ := nodes_cons_eq_ok h
  have hfold : l.name ∈ (lanes.map (·.name)).foldl (find bound) found :=
    mem_foldl_find (List.mem_map_of_mem hm) hb
  exact nodes_subset h (nodes_subset (group_eq_ok hl hn) hfold)

/-! ## Free names -/

/-- **The name is read where it is not bound**: by a reference, or as the name of a lane. The list
has the names that are bound in front of the nodes. -/
inductive FreeIn (m : String) : List String → List Node → Prop
  | reference {bound : List String} {n : Node} {ns : List Node} {r : Reference} :
      n.reference? = .some r → r.name = m → m ∉ bound → FreeIn m bound (n :: ns)
  | lane {bound : List String} {children ns : List Node} {sep : Option String} {depth : Int}
      {lanes : List Lane} {l : Lane} :
      planLanes children depth = .ok lanes → l ∈ lanes → l.name = m → m ∉ bound →
      FreeIn m bound (.group children sep :: ns)
  | inside {bound : List String} {children ns : List Node} {sep : Option String} {depth : Int}
      {lanes : List Lane} :
      planLanes children depth = .ok lanes → FreeIn m (laneNames lanes ++ bound) children →
      FreeIn m bound (.group children sep :: ns)
  | behind {bound : List String} {n : Node} {ns : List Node} :
      FreeIn m (boundAfter n bound) ns → FreeIn m bound (n :: ns)

theorem subset_boundAfter (n : Node) (bound : List String) : bound ⊆ boundAfter n bound := by
  unfold boundAfter
  split
  · exact List.subset_append_right _ _
  · exact List.Subset.refl _

/-- What is free is not bound in front. -/
theorem FreeIn.not_mem {m : String} (h : FreeIn m bound ns) : m ∉ bound := by
  induction h with
  | reference _ _ hb => exact hb
  | lane _ _ _ hb => exact hb
  | inside _ _ ih => exact fun hm => ih (List.mem_append_right _ hm)
  | behind _ ih => exact fun hm => ih (subset_boundAfter _ _ hm)

/-- **The analysis finds every free name.** -/
theorem mem_nodes_of_freeIn {m : String} (hm : FreeIn m bound ns)
    (h : nodes ns bound found = .ok found') : m ∈ found' := by
  induction hm generalizing found found' with
  | reference hr hname hb =>
    subst hname
    exact mem_nodes_of_reference hr hb h
  | lane hl hmem hname hb =>
    subst hname
    exact mem_nodes_of_lane hl hmem hb h
  | inside hl _ ih =>
    obtain ⟨mid, hn, h⟩ := nodes_cons_eq_ok h
    exact nodes_subset h (ih (group_eq_ok hl hn))
  | behind _ ih =>
    obtain ⟨mid, -, h⟩ := nodes_cons_eq_ok h
    exact ih h

/-- **The only thing wrong with free names can be that a label is taken**, as with lanes. -/
theorem nodes_eq_error {e : RenderError} (h : nodes ns bound found = .error e) :
    ∃ label name, e = .clash label name := by
  induction ns using Node.listInduction generalizing bound found with
  | nil =>
    rw [nodes] at h
    cases h
  | literal text ns ih | shown r ns ih | hidden r ns ih | foreign kind ns ih =>
    rw [nodes, node] at h
    exact ih h
  | group children sep ns ihc ih =>
    rw [nodes, node] at h
    cases hl : planLanes children 0 with
    | error e' =>
      simp only [hl] at h
      cases h
      exact Lanes.planFrom_eq_error hl
    | ok lanes =>
      simp only [hl] at h
      split at h
      · exact ih h
      · next hchildren =>
        cases h
        split at hchildren
        · cases hchildren
        · next he =>
          cases hchildren
          exact ihc he

end FreeNames

/-- Bindings that pass the check bind all free names. -/
theorem checkBindings_eq_ok {template : List Node} {env : Env}
    (h : checkBindings template env = .ok ()) :
    ∃ free, freeNames template = .ok free ∧ ∀ name ∈ free, (env name).isSome = true := by
  unfold checkBindings at h
  cases hf : freeNames template with
  | error e =>
    rw [hf] at h
    cases h
  | ok free =>
    rw [hf] at h
    simp only [bind, Except.bind] at h
    split at h
    · next hempty =>
      have hall := List.filter_eq_nil_iff.mp (List.isEmpty_iff.mp hempty)
      exact ⟨free, rfl, fun name hn => by simpa [Option.isSome_iff_ne_none] using hall name hn⟩
    · cases h

end Lockstep
