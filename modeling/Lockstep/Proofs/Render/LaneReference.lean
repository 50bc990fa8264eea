/-
What a reference to a lane reads inside its group. The element at hand is kept
under the key of the lane, and if the key is a label, a sibling that binds the
label keeps its own value there. No sibling that opens a lane may do so, but
one that repeats a name, or reads a label, is not looked at. So a reference to
a lane reads the value of the last sibling before it that binds the label, and
the element of the lane if there is none (`lane_reference_reads_element`).

For a lane without a label there is none, for no template can spell its key.
-/
import Lockstep.Proofs.Render.Reach

namespace Lockstep.Render

variable {o : Options} {pre before : List Node} {depth i : Nat} {s u w : Scope} {n : Node}
  {q r : Reference} {lanes : List Lane} {cs : List Column} {c : Column} {m key label text : String}
  {v : Value}

/-! ## The last binder of a label -/

/-- The reference that a node is, if it binds the label. -/
def binder? (label : String) (n : Node) : Option Reference :=
  n.reference?.filter fun r => r.bound = .some label

/-- The last of the nodes that binds a label, with the nodes before it. -/
def lastBinder? (label : String) : List Node → Option (List Node × Reference)
  | [] => .none
  | n :: ns =>
    match lastBinder? label ns with
    | .some (before, r) => .some (n :: before, r)
    | .none => (binder? label n).map fun r => ([], r)

theorem binder?_eq_some : binder? label n = .some r ↔
    n.reference? = .some r ∧ r.bound = .some label := by
  simp [binder?, Option.filter_eq_some_iff]

theorem binder?_eq_none : binder? label n = .none ↔
    ∀ r, n.reference? = .some r → r.bound ≠ .some label := by
  simp [binder?, Option.filter_eq_none_iff]

/-! ## What is kept under a key -/

/-- A node that binds the label keeps the value of its name under it; all others leave what is kept
there. -/
theorem valueAt_of_node (hn : (node o n depth s).outcome = .ok (text, u)) (label : String) :
    u.valueAt label =
      match binder? label n with
      | .some r => s.lookup r.name
      | .none => s.valueAt label := by
  rw [scope_of_node hn]
  cases hr : n.reference? with
  | none =>
    have hb : binder? label n = .none := by simp [binder?, hr]
    rw [after_eq_self hr, hb]
  | some r =>
    obtain ⟨v, hv⟩ := lookup_of_node hr hn
    rw [after_eq_bindReference hr hv]
    cases ha : r.bound with
    | none =>
      have hb : binder? label n = .none := by simp [binder?, hr, ha]
      rw [Scope.bindReference_eq_self ha, hb]
    | some a =>
      rw [Scope.bindReference_eq_bind ha, Scope.valueAt_bind]
      by_cases hl : label = a
      · have hb : binder? label n = .some r := binder?_eq_some.mpr ⟨hr, hl ▸ ha⟩
        rw [if_pos hl, hb]
        exact hv.symm
      · have hb : binder? label n = .none := by
          rw [binder?_eq_none]
          intro r' hr' hbound
          rw [hr] at hr'
          cases hr'
          rw [ha] at hbound
          cases hbound
          exact hl rfl
        rw [if_neg hl, hb]

/-- **What is kept under a key is what the last binder read**, or what was kept there before if
none of the nodes binds it. -/
theorem valueAt_of_leaves (h : Leaves o pre depth s u) (label : String) :
    (lastBinder? label pre = .none → u.valueAt label = s.valueAt label) ∧
    ∀ before r, lastBinder? label pre = .some (before, r) →
      ∃ w, Leaves o before depth s w ∧ u.valueAt label = w.lookup r.name := by
  induction pre generalizing s with
  | nil =>
    rw [Leaves.nil_iff.mp h]
    exact ⟨fun _ => rfl, fun before r hl => by cases hl⟩
  | cons n pre ih =>
    obtain ⟨text, s', hn, hpre⟩ := Leaves.cons_iff.mp h
    obtain ⟨hnone, hsome⟩ := ih hpre
    have hstep := valueAt_of_node hn label
    cases hl : lastBinder? label pre with
    | some p =>
      refine ⟨fun h => ?_, fun before r h => ?_⟩
      · simp [lastBinder?, hl] at h
      · obtain ⟨w, hw, hu⟩ := hsome p.1 p.2 hl
        simp only [lastBinder?, hl, Option.some.injEq, Prod.mk.injEq] at h
        obtain ⟨rfl, rfl⟩ := h
        exact ⟨w, Leaves.cons_iff.mpr ⟨text, s', hn, hw⟩, hu⟩
    | none =>
      have hu := hnone hl
      cases hb : binder? label n with
      | none =>
        rw [hb] at hstep
        refine ⟨fun _ => hu.trans hstep, fun before r h => ?_⟩
        simp [lastBinder?, hl, hb] at h
      | some r' =>
        rw [hb] at hstep
        refine ⟨fun h => ?_, fun before r h => ?_⟩
        · simp [lastBinder?, hl, hb] at h
        · simp only [lastBinder?, hl, hb, Option.map_some, Option.some.injEq, Prod.mk.injEq] at h
          obtain ⟨rfl, rfl⟩ := h
          exact ⟨s, Leaves.nil_iff.mpr rfl, hu.trans hstep⟩

/-- A name stands for itself where a node binds it, and else for what it stood for. -/
theorem keyFor_of_node (hn : (node o n depth s).outcome = .ok (text, u)) (m : String) :
    u.keyFor m = if (binder? m n).isSome then m else s.keyFor m := by
  rw [scope_of_node hn]
  cases hr : n.reference? with
  | none => simp [after_eq_self hr, binder?, hr]
  | some r =>
    obtain ⟨v, hv⟩ := lookup_of_node hr hn
    rw [after_eq_bindReference hr hv]
    cases ha : r.bound with
    | none => simp [Scope.bindReference_eq_self ha, binder?, hr, ha]
    | some a =>
      rw [Scope.bindReference_eq_bind ha, Scope.keyFor_bind]
      by_cases hm : m = a
      · simp [binder?, hr, ha, hm]
      · have hne : a ≠ m := fun h => hm h.symm
        simp [binder?, hr, ha, hm, hne]

/-- A name that no node binds goes on to stand for its key. -/
theorem keyFor_of_leaves (h : Leaves o pre depth s u) (hm : ∀ n ∈ pre, binder? m n = .none) :
    u.keyFor m = s.keyFor m := by
  induction pre generalizing s with
  | nil => rw [Leaves.nil_iff.mp h]
  | cons n pre ih =>
    obtain ⟨text, s', hn, hpre⟩ := Leaves.cons_iff.mp h
    rw [ih hpre fun n' hn' => hm n' (List.mem_cons_of_mem _ hn'), keyFor_of_node hn,
      hm n List.mem_cons_self]
    rfl

/-- Nodes that bind the key of a lane only to what the lane's own names mean leave what is kept
under it, for those names stand for the key throughout. -/
theorem valueAt_of_own_binders {l : Lane} (h : Leaves o pre depth s u)
    (hname : s.keyFor l.name = l.key) (hkey : l.explicit = true → s.keyFor l.key = l.key)
    (hno : ∀ n ∈ pre, binder? l.name n = .none)
    (hown : ∀ n ∈ pre, ∀ r, binder? l.key n = .some r → l.Means r.name) :
    u.valueAt l.key = s.valueAt l.key := by
  induction pre generalizing s with
  | nil => rw [Leaves.nil_iff.mp h]
  | cons n pre ih =>
    obtain ⟨text, s', hn, hpre⟩ := Leaves.cons_iff.mp h
    have hname' : s'.keyFor l.name = l.key := by
      rw [keyFor_of_node hn, hno n List.mem_cons_self]
      exact hname
    have hkey' : l.explicit = true → s'.keyFor l.key = l.key := by
      intro he
      rw [keyFor_of_node hn]
      split
      · rfl
      · exact hkey he
    rw [ih hpre hname' hkey' (fun n' hn' => hno n' (List.mem_cons_of_mem _ hn'))
      fun n' hn' => hown n' (List.mem_cons_of_mem _ hn'), valueAt_of_node hn]
    cases hb : binder? l.key n with
    | none => rfl
    | some r =>
      have hkeyFor : s.keyFor r.name = l.key := by
        rcases hown n List.mem_cons_self r hb with hm | ⟨he, hm⟩
        · rw [hm, hname]
        · rw [hm, hkey he]
      exact congrArg s.valueAt hkeyFor

/-! ## Lanes in a round -/

section

variable {template children post rest : List Node} {env : Env} {sep : Option String}

/-- When a round begins, the element at hand is kept under the key of the lane. -/
theorem Begins.valueAt_key (hf : HashFree children) (hb : Begins o children depth s lanes cs i)
    (hc : c ∈ cs) : (roundScope s lanes cs i).valueAt c.1.key = c.2.get? i := by
  have hk : (cs.map (·.1.key)).Nodup := columns_keys hb.columns ▸ Lanes.keys_nodup hf hb.plan
  obtain ⟨v, hv⟩ := Option.isSome_iff_exists.mp (isSome_get?_of_lt_shortest hb.lt_shortest hc)
  rw [valueAt_roundScope_of_mem hk hc hv, hv]

/-- No child binds the key of a lane without a label. -/
theorem Begins.binder?_key (hf : HashFree children)
    (hb : Begins o children depth s lanes cs i) (hc : c ∈ cs) (he : c.1.explicit = false)
    (hn : n ∈ children) : binder? c.1.key n = .none := by
  rw [binder?_eq_none]
  intro r hr hbound
  have hspelled := Lanes.spelled_of_planLanes hf hb.plan (mem_lanes_of_columns hb.columns hc)
  have hnohash := hf.bound (Node.mem_references_of_mem hn hr) hbound
  exact laneKey_ne_of_noHash hnohash _ _ (hspelled.key he).symm

/-- **What a reference to a lane reads.** Wherever rendering gets to a round of a group, a direct
child that refers to the lane `c`, no sibling before it binding that name, reads the element of the
lane exactly if the last sibling before it that binds the key of the lane, should there be one, has
read that same element. So it does if all of those read the lane itself, and always if the lane has
no label. A reference that reads the element and is shown writes it. -/
theorem lane_reference_reads_element (hf : HashFree template)
    (hr : Reaches o template env (.group (pre ++ n :: post) sep :: rest) depth s)
    (hb : Begins o (pre ++ n :: post) depth s lanes cs i) (hc : c ∈ cs)
    (hn : n.reference? = .some r) (hname : r.name = c.1.name)
    (hpre : ∀ m ∈ pre, binder? r.name m = .none)
    (hu : Leaves o pre (depth + 1) (roundScope s lanes cs i) u) :
    Reaches o template env (n :: post) (depth + 1) u ∧
    (u.lookup r.name = c.2.get? i ↔
      ∀ before q w, lastBinder? c.1.key pre = .some (before, q) →
        Leaves o before (depth + 1) (roundScope s lanes cs i) w → w.lookup q.name = c.2.get? i) ∧
    ((∀ m ∈ pre, ∀ q, binder? c.1.key m = .some q → c.1.Means q.name) →
      u.lookup r.name = c.2.get? i) ∧
    (c.1.explicit = false → u.lookup r.name = c.2.get? i) ∧
    (u.lookup r.name = c.2.get? i → ∀ v, c.2.get? i = .some v →
      n = .hidden r ∨ v.isSequence = false →
      ∃ t, (node o n (depth + 1) u).outcome = .ok (t, u.bindReference r v) ∧
        (n = .shown r → t = v.toText)) := by
  have hchildren : HashFree (pre ++ n :: post) := fun q hq =>
    hf q (hr.references_subset (Node.references_subset_children _ sep rest hq))
  have hmeans : ∀ m, c.1.Means m → (roundScope s lanes cs i).keyFor m = c.1.key := fun m hm =>
    keyFor_roundScope_of_means (Lanes.apart_of_planLanes hb.plan)
      (mem_lanes_of_columns hb.columns hc) hm
  have hstart := hmeans c.1.name (.inl rfl)
  have helement := Begins.valueAt_key hchildren hb hc
  have hlookup : u.lookup r.name = u.valueAt c.1.key := by
    rw [Scope.lookup_eq, keyFor_of_leaves hu hpre, hname, hstart]
  obtain ⟨hnone, hsome⟩ := valueAt_of_leaves hu c.1.key
  have hown : (∀ m ∈ pre, ∀ q, binder? c.1.key m = .some q → c.1.Means q.name) →
      u.lookup r.name = c.2.get? i := by
    intro hall
    rw [hlookup, ← helement]
    refine valueAt_of_own_binders hu hstart (fun he => ?_) (hname ▸ hpre) hall
    exact hmeans c.1.key (.inr ⟨he, rfl⟩)
  refine ⟨(hr.enter hb).behind hu, ⟨fun h before q w hl hw => ?_, fun h => ?_⟩, hown,
    fun he => ?_, fun h v hv hs => outcome_of_lookup hn (h.trans hv) hs⟩
  · obtain ⟨w', hw', hval⟩ := hsome before q hl
    rw [hw.unique hw', ← hval, ← hlookup]
    exact h
  · cases hl : lastBinder? c.1.key pre with
    | none => rw [hlookup, hnone hl, helement]
    | some p =>
      obtain ⟨w, hw, hval⟩ := hsome p.1 p.2 hl
      rw [hlookup, hval]
      exact h p.1 p.2 w hl hw
  · refine hown fun m hm q hq => ?_
    rw [Begins.binder?_key hchildren hb hc he (List.mem_append_left _ hm)] at hq
    cases hq

/-- A label that is taken from its lane: `ys` is a lane already when `x` is bound to it, and `xs`
opens a lane with the label `x` only behind that. So `xs` reads the element of `ys`. -/
theorem lane_reference_reads_element_taken :
    let pre : List Node := [.hidden ⟨"ys", .none⟩, .shown ⟨"ys", .some "x"⟩]
    let taken : List Node := [.group (pre ++ [.shown ⟨"xs", .some "x"⟩]) .none]
    let env : Env := fun name =>
      if name = "xs" then .some (.list [.int 1])
      else if name = "ys" then .some (.list [.int 2])
      else .none
    let ys : Column := (⟨"ys", laneKey "ys" 1, false⟩, .items [.int 2])
    let xs : Column := (⟨"xs", "x", true⟩, .items [.int 1])
    let s := roundScope (.root env) [ys.1, xs.1] [ys, xs] 0
    render {} taken env = .ok "22" ∧
      ∃ u, Reaches {} taken env [.shown ⟨"xs", .some "x"⟩] 1 u ∧ u.lookup "xs" = .some (.int 2) ∧
        ¬ ∀ before q w, lastBinder? "x" pre = .some (before, q) → Leaves {} before 1 s w →
          w.lookup q.name = .some (.int 1) := by
  intro pre taken env ys xs s
  have hf : HashFree taken := by decide
  have hb : Begins {} (pre ++ [.shown ⟨"xs", .some "x"⟩]) 0 (.root env) [ys.1, xs.1] [ys, xs]
      0 := by
    refine ⟨by decide, by rfl, by rfl, ⟨1, by rfl, Nat.one_pos⟩, fun j hj => ?_⟩
    exact absurd hj (Nat.not_lt_zero j)
  have hu : Leaves {} pre 1 s (pre.foldl after s) := ⟨"2", by rfl⟩
  have hxs : (pre.foldl after s).lookup "xs" = .some (.int 2) := by rfl
  obtain ⟨hreach, hiff, -⟩ := lane_reference_reads_element hf .start hb (c := xs) (by simp)
    (n := .shown ⟨"xs", .some "x"⟩) rfl rfl (by decide) hu
  refine ⟨by rfl, pre.foldl after s, hreach, hxs, fun hall => ?_⟩
  have hone : (pre.foldl after s).lookup "xs" = .some (.int 1) := hiff.mpr hall
  rw [hxs] at hone
  simp at hone

end

end Lockstep.Render
