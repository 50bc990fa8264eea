/-
What comes of rendering a node, its notes aside, as one equation for each
kind of node, and what a node leaves behind for its later siblings: the scope
with what it binds, or the scope as it was (`scope_of_node`).

A group is rendered in rounds (`Render.round`), each in its own scope. Their
texts, with the separator between each two, are the group's text
(`outcome_rounds`).
-/
import Lockstep.Proofs.Render.Round
import Lockstep.Proofs.Sequencing

namespace Lockstep

namespace Traced

variable {ν ε α β : Type}

@[simp] theorem outcome_pure (a : α) : (pure a : Traced ν ε α).outcome = .ok a := rfl

@[simp] theorem outcome_fail (e : ε) : (fail e : Traced ν ε α).outcome = .error e := rfl

@[simp] theorem outcome_ofExcept (x : Except ε α) : (ofExcept x : Traced ν ε α).outcome = x := rfl

theorem outcome_bind_pure (x : Traced ν ε α) (f : α → β) :
    (x >>= fun a => pure (f a)).outcome = x.outcome.map f := by
  rw [outcome_bind]
  cases x.outcome <;> rfl

end Traced

namespace Render

variable {o : Options} {policy : LengthPolicy} {s s' : Scope} {lanes : List Lane}
  {cs : List Column} {c : Column} {depth i n : Nat} {ns children : List Node} {node' : Node}
  {sep : Option String} {text : String} {e : RenderError}

/-! ## Columns -/

theorem column_eq_ok {l : Lane} (h : column s l = .ok c) :
    c.1 = l ∧ ∃ v, s.lookup l.name = .some v ∧ v.sequence? = .some c.2 := by
  unfold column at h
  split at h
  · next v hv =>
    split at h
    · next q hq =>
      cases h
      exact ⟨rfl, v, Scope.resolve_eq_ok.mp hv, hq⟩
    · cases h
  · cases h

theorem columns_lanes (h : columns s lanes = .ok cs) : cs.map (·.1) = lanes := by
  induction lanes generalizing cs with
  | nil =>
    cases h
    rfl
  | cons l lanes ih =>
    rw [columns] at h
    split at h
    · next c hc =>
      obtain ⟨cs', hcs, rfl⟩ := map_eq_ok.mp h
      rw [List.map_cons, ih hcs, (column_eq_ok hc).1]
    · cases h

/-- The columns of lanes with different keys have different keys. -/
theorem columns_keys (h : columns s lanes = .ok cs) :
    cs.map (·.1.key) = lanes.map (·.key) := by
  rw [← columns_lanes h, List.map_map]
  rfl

theorem mem_lanes_of_columns (h : columns s lanes = .ok cs) (hc : c ∈ cs) : c.1 ∈ lanes := by
  rw [← columns_lanes h]
  exact List.mem_map_of_mem hc

/-- Every column is the sequence that the name of its lane means. -/
theorem lookup_of_columns (h : columns s lanes = .ok cs) (hc : c ∈ cs) :
    ∃ v, s.lookup c.1.name = .some v ∧ v.sequence? = .some c.2 := by
  induction lanes generalizing cs with
  | nil =>
    cases h
    cases hc
  | cons l lanes ih =>
    rw [columns] at h
    split at h
    · next c' hc' =>
      obtain ⟨cs', hcs, rfl⟩ := map_eq_ok.mp h
      rcases List.mem_cons.mp hc with rfl | hc
      · obtain ⟨hl, hv⟩ := column_eq_ok hc'
        rw [hl]
        exact hv
      · exact ih hcs hc
    · cases h

/-- Columns cannot be made for the first lane for which none can be made. -/
theorem columns_eq_error (h : columns s lanes = .error e) : ∃ l ∈ lanes, column s l = .error e := by
  induction lanes with
  | nil => cases h
  | cons l lanes ih =>
    rw [columns] at h
    split at h
    · obtain ⟨l', hl', he⟩ := ih (map_eq_error.mp h)
      exact ⟨l', List.mem_cons_of_mem _ hl', he⟩
    · next hl =>
      cases h
      exact ⟨l, List.mem_cons_self, hl⟩

/-- No column is shorter than the shortest. -/
theorem shortest_le (hc : c ∈ cs) : shortest cs ≤ c.2.length := by
  unfold shortest
  cases hm : (cs.map (·.2.length)).min? with
  | none => simp
  | some n =>
    rw [Option.getD_some]
    exact (List.min?_eq_some_iff.mp hm).2 _ (List.mem_map_of_mem hc)

/-- Every column has an element in every round. -/
theorem isSome_get?_of_lt_shortest (hi : i < shortest cs) (hc : c ∈ cs) :
    (c.2.get? i).isSome = true :=
  (Sequence.isSome_get? c.2 i).mpr (Nat.lt_of_lt_of_le hi (shortest_le hc))

theorem outcome_count (policy : LengthPolicy) (cs : List Column) :
    (count policy cs).outcome =
      if (zip cs).isUneven && policy == .strict then .error (.unequal (zip cs).lengths)
      else .ok (shortest cs) := by
  unfold count
  simp only
  split <;> rfl

theorem shortest_of_count (h : (count policy cs).outcome = .ok n) : n = shortest cs := by
  rw [outcome_count] at h
  split at h
  · cases h
  · cases h
    rfl

/-! ## Rounds -/

/-- What a group writes in round `i`. -/
def round (o : Options) (children : List Node) (depth : Nat) (s : Scope) (lanes : List Lane)
    (cs : List Column) (i : Nat) : Rendering String := do
  let (text, _) ← nodes o children (depth + 1) (roundScope s lanes cs i)
  return text

theorem outcome_round (o : Options) (children : List Node) (depth : Nat) (s : Scope)
    (lanes : List Lane) (cs : List Column) (i : Nat) :
    (round o children depth s lanes cs i).outcome =
      (nodes o children (depth + 1) (roundScope s lanes cs i)).outcome.map (·.1) :=
  Traced.outcome_bind_pure _ _

/-- The rounds write their texts with the separator between each two, unless one of them fails. -/
theorem outcome_rounds (separator : String) (f : Nat → Rendering String) (i n : Nat) :
    (rounds separator f i n).outcome =
      ((List.range' i n).mapM fun j => (f j).outcome).map separator.intercalate := by
  induction n generalizing i with
  | zero => rfl
  | succ n ih =>
    cases n with
    | zero =>
      rw [rounds, List.range'_succ, mapM_cons]
      cases (f i).outcome <;> simp [Except.bind, Except.map, pure, Except.pure]
    | succ n =>
      have hrest := ih (i + 1)
      rw [List.range'_succ, mapM_cons] at hrest
      rw [rounds, Traced.outcome_bind, List.range'_succ, mapM_cons, List.range'_succ, mapM_cons]
      cases (f i).outcome with
      | error e => rfl
      | ok text =>
        simp only [Except.bind, Traced.outcome_bind_pure, hrest]
        cases (f (i + 1)).outcome with
        | error e => rfl
        | ok text' =>
          cases (List.range' (i + 1 + 1) n).mapM fun j => (f j).outcome with
          | error e => rfl
          | ok texts => simp [Except.map]

/-! ## Nodes -/

theorem outcome_shown (o : Options) (r : Reference) (depth : Nat) (s : Scope) :
    (node o (.shown r) depth s).outcome =
      (s.resolve r.name).bind fun v =>
        if v.isSequence then .error (.mismatch r.name .scalar v.kind)
        else .ok (v.toText, s.bindReference r v) := by
  rw [node, Traced.outcome_bind, Traced.outcome_ofExcept]
  congr 1
  funext v
  split <;> rfl

theorem outcome_hidden (o : Options) (r : Reference) (depth : Nat) (s : Scope) :
    (node o (.hidden r) depth s).outcome =
      (s.resolve r.name).map fun v => ("", s.bindReference r v) := by
  rw [node, Traced.outcome_bind_pure, Traced.outcome_ofExcept]

theorem outcome_literal (o : Options) (text : String) (depth : Nat) (s : Scope) :
    (node o (.literal text) depth s).outcome = .ok (text, s) := by
  rw [node, Traced.outcome_pure]

theorem outcome_foreign (o : Options) (kind : String) (depth : Nat) (s : Scope) :
    (node o (.foreign kind) depth s).outcome = .error (.foreign kind) := by
  rw [node, Traced.outcome_fail]

/-- What a group writes, given what its columns are and what its rounds write: nesting, lanes,
columns and their lengths are looked at in this order, and then the rounds follow. -/
def groupText (o : Options) (children : List Node) (sep : Option String) (depth : Nat)
    (columnsOf : List Lane → Except RenderError (List Column))
    (roundText : List Lane → List Column → Nat → Except RenderError String) :
    Except RenderError String :=
  if o.maxDepth.groups < depth + 1 then .error (.tooDeep o.maxDepth.groups)
  else (planLanes children (depth + 1 : Nat)).bind fun lanes =>
    if lanes.isEmpty then .error .noLanes
    else (columnsOf lanes).bind fun cs =>
      (count o.lengthPolicy cs).outcome.bind fun n =>
        ((List.range n).mapM (roundText lanes cs)).map (sep.getD "").intercalate

/-- **What comes of a group**: its text, and the scope it began with. -/
theorem outcome_group (o : Options) (children : List Node) (sep : Option String) (depth : Nat)
    (s : Scope) :
    (node o (.group children sep) depth s).outcome =
      (groupText o children sep depth (columns s) fun lanes cs i =>
        (round o children depth s lanes cs i).outcome).map fun text => (text, s) := by
  rw [node, groupText]
  split
  · rfl
  · rw [Traced.outcome_bind, Traced.outcome_ofExcept]
    cases planLanes children (depth + 1 : Nat) with
    | error e => rfl
    | ok lanes =>
      simp only [Except.bind]
      split
      · rfl
      · rw [Traced.outcome_bind, Traced.outcome_ofExcept]
        cases columns s lanes with
        | error e => rfl
        | ok cs =>
          simp only [Except.bind]
          rw [Traced.outcome_bind]
          cases (count o.lengthPolicy cs).outcome with
          | error e => rfl
          | ok n =>
            simp only [Except.bind]
            rw [Traced.outcome_bind_pure, outcome_rounds, List.range_eq_range']
            rfl

/-- Groups whose columns are equal, and whose rounds write the same, write the same. -/
theorem groupText_congr {f f' : List Lane → Except RenderError (List Column)}
    {g g' : List Lane → List Column → Nat → Except RenderError String}
    (hf : ∀ lanes, planLanes children (depth + 1 : Nat) = .ok lanes → f lanes = f' lanes)
    (hg : ∀ lanes cs i, planLanes children (depth + 1 : Nat) = .ok lanes → f lanes = .ok cs →
      i < shortest cs → g lanes cs i = g' lanes cs i) :
    groupText o children sep depth f g = groupText o children sep depth f' g' := by
  unfold groupText
  split
  · rfl
  · cases hl : planLanes children (depth + 1 : Nat) with
    | error e => rfl
    | ok lanes =>
      simp only [Except.bind]
      split
      · rfl
      · rw [← hf lanes hl]
        cases hc : f lanes with
        | error e => rfl
        | ok cs =>
          dsimp only
          cases hn : (count o.lengthPolicy cs).outcome with
          | error e => rfl
          | ok n =>
            dsimp only
            rw [mapM_congr fun i hi => hg lanes cs i hl hc ?_]
            rw [← shortest_of_count hn]
            exact List.mem_range.mp hi

/-- **Where a group fails**: at its depth, at its lanes or for want of any, at a column, at the
lengths, or in a round, the rounds before being rendered. -/
theorem groupText_eq_error {f : List Lane → Except RenderError (List Column)}
    {g : List Lane → List Column → Nat → Except RenderError String}
    (h : groupText o children sep depth f g = .error e) :
    (o.maxDepth.groups < depth + 1 ∧ e = .tooDeep o.maxDepth.groups) ∨
    planLanes children (depth + 1 : Nat) = .error e ∨
    (planLanes children (depth + 1 : Nat) = .ok [] ∧ e = .noLanes) ∨
    ∃ lanes, planLanes children (depth + 1 : Nat) = .ok lanes ∧
      (f lanes = .error e ∨
      ∃ cs, f lanes = .ok cs ∧
        (e = .unequal (zip cs).lengths ∨
        depth + 1 ≤ o.maxDepth.groups ∧ (count o.lengthPolicy cs).outcome = .ok (shortest cs) ∧
          ∃ i < shortest cs, g lanes cs i = .error e ∧
            ∀ j < i, ∃ text, g lanes cs j = .ok text)) := by
  unfold groupText at h
  split at h
  · next hfull =>
    cases h
    exact .inl ⟨hfull, rfl⟩
  · next hshallow =>
    rcases bind_eq_error.mp h with h | ⟨lanes, hl, h⟩
    · exact .inr (.inl h)
    · split at h
      · next hnone =>
        cases h
        rw [List.isEmpty_iff.mp hnone] at hl
        exact .inr (.inr (.inl ⟨hl, rfl⟩))
      · refine .inr (.inr (.inr ⟨lanes, hl, ?_⟩))
        rcases bind_eq_error.mp h with h | ⟨cs, hc, h⟩
        · exact .inl h
        · refine .inr ⟨cs, hc, ?_⟩
          rcases bind_eq_error.mp h with h | ⟨n, hn, h⟩
          · rw [outcome_count] at h
            split at h
            · cases h
              exact .inl rfl
            · cases h
          · obtain rfl := shortest_of_count hn
            obtain ⟨i, hi, he, hbefore⟩ := exists_of_mapM_range_eq_error (map_eq_error.mp h)
            exact .inr ⟨Nat.not_lt.mp hshallow, hn, i, hi, he, hbefore⟩

theorem outcome_nodes_nil (o : Options) (depth : Nat) (s : Scope) :
    (nodes o [] depth s).outcome = .ok ("", s) := by
  rw [nodes, Traced.outcome_pure]

theorem outcome_nodes_cons (o : Options) (n : Node) (ns : List Node) (depth : Nat) (s : Scope) :
    (nodes o (n :: ns) depth s).outcome =
      (node o n depth s).outcome.bind fun p =>
        (nodes o ns depth p.2).outcome.map fun q => (p.1 ++ q.1, q.2) := by
  rw [nodes, Traced.outcome_bind]
  congr 1
  funext p
  rw [Traced.outcome_bind_pure]

/-- Nodes fail where the first of them fails, or else where those behind it do. -/
theorem nodes_cons_eq_error (h : (nodes o (node' :: ns) depth s).outcome = .error e) :
    (node o node' depth s).outcome = .error e ∨
      ∃ text s', (node o node' depth s).outcome = .ok (text, s') ∧
        (nodes o ns depth s').outcome = .error e := by
  rw [outcome_nodes_cons] at h
  rcases bind_eq_error.mp h with h | ⟨⟨text, s'⟩, hn, h⟩
  · exact .inl h
  · exact .inr ⟨text, s', hn, map_eq_error.mp h⟩

/-! ## What is left behind -/

/-- The scope behind a node: with what the node binds, if it is a reference that means something,
and otherwise as it was. -/
def after (s : Scope) (n : Node) : Scope :=
  match n.reference? with
  | .some r => ((s.lookup r.name).map (s.bindReference r)).getD s
  | .none => s

theorem after_eq_bindReference {n : Node} {r : Reference} {v : Value}
    (hr : n.reference? = .some r) (hv : s.lookup r.name = .some v) :
    after s n = s.bindReference r v := by
  simp [after, hr, hv]

theorem after_eq_self {n : Node} (hr : n.reference? = .none) : after s n = s := by
  simp [after, hr]

/-- A reference that is rendered means something. -/
theorem lookup_of_node {n : Node} {r : Reference} (hr : n.reference? = .some r)
    (h : (node o n depth s).outcome = .ok (text, s')) : ∃ v, s.lookup r.name = .some v := by
  cases n with
  | shown r' =>
    cases hr
    rw [outcome_shown] at h
    obtain ⟨v, hv, -⟩ := bind_eq_ok.mp h
    exact ⟨v, Scope.resolve_eq_ok.mp hv⟩
  | hidden r' =>
    cases hr
    rw [outcome_hidden] at h
    obtain ⟨v, hv, -⟩ := map_eq_ok.mp h
    exact ⟨v, Scope.resolve_eq_ok.mp hv⟩
  | literal text => cases hr
  | group children sep => cases hr
  | foreign kind => cases hr

/-- A reference to what is bound is rendered, unless it is to show a sequence. -/
theorem outcome_of_lookup {n : Node} {r : Reference} {v : Value} (hn : n.reference? = .some r)
    (hv : s.lookup r.name = .some v) (hs : n = .hidden r ∨ v.isSequence = false) :
    ∃ t, (node o n depth s).outcome = .ok (t, s.bindReference r v) ∧
      (n = .shown r → t = v.toText) := by
  cases n with
  | shown r' =>
    cases hn
    have hs : v.isSequence = false := hs.resolve_left nofun
    rw [outcome_shown, Scope.resolve_eq_ok.mpr hv]
    simp only [Except.bind, hs, Bool.false_eq_true, if_false]
    exact ⟨_, rfl, fun _ => rfl⟩
  | hidden r' =>
    cases hn
    rw [outcome_hidden, Scope.resolve_eq_ok.mpr hv]
    exact ⟨_, rfl, nofun⟩
  | literal text => cases hn
  | group children sep => cases hn
  | foreign kind => cases hn

/-- **A node leaves behind the scope with what it binds.** What is bound inside a group does not
come out of it. -/
theorem scope_of_node {n : Node} (h : (node o n depth s).outcome = .ok (text, s')) :
    s' = after s n := by
  cases n with
  | literal text =>
    rw [outcome_literal] at h
    cases h
    rfl
  | shown r =>
    rw [outcome_shown] at h
    obtain ⟨v, hv, h⟩ := bind_eq_ok.mp h
    rw [after_eq_bindReference rfl (Scope.resolve_eq_ok.mp hv)]
    split at h
    · cases h
    · cases h
      rfl
  | hidden r =>
    rw [outcome_hidden] at h
    obtain ⟨v, hv, h⟩ := map_eq_ok.mp h
    rw [after_eq_bindReference rfl (Scope.resolve_eq_ok.mp hv)]
    cases h
    rfl
  | group children sep =>
    rw [outcome_group] at h
    obtain ⟨text, -, h⟩ := map_eq_ok.mp h
    cases h
    rfl
  | foreign kind =>
    rw [outcome_foreign] at h
    cases h

/-- **What binding keeps is kept by every node**, whatever its references bind what they mean to. -/
theorem of_node {P : Scope → Prop} {n : Node} (h : P s)
    (hbind : ∀ r v, s.lookup r.name = .some v → P (s.bindReference r v))
    (hn : (node o n depth s).outcome = .ok (text, s')) : P s' := by
  rw [scope_of_node hn]
  cases hr : n.reference? with
  | none =>
    rw [after_eq_self hr]
    exact h
  | some r =>
    obtain ⟨v, hv⟩ := lookup_of_node hr hn
    rw [after_eq_bindReference hr hv]
    exact hbind r v hv

theorem env_of_node {n : Node} (h : (node o n depth s).outcome = .ok (text, s')) :
    s'.env = s.env :=
  of_node (P := fun u => u.env = s.env) rfl (fun r v _ => Scope.env_bindReference s r v) h

theorem scope_of_nodes (h : (nodes o ns depth s).outcome = .ok (text, s')) :
    s' = ns.foldl after s := by
  induction ns generalizing s text with
  | nil =>
    rw [outcome_nodes_nil] at h
    cases h
    rfl
  | cons n ns ih =>
    rw [outcome_nodes_cons] at h
    obtain ⟨⟨t, u⟩, hn, h⟩ := bind_eq_ok.mp h
    obtain ⟨⟨t', u'⟩, hns, h⟩ := map_eq_ok.mp h
    cases h
    rw [List.foldl_cons, ← scope_of_node hn, ih hns]

end Render

end Lockstep
