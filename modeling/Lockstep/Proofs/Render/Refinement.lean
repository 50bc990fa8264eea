/-
Rendering refines the plain reading of templates. The renderer keeps elements
under keys, and names reach them by aliases, through the layers of a scope;
the plain reading has one map. The two agree (`render_eq_plain`) on templates
in which no label of a lane is taken from it (`CaptureFree`).

The invariant is `Agrees`: every name that a template can spell means in the
scope what the map binds it to, and the key it stands for is the name itself,
the key of a lane without a label, or the label of a lane of a group around.
A reference that binds a label could change what other names mean only in the
last case, and there `Uncaptured` says that the lane's own name is read.
-/
import Lockstep.Proofs.Render.Outcome
import Lockstep.Proofs.Render.Plain

namespace Lockstep

/-! ## Templates that capture no label -/

/-- The lanes of a group whose label is not their name, each by its name and its label. -/
def relabelled (children : List Node) : List (String × String) :=
  match planLanes children 0 with
  | .ok lanes => (lanes.filter fun l => l.explicit && l.key != l.name).map fun l => (l.name, l.key)
  | .error _ => []

/-- Where one of the labels is bound, at any depth, the name that belongs to it is read. -/
def Uncaptured (labels : List (String × String)) (ns : List Node) : Prop :=
  ∀ p ∈ labels, ∀ r ∈ Node.references ns, r.bound = .some p.2 → r.name = p.1

instance (labels : List (String × String)) (ns : List Node) : Decidable (Uncaptured labels ns) :=
  inferInstanceAs (Decidable (∀ p ∈ labels, ∀ r ∈ Node.references ns,
    r.bound = .some p.2 → r.name = p.1))

/-- The children of a node, if it is a group. -/
def Node.children? : Node → Option (List Node)
  | .group children _ => .some children
  | _ => .none

/-- **No label of a lane is captured**: in every group, at every depth, only references to a
lane's own name bind its label. A lane whose label is its name is free. -/
def CaptureFree (ns : List Node) : Prop :=
  ∀ children ∈ (Node.partsList ns).filterMap Node.children?,
    Uncaptured (relabelled children) children

instance (ns : List Node) : Decidable (CaptureFree ns) :=
  inferInstanceAs (Decidable (∀ children ∈ (Node.partsList ns).filterMap Node.children?,
    Uncaptured (relabelled children) children))

theorem mem_relabelled {children : List Node} {depth : Int} {lanes : List Lane} {l : Lane}
    (h : planLanes children depth = .ok lanes) (hl : l ∈ lanes) (he : l.explicit = true)
    (hne : l.key ≠ l.name) : (l.name, l.key) ∈ relabelled children := by
  rw [relabelled, Lanes.planLanes_depth children depth 0, h]
  refine List.mem_map.mpr ⟨l, List.mem_filter.mpr ⟨?_, by simp [he, hne]⟩, rfl⟩
  exact List.mem_map.mpr ⟨l, hl, by simp [Lanes.atDepth, he]⟩

/-- The labels of a plan belong to lanes of the plan. -/
theorem exists_of_mem_relabelled {children : List Node} {p : String × String}
    (h : p ∈ relabelled children) :
    ∃ n ∈ children, ∃ r, n.reference? = .some r ∧ r.name = p.1 ∧ r.bound = .some p.2 := by
  unfold relabelled at h
  split at h
  · next lanes hlanes =>
    obtain ⟨l, hl, rfl⟩ := List.mem_map.mp h
    obtain ⟨hl, he⟩ := List.mem_filter.mp hl
    obtain ⟨n, hn, r, hr, rfl⟩ := Lanes.exists_of_planLanes hlanes hl
    simp only [Bool.and_eq_true] at he
    exact ⟨n, hn, r, hr, (Lanes.laneOf_name 0 r).symm, Lanes.bound_of_explicit he.1⟩
  · cases h

theorem Uncaptured.append {labels labels' : List (String × String)} {ns : List Node}
    (h : Uncaptured labels ns) (h' : Uncaptured labels' ns) :
    Uncaptured (labels ++ labels') ns := by
  intro p hp
  rcases List.mem_append.mp hp with hp | hp
  · exact h p hp
  · exact h' p hp

section

variable {labels : List (String × String)} {n : Node} {ns children : List Node}
  {sep : Option String}

theorem Uncaptured.tail (h : Uncaptured labels (n :: ns)) : Uncaptured labels ns :=
  fun p hp r hr => h p hp r (Node.references_subset_tail n ns hr)

theorem Uncaptured.inside (h : Uncaptured labels (.group children sep :: ns)) :
    Uncaptured labels children :=
  fun p hp r hr => h p hp r (Node.references_subset_children children sep ns hr)

theorem CaptureFree.tail (h : CaptureFree (n :: ns)) : CaptureFree ns := by
  intro body hbody
  refine h body ?_
  rw [Node.partsList_cons, List.filterMap_append]
  exact List.mem_append_right _ hbody

theorem CaptureFree.inside (h : CaptureFree (.group children sep :: ns)) :
    CaptureFree children := by
  intro body hbody
  refine h body ?_
  obtain ⟨m, hm, hb⟩ := List.mem_filterMap.mp hbody
  rw [Node.partsList_cons]
  exact List.mem_filterMap.mpr ⟨m, List.mem_append_left _ (Node.mem_parts_group hm), hb⟩

theorem CaptureFree.uncaptured (h : CaptureFree (.group children sep :: ns)) :
    Uncaptured (relabelled children) children := by
  refine h children (List.mem_filterMap.mpr ⟨.group children sep, ?_, rfl⟩)
  rw [Node.partsList_cons]
  exact List.mem_append_left _ (Node.mem_parts_self _)

end

/-! ## The map in a round -/

namespace Plain

open Render (Column shortest)

variable {ρ : Env} {cs : List Column} {c : Column} {i : Nat} {m : String} {v : Value}

theorem bindLane_apply (ρ : Env) (l : Lane) (v : Value) (m : String) :
    bindLane ρ l v m = if l.Means m then .some v else ρ m := by
  by_cases he : l.explicit = true
  · by_cases hk : m = l.key
    · simp [bindLane, bind, Lane.Means, he, hk]
    · simp [bindLane, bind, Lane.Means, he, hk]
  · simp [bindLane, bind, Lane.Means, he]

theorem bindElements_of_not (h : ∀ c ∈ cs, ¬ c.1.Means m) : bindElements ρ i cs m = ρ m := by
  induction cs generalizing ρ with
  | nil => rfl
  | cons c cs ih =>
    have htail : ∀ c ∈ cs, ¬ c.1.Means m := fun c' hc' => h c' (List.mem_cons_of_mem _ hc')
    rw [bindElements]
    cases c.2.get? i with
    | some v => exact (ih htail).trans (by rw [bindLane_apply, if_neg (h c List.mem_cons_self)])
    | none => exact ih htail

theorem bindElements_of_means (hp : (cs.map (·.1)).Pairwise Lanes.Apart) (hc : c ∈ cs)
    (hm : c.1.Means m) (hv : c.2.get? i = .some v) : bindElements ρ i cs m = .some v := by
  induction cs generalizing ρ with
  | nil => cases hc
  | cons c' cs ih =>
    rw [List.map_cons, List.pairwise_cons] at hp
    rcases List.mem_cons.mp hc with rfl | hc
    · have hno : ∀ c' ∈ cs, ¬ c'.1.Means m := fun c' hc' =>
        (hp.1 c'.1 (List.mem_map_of_mem hc')).not_means hm
      rw [bindElements, hv]
      simp only
      rw [bindElements_of_not hno, bindLane_apply, if_pos hm]
    · rw [bindElements]
      cases c'.2.get? i with
      | some w => exact ih hp.2 hc
      | none => exact ih hp.2 hc

theorem repetitions_eq_count (policy : LengthPolicy) (cs : List Column) :
    repetitions policy cs = (Render.count policy cs).outcome := by
  have hu : ((Render.zip cs).isUneven && policy == .strict) = true ↔
      policy = .strict ∧ ∃ c ∈ cs, c.2.length ≠ ((cs.map (·.2.length)).min?).getD 0 := by
    simp [Render.zip, Zip.isUneven, shortest, and_comm]
  rw [Render.outcome_count, repetitions]
  by_cases h : policy = .strict ∧ ∃ c ∈ cs, c.2.length ≠ ((cs.map (·.2.length)).min?).getD 0
  · rw [if_pos h, if_pos (hu.mpr h)]
    rfl
  · rw [if_neg h, if_neg fun h' => h (hu.mp h')]
    rfl

end Plain

/-! ## Agreement -/

/-- A scope at a depth agrees with a map: names mean what the map binds them to, and stand for
themselves, for the label that belongs to them, or for a key that no template can spell. -/
structure Agrees (labels : List (String × String)) (depth : Nat) (s : Scope) (ρ : Env) : Prop where
  lookup : ∀ m, NoHash m → s.lookup m = ρ m
  keyFor : ∀ m, NoHash m → s.keyFor m = m ∨ (m, s.keyFor m) ∈ labels ∨
    ∃ name d, d ≤ depth ∧ s.keyFor m = laneKey name d
  spelled : ∀ p ∈ labels, NoHash p.2

namespace Agrees

variable {labels : List (String × String)} {depth i : Nat} {s : Scope} {ρ : Env} {r : Reference}
  {v : Value} {children : List Node} {lanes : List Lane} {cs : List Render.Column} {o : Options}

theorem root (env : Env) : Agrees [] 0 (.root env) env where
  lookup m _ := Scope.lookup_root env m
  keyFor m _ := .inl (by simp [Scope.keyFor_eq])
  spelled p hp := by cases hp

theorem resolve (h : Agrees labels depth s ρ) {name : String} (hn : NoHash name) :
    s.resolve name = Plain.read ρ name := by
  rw [Plain.read, ← h.lookup name hn]
  rfl

/-- Binding a label changes what another name means only if that name stands for the label. Then
the name is the one that was read, and means the value already. -/
theorem bindReference (h : Agrees labels depth s ρ) (hu : ∀ p ∈ labels, r.bound = .some p.2 →
    r.name = p.1) (hb : ∀ a, r.bound = .some a → NoHash a)
    (hv : s.lookup r.name = .some v) :
    Agrees labels depth (s.bindReference r v) (Plain.bindReference ρ r v) := by
  cases ha : r.bound with
  | none =>
    rw [Scope.bindReference_eq_self ha, Plain.bindReference, ha]
    exact h
  | some a =>
    have hmap : Plain.bindReference ρ r v = Plain.bind ρ a v := by
      rw [Plain.bindReference, ha]
    rw [Scope.bindReference_eq_bind ha, hmap]
    refine ⟨fun m hm => ?_, fun m hm => ?_, h.spelled⟩
    · rw [Scope.lookup_bind]
      by_cases hma : m = a
      · simp [Plain.bind, hma]
      · rw [show Plain.bind ρ a v m = ρ m from if_neg hma]
        split
        · next hk =>
          have hk := hk.resolve_left hma
          rcases h.keyFor m hm with hself | hlabel | ⟨name, d, -, hkey⟩
          · exact absurd (hself.symm.trans hk) hma
          · rw [hk] at hlabel
            have hname : r.name = m := hu (m, a) hlabel ha
            rw [← h.lookup m hm, ← hname, hv]
          · exact absurd (hkey.symm.trans hk) (laneKey_ne_of_noHash (hb a ha) name d)
        · exact h.lookup m hm
    · rw [Scope.keyFor_bind]
      split
      · next hma => exact .inl hma.symm
      · exact h.keyFor m hm

/-- Columns are the same, for they are made of what the names of the lanes mean. -/
theorem columns (h : Agrees labels depth s ρ) (hf : ∀ l ∈ lanes, NoHash l.name) :
    Render.columns s lanes = lanes.mapM (Plain.column ρ) := by
  induction lanes with
  | nil => rfl
  | cons l lanes ih =>
    have hl : Render.column s l = Plain.column ρ l := by
      rw [Render.column, Plain.column, h.resolve (hf l List.mem_cons_self)]
      cases Plain.read ρ l.name with
      | error e => rfl
      | ok v =>
        simp only [bind, Except.bind]
        cases v.sequence? <;> rfl
    rw [Render.columns, mapM_cons, hl, ih fun l' hl' => hf l' (List.mem_cons_of_mem _ hl')]
    cases Plain.column ρ l <;> rfl

/-- A name from outside a group does not stand for the key of a lane: not for its label, which only
its own name may bind, and not for a key of its depth. -/
theorem keyFor_ne_key (h : Agrees labels depth s ρ) (hf : HashFree children)
    (hu : Uncaptured labels children) (hlanes : planLanes children (depth + 1 : Nat) = .ok lanes)
    {m : String} (hm : NoHash m) (hno : ∀ l ∈ lanes, ¬ l.Means m) {l : Lane} (hl : l ∈ lanes) :
    s.keyFor m ≠ l.key := by
  intro hkey
  have hspelled := Lanes.spelled_of_planLanes hf hlanes hl
  cases he : l.explicit with
  | true =>
    have hlabel := hspelled.label he
    rw [← hkey] at hlabel
    rcases h.keyFor m hm with hself | hin | ⟨name, d, -, hgen⟩
    · exact hno l hl (.inr ⟨he, hself.symm.trans hkey⟩)
    · obtain ⟨n, hn, r, hr, rfl⟩ := Lanes.exists_of_planLanes hlanes hl
      have hb := Lanes.bound_of_explicit he
      rw [← hkey] at hb
      have hname := hu _ hin r (Node.mem_references_of_mem hn hr) hb
      refine hno _ hl (.inl ?_)
      rw [Lanes.laneOf_name]
      exact hname.symm
    · exact laneKey_ne_of_noHash hlabel name d hgen.symm
  | false =>
    have hgen := hkey.trans (hspelled.key he)
    rcases h.keyFor m hm with hself | hin | ⟨name, d, hd, hgen'⟩
    · exact laneKey_ne_of_noHash hm _ _ (hgen.symm.trans hself)
    · exact laneKey_ne_of_noHash (h.spelled _ hin) _ _ hgen.symm
    · have hdepth := (laneKey_inj (hgen'.symm.trans hgen)).2
      omega

/-- What names stand for in a round. -/
theorem keyFor_round (h : Agrees labels depth s ρ) (hf : HashFree children)
    (hlanes : planLanes children (depth + 1 : Nat) = .ok lanes) {m : String} (hm : NoHash m) :
    (Render.roundScope s lanes cs i).keyFor m = m ∨
      (m, (Render.roundScope s lanes cs i).keyFor m) ∈ labels ++ relabelled children ∨
      ∃ name d, d ≤ depth + 1 ∧ (Render.roundScope s lanes cs i).keyFor m = laneKey name d := by
  by_cases hmeans : ∃ l ∈ lanes, l.Means m
  · obtain ⟨l, hl, hlm⟩ := hmeans
    rw [Render.keyFor_roundScope_of_means (Lanes.apart_of_planLanes hlanes) hl hlm]
    cases he : l.explicit with
    | false =>
      exact .inr (.inr ⟨l.name, depth + 1, Nat.le_refl _,
        (Lanes.spelled_of_planLanes hf hlanes hl).key he⟩)
    | true =>
      rcases hlm with rfl | ⟨-, rfl⟩
      · by_cases hne : l.key = l.name
        · exact .inl hne
        · exact .inr (.inl (List.mem_append_right _ (mem_relabelled hlanes hl he hne)))
      · exact .inl rfl
  · have hno : ∀ l ∈ lanes, ¬ l.Means m := fun l hl hlm => hmeans ⟨l, hl, hlm⟩
    rw [Render.keyFor_roundScope_of_not hno]
    rcases h.keyFor m hm with hself | hin | ⟨name, d, hd, hgen⟩
    · exact .inl hself
    · exact .inr (.inl (List.mem_append_left _ hin))
    · exact .inr (.inr ⟨name, d, by omega, hgen⟩)

/-- What names mean in a round: the elements at hand, and all else what it meant before. -/
theorem lookup_round (h : Agrees labels depth s ρ) (hf : HashFree children)
    (hu : Uncaptured labels children) (hlanes : planLanes children (depth + 1 : Nat) = .ok lanes)
    (hcs : Render.columns s lanes = .ok cs) (hi : i < Render.shortest cs) {m : String}
    (hm : NoHash m) :
    (Render.roundScope s lanes cs i).lookup m = Plain.bindElements ρ i cs m := by
  have hp := Lanes.apart_of_planLanes hlanes
  have hlanes_cs := Render.columns_lanes hcs
  by_cases hmeans : ∃ c ∈ cs, c.1.Means m
  · obtain ⟨c, hc, hcm⟩ := hmeans
    obtain ⟨v, hv⟩ := Option.isSome_iff_exists.mp (Render.isSome_get?_of_lt_shortest hi hc)
    have hk : (cs.map (·.1.key)).Nodup := Render.columns_keys hcs ▸ Lanes.keys_nodup hf hlanes
    rw [Render.lookup_roundScope_of_means hp hk (Render.mem_lanes_of_columns hcs hc) hc hcm hv,
      Plain.bindElements_of_means (hlanes_cs ▸ hp) hc hcm hv]
  · have hnoc : ∀ c ∈ cs, ¬ c.1.Means m := fun c hc hcm => hmeans ⟨c, hc, hcm⟩
    have hno : ∀ l ∈ lanes, ¬ l.Means m := by
      rw [← hlanes_cs]
      intro l hl
      obtain ⟨c, hc, rfl⟩ := List.mem_map.mp hl
      exact hnoc c hc
    have hout : ∀ c ∈ cs, s.keyFor m ≠ c.1.key := fun c hc =>
      h.keyFor_ne_key hf hu hlanes hm hno (Render.mem_lanes_of_columns hcs hc)
    rw [Render.lookup_roundScope_of_not hno hout, Plain.bindElements_of_not hnoc]
    exact h.lookup m hm

/-- **Agreement carries into every round of a group.** -/
theorem round (h : Agrees labels depth s ρ) (hf : HashFree children)
    (hu : Uncaptured labels children) (hlanes : planLanes children (depth + 1 : Nat) = .ok lanes)
    (hcs : Render.columns s lanes = .ok cs) (hi : i < Render.shortest cs) :
    Agrees (labels ++ relabelled children) (depth + 1) (Render.roundScope s lanes cs i)
      (Plain.bindElements ρ i cs) where
  lookup _ hm := h.lookup_round hf hu hlanes hcs hi hm
  keyFor _ hm := h.keyFor_round hf hlanes hm
  spelled p hp := by
    rcases List.mem_append.mp hp with hp | hp
    · exact h.spelled p hp
    · obtain ⟨n, hn, r, hr, -, hb⟩ := exists_of_mem_relabelled hp
      exact hf.bound (Node.mem_references_of_mem hn hr) hb

end Agrees

/-! ## Refinement -/

section

variable {o : Options} {labels : List (String × String)} {depth : Nat} {s s' : Scope} {ρ ρ' : Env}
  {n : Node} {ns : List Node}

/-- If the first node writes the same text, and the others write the same in what it leaves behind,
all of them write the same. -/
theorem text_nodes_cons {x : Except RenderError String}
    (hs : (Render.node o n depth s).outcome = x.map fun text => (text, s'))
    (hρ : Plain.node o n depth ρ = x.map fun text => (text, ρ'))
    (hns : (Render.nodes o ns depth s').outcome.map (·.1) = Plain.nodes o ns depth ρ') :
    (Render.nodes o (n :: ns) depth s).outcome.map (·.1) = Plain.nodes o (n :: ns) depth ρ := by
  rw [Render.outcome_nodes_cons, Plain.nodes, hs, hρ]
  cases x with
  | error e => rfl
  | ok text =>
    simp only [Except.map, bind, Except.bind]
    rw [← hns]
    cases (Render.nodes o ns depth s').outcome <;> rfl

theorem plain_group (o : Options) (children : List Node) (sep : Option String) (depth : Nat)
    (ρ : Env) :
    Plain.node o (.group children sep) depth ρ =
      (Render.groupText o children sep depth (fun lanes => lanes.mapM (Plain.column ρ))
        fun _ cs i => Plain.nodes o children (depth + 1) (Plain.bindElements ρ i cs)).map
          fun text => (text, ρ) := by
  rw [Plain.node, Render.groupText]
  split
  · rfl
  · simp only [bind]
    cases planLanes children (depth + 1 : Nat) with
    | error e => rfl
    | ok lanes =>
      simp only [Except.bind]
      split
      · rfl
      · cases lanes.mapM (Plain.column ρ) with
        | error e => rfl
        | ok cs =>
          simp only [Plain.repetitions_eq_count]
          cases (Render.count o.lengthPolicy cs).outcome with
          | error e => rfl
          | ok n =>
            simp only
            cases (List.range n).mapM fun i =>
              Plain.nodes o children (depth + 1) (Plain.bindElements ρ i cs) <;> rfl

/-- **Agreeing scopes and maps give the same texts**, by induction on the nodes: a reference binds
the same value on both sides, and a group has the same columns and, by the hypothesis on its
children, the same rounds. -/
theorem text_nodes_of_agrees (hf : HashFree ns) (hc : CaptureFree ns) (hu : Uncaptured labels ns)
    (h : Agrees labels depth s ρ) :
    (Render.nodes o ns depth s).outcome.map (·.1) = Plain.nodes o ns depth ρ := by
  induction ns using Node.listInduction generalizing labels depth s ρ with
  | nil =>
    rw [Render.outcome_nodes_nil, Plain.nodes]
    rfl
  | literal text ns ih =>
    refine text_nodes_cons (x := .ok text) ?_ ?_ (ih hf.tail hc.tail hu.tail h)
    · rw [Render.outcome_literal]
      rfl
    · rw [Plain.node]
      rfl
  | shown r ns ih =>
    have hr : r ∈ Node.references (.shown r :: ns) :=
      Node.mem_references_of_mem List.mem_cons_self rfl
    cases hv : s.lookup r.name with
    | none =>
      refine text_nodes_cons (x := .error (.missing [r.name])) ?_ ?_
        (ih hf.tail hc.tail hu.tail h)
      · rw [Render.outcome_shown, Scope.resolve_eq_error.mpr ⟨hv, rfl⟩]
        rfl
      · rw [Plain.node, ← h.resolve (hf.name hr), Scope.resolve_eq_error.mpr ⟨hv, rfl⟩]
        rfl
    | some v =>
      have h' := h.bindReference (fun p hp => hu p hp r hr) (fun a => hf.bound hr) hv
      refine text_nodes_cons
        (x := if v.isSequence then .error (.mismatch r.name .scalar v.kind) else .ok v.toText)
        ?_ ?_ (ih hf.tail hc.tail hu.tail h')
      · rw [Render.outcome_shown, Scope.resolve_eq_ok.mpr hv]
        simp only [Except.bind]
        split <;> rfl
      · rw [Plain.node, ← h.resolve (hf.name hr), Scope.resolve_eq_ok.mpr hv]
        simp only [bind, Except.bind]
        split <;> rfl
  | hidden r ns ih =>
    have hr : r ∈ Node.references (.hidden r :: ns) :=
      Node.mem_references_of_mem List.mem_cons_self rfl
    cases hv : s.lookup r.name with
    | none =>
      refine text_nodes_cons (x := .error (.missing [r.name])) ?_ ?_
        (ih hf.tail hc.tail hu.tail h)
      · rw [Render.outcome_hidden, Scope.resolve_eq_error.mpr ⟨hv, rfl⟩]
        rfl
      · rw [Plain.node, ← h.resolve (hf.name hr), Scope.resolve_eq_error.mpr ⟨hv, rfl⟩]
        rfl
    | some v =>
      have h' := h.bindReference (fun p hp => hu p hp r hr) (fun a => hf.bound hr) hv
      refine text_nodes_cons (x := .ok "") ?_ ?_ (ih hf.tail hc.tail hu.tail h')
      · rw [Render.outcome_hidden, Scope.resolve_eq_ok.mpr hv]
        rfl
      · rw [Plain.node, ← h.resolve (hf.name hr), Scope.resolve_eq_ok.mpr hv]
        rfl
  | group children sep ns ihc ih =>
    refine text_nodes_cons (Render.outcome_group o children sep depth s) ?_
      (ih hf.tail hc.tail hu.tail h)
    rw [plain_group]
    congr 1
    refine Render.groupText_congr (fun lanes hlanes => ?_) (fun lanes cs i hlanes hcs hi => ?_)
    · exact (h.columns fun l hl => (Lanes.spelled_of_planLanes hf.children hlanes hl).name).symm
    · have hcols := h.columns fun l hl =>
        (Lanes.spelled_of_planLanes hf.children hlanes hl).name
      rw [Render.outcome_round]
      exact (ihc hf.children hc.inside (hu.inside.append hc.uncaptured)
        (h.round hf.children hu.inside hlanes (hcols.trans hcs) hi)).symm
  | foreign kind ns ih =>
    refine text_nodes_cons (x := .error (.foreign kind)) ?_ ?_ (ih hf.tail hc.tail hu.tail h)
    · rw [Render.outcome_foreign]
      rfl
    · rw [Plain.node]
      rfl

end

/-- **Rendering refines the plain reading.** A template that names no key and captures no label
comes out, under all options and in every environment, as it reads over one map: the same text,
or the same error. -/
theorem render_eq_plain (o : Options) (template : List Node) (env : Env)
    (hf : HashFree template) (hc : CaptureFree template) :
    render o template env = Plain.render o template env := by
  have htext := text_nodes_of_agrees (o := o) hf hc (fun p hp => by cases hp) (Agrees.root env)
  rw [Plain.render, ← htext, render, renderTraced]
  exact Traced.outcome_bind_pure _ _

/-- The refinement for rows of a table: labelled lanes, a label shown by its lane's side, and a
group inside that iterates the label. -/
theorem render_eq_plain_rows :
    let rows : List Node := [.group [.hidden ⟨"rows", .some "row"⟩, .shown ⟨"names", .some "n"⟩,
      .literal "=", .group [.shown ⟨"row", .some "cell"⟩] (.some "+"), .shown ⟨"n", .none⟩]
      (.some "; ")]
    let env : Env := fun name =>
      if name = "rows" then .some (.list [.list [.text "1", .text "2"], .list [.text "3"]])
      else if name = "names" then .some (.tuple [.text "a", .text "b", .text "c"])
      else .none
    HashFree rows ∧ CaptureFree rows ∧ render {} rows env = Plain.render {} rows env ∧
      Plain.render {} rows env = .ok "a=1+2a; b=3b" := by
  intro rows env
  have hf : HashFree rows := by decide
  have hc : CaptureFree rows := by decide
  exact ⟨hf, hc, render_eq_plain {} rows env hf hc, by rfl⟩

end Lockstep
