/-
A group writes what it would write for each row alone, with the separator
between each two (`group_joins_rows`). Row `i` is the environment in which each
lane is bound to the list of one element, the one at position `i` of its
sequence (`Render.rowEnv`).

In the round of a row alone the scope has the layers that it has in round `i`
of the whole, above the environment of the row. The two environments differ at
the names of the lanes and nowhere else, and those are never read there, for
they are bound in a layer (`Render.unmoved_nodes`).
-/
import Lockstep.Proofs.Render.Environment

namespace Lockstep

/-! ## Texts joined -/

/-- There is one separator less than there are texts. -/
theorem length_intercalate (separator : String) (texts : List String) :
    (separator.intercalate texts).length =
      (String.join texts).length + (texts.length - 1) * separator.length := by
  induction texts with
  | nil => simp
  | cons text texts ih =>
    cases texts with
    | nil => simp
    | cons text' texts =>
      have hjoin : (String.join (text :: text' :: texts)).length =
          text.length + (String.join (text' :: texts)).length := by
        rw [String.join_cons, String.length_append]
      rw [String.intercalate_cons_cons, String.length_append, String.length_append, ih, hjoin]
      simp only [List.length_cons, Nat.add_sub_cancel, Nat.succ_mul]
      omega

namespace Render

variable {o : Options} {children : List Node} {sep : Option String} {env env' : Env} {s : Scope}
  {lanes : List Lane} {q q' : String → Sequence} {i n : Nat}

/-! ## Rows -/

/-- The name of each lane is bound to its sequence. -/
def BindsLanes (env : Env) (lanes : List Lane) (q : String → Sequence) : Prop :=
  ∀ l ∈ lanes, ∃ v, env l.name = .some v ∧ v.sequence? = .some (q l.name)

/-- The policy admits the lengths of the lanes: it stops at the shortest, or they are all equal. -/
def Admits (policy : LengthPolicy) (lanes : List Lane) (q : String → Sequence) : Prop :=
  policy = .truncate ∨ ∀ l ∈ lanes, ∀ l' ∈ lanes, (q l.name).length = (q l'.name).length

/-- The length of the shortest lane, if there are any. -/
def leastLength? (lanes : List Lane) (q : String → Sequence) : Option Nat :=
  (lanes.map fun l => (q l.name).length).min?

theorem ne_nil_of_leastLength? (hn : leastLength? lanes q = .some n) : lanes ≠ [] := by
  rintro rfl
  cases hn

/-- Lanes of one length have it as their least. -/
theorem leastLength?_of_forall (hne : lanes ≠ []) (h : ∀ l ∈ lanes, (q l.name).length = n) :
    leastLength? lanes q = .some n := by
  obtain ⟨l, hl⟩ := List.exists_mem_of_ne_nil lanes hne
  refine List.min?_eq_some_iff.mpr ⟨List.mem_map.mpr ⟨l, hl, h l hl⟩, fun k hk => ?_⟩
  obtain ⟨l', hl', rfl⟩ := List.mem_map.mp hk
  exact Nat.le_of_eq (h l' hl').symm

theorem length_le_of_leastLength? (hn : leastLength? lanes q = .some n) {l : Lane}
    (hl : l ∈ lanes) : n ≤ (q l.name).length :=
  (List.min?_eq_some_iff.mp hn).2 _ (List.mem_map_of_mem hl)

/-- **The environment of a row**: the name of each lane is bound to the list of one element, the one
at position `i` of its sequence, and all other names to what they are bound to. -/
def rowEnv (env : Env) (lanes : List Lane) (q : String → Sequence) (i : Nat) : Env := fun m =>
  if m ∈ lanes.map (·.name) then ((q m).get? i).map fun v => .list [v] else env m

/-- The one element of each sequence at position `i`. -/
def elementAt (q : String → Sequence) (i : Nat) (m : String) : Sequence :=
  .items ((q m).get? i).toList

/-- The columns of lanes over their sequences. -/
def columnsOver (lanes : List Lane) (q : String → Sequence) : List Column :=
  lanes.map fun l => (l, q l.name)

theorem columns_root (h : BindsLanes env lanes q) :
    columns (.root env) lanes = .ok (columnsOver lanes q) := by
  induction lanes with
  | nil => rfl
  | cons l lanes ih =>
    obtain ⟨v, hv, hq⟩ := h l List.mem_cons_self
    have hl : column (.root env) l = .ok (l, q l.name) := by
      rw [column, Scope.resolve, Scope.lookup_root, hv]
      simp only [hq]
    rw [columns, hl]
    simp only [ih fun l' hl' => h l' (List.mem_cons_of_mem _ hl'), Except.map]
    rfl

theorem shortest_columnsOver (h : leastLength? lanes q = .some n) :
    shortest (columnsOver lanes q) = n := by
  rw [shortest, columnsOver, List.map_map]
  exact congrArg (Option.getD · 0) h

theorem outcome_count_columnsOver (h : leastLength? lanes q = .some n)
    (hadmits : Admits o.lengthPolicy lanes q) :
    (count o.lengthPolicy (columnsOver lanes q)).outcome = .ok n := by
  have hpolicy : ((zip (columnsOver lanes q)).isUneven && o.lengthPolicy == .strict) = false := by
    rcases hadmits with htruncate | hequal
    · simp [htruncate]
    · have hmin := List.min?_mem h
      obtain ⟨l, hl, hn⟩ := List.mem_map.mp hmin
      have heven : (zip (columnsOver lanes q)).isUneven = false := by
        rw [Zip.isUneven, List.any_eq_false]
        intro p hp
        simp only [zip, columnsOver, List.map_map, List.mem_map] at hp
        obtain ⟨l', hl', rfl⟩ := hp
        have hlength : (q l'.name).length = n := (hequal l' hl' l hl).trans hn
        have hcount : (zip (columnsOver lanes q)).count = n := shortest_columnsOver h
        simp [hcount, hlength]
      simp [heven]
  rw [outcome_count, hpolicy, shortest_columnsOver h]
  rfl

/-- **A group over sequences writes its rounds**, with the separator between each two. -/
theorem render_group (hl : planLanes children 1 = .ok lanes) (hb : BindsLanes env lanes q)
    (hn : leastLength? lanes q = .some n) (hadmits : Admits o.lengthPolicy lanes q) :
    render o [.group children sep] env =
      ((List.range n).mapM fun i =>
        (round o children 0 (.root env) lanes (columnsOver lanes q) i).outcome).map
          (sep.getD "").intercalate := by
  have hlanes : lanes.isEmpty = false := List.isEmpty_eq_false_iff.mpr (ne_nil_of_leastLength? hn)
  have hdepth : ¬ o.maxDepth.groups < 0 + 1 := Nat.not_lt.mpr o.maxDepth.pos
  have hplan : planLanes children (0 + 1 : Nat) = .ok lanes := hl
  rw [render, renderTraced, Traced.outcome_bind_pure, outcome_nodes_cons, outcome_group, groupText,
    if_neg hdepth, hplan]
  simp only [Except.bind, hlanes, columns_root hb, outcome_count_columnsOver hn hadmits,
    Bool.false_eq_true, if_false]
  cases (List.range n).mapM fun i =>
      (round o children 0 (.root env) lanes (columnsOver lanes q) i).outcome with
  | error e => rfl
  | ok texts => simp [Except.map, outcome_nodes_nil]

/-! ## A row alone -/

theorem rowEnv_of_mem {m : String} (hm : m ∈ lanes.map (·.name)) :
    rowEnv env lanes q i m = ((q m).get? i).map fun v => .list [v] :=
  if_pos hm

theorem rowEnv_of_not_mem {m : String} (hm : m ∉ lanes.map (·.name)) :
    rowEnv env lanes q i m = env m :=
  if_neg hm

/-- Rows are the same if their elements are, and all that is not a lane. -/
theorem rowEnv_congr (helement : ∀ l ∈ lanes, (q' l.name).get? i = (q l.name).get? i)
    (hother : ∀ m, m ∉ lanes.map (·.name) → env' m = env m) :
    rowEnv env' lanes q' i = rowEnv env lanes q i := by
  funext m
  by_cases hm : m ∈ lanes.map (·.name)
  · rw [rowEnv_of_mem hm, rowEnv_of_mem hm]
    obtain ⟨l, hl, rfl⟩ := List.mem_map.mp hm
    rw [helement l hl]
  · rw [rowEnv_of_not_mem hm, rowEnv_of_not_mem hm, hother m hm]

/-- Every lane has one element in a row. -/
theorem bindsLanes_rowEnv (env : Env) (hn : leastLength? lanes q = .some n) (hi : i < n) :
    BindsLanes (rowEnv env lanes q i) lanes (elementAt q i) ∧
      ∀ l ∈ lanes, (elementAt q i l.name).length = 1 := by
  have helement : ∀ l ∈ lanes, ∃ v, (q l.name).get? i = .some v := fun l hl =>
    Option.isSome_iff_exists.mp <| (Sequence.isSome_get? _ _).mpr <|
      Nat.lt_of_lt_of_le hi (length_le_of_leastLength? hn hl)
  refine ⟨fun l hl => ?_, fun l hl => ?_⟩
  · obtain ⟨v, hv⟩ := helement l hl
    refine ⟨.list [v], ?_, ?_⟩
    · rw [rowEnv_of_mem (List.mem_map_of_mem hl), hv]
      rfl
    · simp [Value.sequence?, elementAt, hv]
  · obtain ⟨v, hv⟩ := helement l hl
    simp [elementAt, hv, Sequence.length]

theorem setElements_elementAt (s : Scope) (lanes : List Lane) (q : String → Sequence) (i : Nat) :
    setElements s (columnsOver lanes (elementAt q i)) 0 =
      setElements s (columnsOver lanes q) i := by
  induction lanes generalizing s with
  | nil => rfl
  | cons l lanes ih =>
    have hget : (elementAt q i l.name).get? 0 = (q l.name).get? i := by
      rw [elementAt, Sequence.get?]
      cases (q l.name).get? i <;> rfl
    have hset : setElement 0 s (l, elementAt q i l.name) = setElement i s (l, q l.name) := by
      simp only [setElement, hget]
    rw [columnsOver, columnsOver, List.map_cons, List.map_cons, setElements_cons, setElements_cons,
      hset]
    exact ih _

/-- **The only round of a row alone is round `i` of the whole.** -/
theorem outcome_round_row (hl : planLanes children 1 = .ok lanes) (hb : BindsLanes env lanes q)
    (hn : leastLength? lanes q = .some n) (hi : i < n) :
    (round o children 0 (.root (rowEnv env lanes q i)) lanes
        (columnsOver lanes (elementAt q i)) 0).outcome =
      (round o children 0 (.root env) lanes (columnsOver lanes q) i).outcome := by
  have hscope : roundScope (.root (rowEnv env lanes q i)) lanes
        (columnsOver lanes (elementAt q i)) 0 =
      (roundScope (.root env) lanes (columnsOver lanes q) i).withEnv (rowEnv env lanes q i) := by
    rw [← roundScope_withEnv, roundScope, roundScope, setElements_elementAt]
    rfl
  have hcovers : Covers (FreeNames.laneNames lanes ++ [])
      (roundScope (.root env) lanes (columnsOver lanes q) i) :=
    (Covers.root env).round hl (columns_root hb) (shortest_columnsOver hn ▸ hi)
  have hmoved : Unmoved (rowEnv env lanes q i) (nodes o children (0 + 1))
      (roundScope (.root env) lanes (columnsOver lanes q) i) := by
    refine unmoved_nodes hcovers fun m hm => ?_
    rw [env_roundScope, Scope.env_root, rowEnv_of_not_mem]
    -- A lane is bound in its group, so its name is not free in the children.
    intro hlane
    obtain ⟨l, hl, rfl⟩ := List.mem_map.mp hlane
    exact hm.not_mem (List.mem_append_left _ (FreeNames.mem_laneNames.mpr ⟨l, hl, .inl rfl⟩))
  rw [Unmoved] at hmoved
  rw [outcome_round, outcome_round, hscope, hmoved, Traced.outcome_map, map_map]

theorem render_row (hl : planLanes children 1 = .ok lanes) (hb : BindsLanes env lanes q)
    (hn : leastLength? lanes q = .some n) (hi : i < n) :
    render o [.group children sep] (rowEnv env lanes q i) =
      (round o children 0 (.root env) lanes (columnsOver lanes q) i).outcome := by
  obtain ⟨hrow, hone⟩ := bindsLanes_rowEnv env hn hi
  have hleast : leastLength? lanes (elementAt q i) = .some 1 :=
    leastLength?_of_forall (ne_nil_of_leastLength? hn) hone
  rw [render_group hl hrow hleast (.inr fun l hl l' hl' => (hone l hl).trans (hone l' hl').symm),
    ← outcome_round_row hl hb hn hi]
  rw [show List.range 1 = [0] from rfl, mapM_cons]
  cases (round o children 0 (.root (rowEnv env lanes q i)) lanes
    (columnsOver lanes (elementAt q i)) 0).outcome <;>
      simp [Except.bind, Except.map, pure, Except.pure]

/-- **A group writes its rows**, each as it would be written alone. -/
theorem render_group_eq_rows (hl : planLanes children 1 = .ok lanes) (hb : BindsLanes env lanes q)
    (hn : leastLength? lanes q = .some n) (hadmits : Admits o.lengthPolicy lanes q) :
    render o [.group children sep] env =
      ((List.range n).mapM fun i =>
        render o [.group children sep] (rowEnv env lanes q i)).map (sep.getD "").intercalate := by
  have hrows : ∀ i ∈ List.range n, render o [.group children sep] (rowEnv env lanes q i) =
      (round o children 0 (.root env) lanes (columnsOver lanes q) i).outcome := fun i hi =>
    render_row hl hb hn (List.mem_range.mp hi)
  rw [render_group hl hb hn hadmits, mapM_congr hrows]

end Render

/-! ## The law -/

/-- **A group is the join of its rows, up to the shortest lane.** Let the lanes of a group be bound
to sequences, the shortest of which has `n` elements, and let the policy admit their lengths. If
each of the `n` rows is rendered alone, the group writes their texts with the separator between
each two, `n - 1` times; nothing if there are no rows. If rows fail, the group fails as the first
of them does. So elements behind the shortest lane have no influence: whatever they are, and however
many, the group comes out the same. -/
theorem group_joins_rows (o : Options) (children : List Node) (sep : Option String) (env : Env)
    (lanes : List Lane) (q : String → Sequence) (n : Nat)
    (hl : planLanes children 1 = .ok lanes) (hb : Render.BindsLanes env lanes q)
    (hn : Render.leastLength? lanes q = .some n) (hadmits : Render.Admits o.lengthPolicy lanes q) :
    let group : List Node := [.group children sep]
    let row (i : Nat) := render o group (Render.rowEnv env lanes q i)
    (∀ texts : List String, texts.length = n →
      (∀ i (hi : i < texts.length), row i = .ok texts[i]) →
      render o group env = .ok ((sep.getD "").intercalate texts) ∧
        ((sep.getD "").intercalate texts).length =
          (String.join texts).length + (n - 1) * (sep.getD "").length) ∧
    (n = 0 → render o group env = .ok "") ∧
    (∀ i < n, ∀ e, (∀ j < i, ∃ text, row j = .ok text) → row i = .error e →
      render o group env = .error e) ∧
    (∀ env' q', Render.BindsLanes env' lanes q' → Render.leastLength? lanes q' = .some n →
      Render.Admits o.lengthPolicy lanes q' →
      (∀ l ∈ lanes, ∀ i < n, (q' l.name).get? i = (q l.name).get? i) →
      (∀ m, m ∉ lanes.map (·.name) → env' m = env m) →
      render o group env' = render o group env) := by
  intro group row
  have hrows : render o group env =
      ((List.range n).mapM row).map (sep.getD "").intercalate :=
    Render.render_group_eq_rows hl hb hn hadmits
  refine ⟨fun texts hlength htexts => ?_, ?_, fun i hi e hbefore he => ?_,
    fun env' q' hb' hn' hadmits' helements hother => ?_⟩
  · subst hlength
    rw [hrows, mapM_range_eq_ok htexts]
    exact ⟨rfl, length_intercalate _ _⟩
  · rintro rfl
    rw [hrows]
    rfl
  · rw [hrows, mapM_range_eq_error hi hbefore he]
    rfl
  · rw [hrows, Render.render_group_eq_rows hl hb' hn' hadmits']
    congr 1
    refine mapM_congr fun i hi => ?_
    rw [Render.rowEnv_congr (fun l hl => helements l hl i (List.mem_range.mp hi)) hother]

/-- Rows of a table with their names: a group inside iterates the row at hand, and the third name has
no row. In the other environment the second name is no text, and its row fails. -/
theorem group_joins_rows_table :
    let children : List Node := [.hidden ⟨"rows", .some "row"⟩, .shown ⟨"names", .none⟩,
      .literal "=", .group [.shown ⟨"row", .some "cell"⟩] (.some "+")]
    let table : List Node := [.group children (.some "; ")]
    let rows : Sequence := .items [.list [.text "1", .text "2"], .list [.text "3"]]
    let names : Sequence := .items [.text "a", .text "b", .text "c"]
    let lanes : List Lane := [⟨"rows", "row", true⟩, ⟨"names", laneKey "names" 1, false⟩]
    let q (second : Sequence) (name : String) : Sequence := if name = "rows" then rows else second
    let env (second : Sequence) : Env := fun name =>
      if name = "rows" ∨ name = "names" then .some (.list (q second name).toList) else .none
    let broken : Sequence := .items [.text "a", .list []]
    (∀ i (hi : i < 2), render {} table (Render.rowEnv (env names) lanes (q names) i) =
      .ok ["a=1+2", "b=3"][i]) ∧
    render {} table (env names) = .ok "a=1+2; b=3" ∧
    render {} table (Render.rowEnv (env broken) lanes (q broken) 1) =
      .error (.mismatch "names" .scalar "list") ∧
    render {} table (env broken) = .error (.mismatch "names" .scalar "list") := by
  intro children table rows names lanes q env broken
  have hl : planLanes children 1 = .ok lanes := by rfl
  have hb (xs : List Value) : Render.BindsLanes (env (.items xs)) lanes (q (.items xs)) := by
    intro l hl
    rcases List.mem_cons.mp hl with rfl | hl
    · exact ⟨_, rfl, rfl⟩
    · rw [List.mem_singleton.mp hl]
      exact ⟨_, rfl, rfl⟩
  have hrow : ∀ i (hi : i < 2), render {} table (Render.rowEnv (env names) lanes (q names) i) =
      .ok ["a=1+2", "b=3"][i] := by
    intro i hi
    match i, hi with
    | 0, _ => rfl
    | 1, _ => rfl
  have hfirst : render {} table (Render.rowEnv (env broken) lanes (q broken) 0) =
      .ok "a=1+2" := by rfl
  have hsecond : render {} table (Render.rowEnv (env broken) lanes (q broken) 1) =
      .error (.mismatch "names" .scalar "list") := by rfl
  obtain ⟨hjoin, -⟩ := group_joins_rows {} children (.some "; ") (env names) lanes (q names) 2 hl
    (hb _) rfl (.inl rfl)
  obtain ⟨-, -, hfail, -⟩ := group_joins_rows {} children (.some "; ") (env broken) lanes (q broken)
    2 hl (hb _) rfl (.inl rfl)
  refine ⟨hrow, (hjoin ["a=1+2", "b=3"] rfl hrow).1, hsecond, hfail 1 (by decide) _ ?_ hsecond⟩
  intro j hj
  obtain rfl : j = 0 := by omega
  exact ⟨_, hfirst⟩

end Lockstep
