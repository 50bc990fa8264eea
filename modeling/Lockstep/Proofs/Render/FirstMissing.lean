/-
The analysis of free names lists no name in vain, and lists them in the order
in which rendering reads them (`render_stops_at_first_missing`): if some are
not bound, and neither an empty group nor an error of another kind comes
between, rendering stops at the first of these.

The scope binds exactly what the analysis takes for bound (`Binds`), so a name
that a template can spell is looked up in the environment just when the
analysis lists it. Renderings that ask for the names of a list in order
(`Asks`) may be put one after the other if the lists grow at their ends
(`Asks.bind`), as the analysis lets them grow. A group asks for its names in
its first round; in later ones they are known to be bound.
-/
import Lockstep.Proofs.Render.Missing
import Lockstep.Proofs.Render.Notes

namespace Lockstep

/-! ## Scopes that bind no more than the analysis -/

/-- The scope covers the names and has aliases and, among the keys that can be spelled, values for
no others. -/
structure Binds (bound : List String) (s : Scope) : Prop extends Covers bound s where
  of_alias : ∀ m, (s.alias? m).isSome = true → m ∈ bound
  of_stored : ∀ m, NoHash m → (s.stored? m).isSome = true → m ∈ bound

section

variable {o : Options} {bound found found' free : List String} {depth i k : Nat} {s s' : Scope}
  {m text : String} {n : Node} {ns children : List Node} {sep : Option String} {r : Reference}
  {lanes : List Lane} {cs : List Render.Column}

namespace Binds

theorem root (env : Env) : Binds [] (.root env) where
  toCovers := Covers.root env
  of_alias m h := by simp at h
  of_stored m _ h := by simp at h

/-- A name that is not bound means what the environment binds it to. -/
theorem lookup_eq_env (h : Binds bound s) (hm : NoHash m) (hb : m ∉ bound) :
    s.lookup m = s.env m := by
  have ha : s.alias? m = .none := by
    cases ha : s.alias? m with
    | none => rfl
    | some key => exact absurd (h.of_alias m (by rw [ha]; rfl)) hb
  have hs : s.stored? m = .none := by
    cases hs : s.stored? m with
    | none => rfl
    | some v => exact absurd (h.of_stored m hm (by rw [hs]; rfl)) hb
  rw [Scope.lookup_eq, Scope.keyFor_eq, ha, Option.getD_none, Scope.valueAt_eq, hs, Option.none_or]

theorem bindReference (h : Binds bound s) (r : Reference) (v : Value) :
    Binds (r.bound.toList ++ bound) (s.bindReference r v) := by
  cases hr : r.bound with
  | none =>
    rw [Scope.bindReference_eq_self hr]
    exact h
  | some a =>
    have hcovers := h.toCovers.bindReference r v
    rw [hr] at hcovers
    rw [Scope.bindReference_eq_bind hr] at hcovers ⊢
    refine ⟨hcovers, fun m hm => ?_, fun m hh hm => ?_⟩
    · rw [Scope.alias?_bind] at hm
      split at hm
      · next hma => simp [hma]
      · exact List.mem_append_right _ (h.of_alias m hm)
    · rw [Scope.stored?_bind] at hm
      split at hm
      · next hma => simp [hma]
      · exact List.mem_append_right _ (h.of_stored m hh hm)

/-- A node that is rendered binds in the scope what it binds in the analysis, and nothing else. -/
theorem after (h : Binds bound s) (hn : (Render.node o n depth s).outcome = .ok (text, s')) :
    Binds (FreeNames.boundAfter n bound) s' :=
  Render.after_of_bindReference h h.bindReference hn

/-- **A round of a group binds the names and labels of its lanes, and nothing else**: the other keys
of lanes cannot be spelled. -/
theorem round (h : Binds bound s) (hf : HashFree children)
    (hl : planLanes children (depth + 1 : Nat) = .ok lanes)
    (hcs : Render.columns s lanes = .ok cs) (hi : i < Render.shortest cs) :
    Binds (FreeNames.laneNames lanes ++ bound) (Render.roundScope s lanes cs i) := by
  refine ⟨h.toCovers.round hl hcs hi, fun m hm => ?_, fun m hh hm => ?_⟩
  · by_cases hmeans : ∃ l ∈ lanes, l.Means m
    · exact List.mem_append_left _ (FreeNames.mem_laneNames.mpr hmeans)
    · have hno : ∀ l ∈ lanes, ¬ l.Means m := fun l hl hlm => hmeans ⟨l, hl, hlm⟩
      rw [Render.alias?_roundScope_of_not hno] at hm
      exact List.mem_append_right _ (h.of_alias m hm)
  · by_cases hkey : ∃ c ∈ cs, m = c.1.key
    · obtain ⟨c, hc, rfl⟩ := hkey
      have hmem := Render.mem_lanes_of_columns hcs hc
      refine List.mem_append_left _ (FreeNames.mem_laneNames.mpr ⟨c.1, hmem, .inr ⟨?_, rfl⟩⟩)
      cases he : c.1.explicit with
      | true => rfl
      | false =>
        have hk := (Lanes.spelled_of_planLanes hf hl hmem).key he
        exact absurd hk.symm (laneKey_ne_of_noHash hh _ _)
    · rw [Render.stored?_roundScope_of_not fun c hc hk => hkey ⟨c, hc, hk⟩] at hm
      exact List.mem_append_right _ (h.of_stored m hh hm)

end Binds

/-! ## Asking for names in order -/

namespace Render

variable {env : Env} {names names' : List String} {α β : Type} {x : Rendering α}

/-- All the names are bound. -/
def AllBound (env : Env) (names : List String) : Prop :=
  ∀ m ∈ names, (env m).isSome = true

/-- The first of the names that the environment does not bind. -/
def firstUnbound (env : Env) (names : List String) : Option String :=
  names.find? fun m => (env m).isNone

/-- Every group that gets as far as its rounds has some. -/
def Repeats (x : Rendering α) : Prop :=
  ∀ z ∈ x.notes, z.count ≠ 0

/-- **The rendering asks for the names in their order**, as long as its groups repeat: it ends well
only if all of them are bound, and a name that it misses is the first that is not. -/
def Asks (env : Env) (names : List String) (x : Rendering α) : Prop :=
  Repeats x →
    (∀ a, x.outcome = .ok a → AllBound env names) ∧
    ∀ missed, x.outcome = .error (.missing missed) →
      ∃ m, missed = [m] ∧ firstUnbound env names = .some m

theorem firstUnbound_of_isPrefix (h : names <+: names') (hm : firstUnbound env names = .some m) :
    firstUnbound env names' = .some m :=
  h.find?_eq_some hm

theorem AllBound.firstUnbound_append (h : AllBound env names) (hm : env m = .none) :
    firstUnbound env (names ++ [m]) = .some m := by
  have hnone : names.find? (fun m => (env m).isNone) = .none := by
    rw [List.find?_eq_none]
    intro m' hm'
    simpa [Option.isSome_iff_ne_none] using h m' hm'
  rw [firstUnbound, List.find?_append, hnone]
  simp [hm]

theorem Repeats.left {f : α → Rendering β} (h : Repeats (x >>= f)) : Repeats x :=
  fun z hz => h z (Traced.notes_subset_bind x f hz)

theorem Repeats.right {f : α → Rendering β} {a : α} (h : Repeats (x >>= f))
    (ha : x.outcome = .ok a) : Repeats (f a) := by
  intro z hz
  refine h z ?_
  rw [Traced.notes_bind_of_ok ha]
  exact List.mem_append_right _ hz

/-- Where all names are bound already, nothing more is asked for. -/
theorem Asks.of_allBound (h : AllBound env names)
    (hx : ∀ missed, x.outcome ≠ .error (.missing missed)) : Asks env names x :=
  fun _ => ⟨fun _ _ => h, fun missed hm => absurd hm (hx missed)⟩

theorem Asks.pure (h : AllBound env names) (a : α) :
    Asks env names (Pure.pure a : Rendering α) :=
  .of_allBound h nofun

/-- A failure of another kind asks for nothing. -/
theorem Asks.fail {e : RenderError} (he : ∀ missed, e ≠ .missing missed := by simp) :
    Asks env names (.fail e : Rendering α) := by
  refine fun _ => ⟨fun a ha => ?_, fun missed hm => ?_⟩
  · rw [Traced.outcome_fail] at ha
    cases ha
  · rw [Traced.outcome_fail, Except.error.injEq] at hm
    exact absurd hm (he missed)

/-- **What comes second asks for more names behind those asked for first.** It is reached only if
the first ones are all bound. -/
theorem Asks.bind {f : α → Rendering β} (hx : Asks env names x) (hp : names <+: names')
    (hf : ∀ a, x.outcome = .ok a → Repeats x → AllBound env names → Asks env names' (f a)) :
    Asks env names' (x >>= f) := by
  intro hrepeats
  obtain ⟨hok, hmissing⟩ := hx hrepeats.left
  rw [Traced.outcome_bind]
  cases ha : x.outcome with
  | ok a => exact hf a ha hrepeats.left (hok a ha) (hrepeats.right ha)
  | error e =>
    refine ⟨nofun, fun missed hm => ?_⟩
    have he : x.outcome = .error (.missing missed) := by
      rw [ha]
      cases hm
      rfl
    obtain ⟨m, hmissed, hfirst⟩ := hmissing missed he
    exact ⟨m, hmissed, firstUnbound_of_isPrefix hp hfirst⟩

/-! ## What references and groups ask for -/

/-- A name is asked for just when the analysis lists it. -/
theorem asks_resolve (hb : Binds bound s) (hm : NoHash m) (hfound : AllBound s.env found) :
    Asks s.env (FreeNames.find bound found m) (.ofExcept (s.resolve m) : Rendering Value) := by
  refine fun _ => ⟨fun v hv m' hm' => ?_, fun missed hmissed => ?_⟩
  · rcases FreeNames.of_mem_find hm' with hm' | ⟨rfl, hnb⟩
    · exact hfound m' hm'
    · rw [← hb.lookup_eq_env hm hnb, Scope.resolve_eq_ok.mp hv]
      rfl
  · obtain ⟨hnone, hmissed⟩ := Scope.resolve_eq_error.mp hmissed
    cases hmissed
    obtain ⟨hnb, hunbound⟩ := hb.not_bound hnone
    have hnf : m ∉ found := by
      intro hmf
      have hsome := hfound m hmf
      rw [hunbound] at hsome
      cases hsome
    refine ⟨m, rfl, ?_⟩
    rw [FreeNames.find_eq_append hnb hnf]
    exact hfound.firstUnbound_append hunbound

theorem asks_reference (hb : Binds bound s) (hr : n.reference? = .some r) (hm : NoHash r.name)
    (hfound : AllBound s.env found) :
    Asks s.env (FreeNames.find bound found r.name) (node o n depth s) := by
  have hask := asks_resolve hb hm hfound
  cases n with
  | shown r' =>
    cases hr
    rw [node]
    refine hask.bind List.prefix_rfl fun v _ _ hall => ?_
    split
    · exact .fail
    · exact .pure hall _
  | hidden r' =>
    cases hr
    rw [node]
    exact hask.bind List.prefix_rfl fun v _ _ hall => .pure hall _
  | literal text => cases hr
  | group children sep => cases hr
  | foreign kind => cases hr

theorem asks_column {l : Lane} (hb : Binds bound s) (hm : NoHash l.name)
    (hfound : AllBound s.env found) :
    Asks s.env (FreeNames.find bound found l.name) (.ofExcept (column s l) : Rendering Column) := by
  obtain ⟨hok, hmissing⟩ := asks_resolve hb hm hfound nofun
  refine fun _ => ⟨fun c hc => ?_, fun missed hmissed => ?_⟩
  · obtain ⟨-, v, hv, -⟩ := column_eq_ok hc
    exact hok v (Scope.resolve_eq_ok.mpr hv)
  · obtain ⟨rfl, hv⟩ := missing_of_column hmissed
    exact hmissing _ (Scope.resolve_eq_error.mpr ⟨hv, rfl⟩)

/-- The lanes of a group ask for their names in their order. -/
theorem asks_columns (hb : Binds bound s) (hm : ∀ l ∈ lanes, NoHash l.name)
    (hfound : AllBound s.env found) :
    Asks s.env ((lanes.map (·.name)).foldl (FreeNames.find bound) found)
      (.ofExcept (columns s lanes) : Rendering (List Column)) := by
  induction lanes generalizing found with
  | nil => exact .of_allBound hfound nofun
  | cons l lanes ih =>
    rw [ofExcept_columns_cons, List.map_cons, List.foldl_cons]
    refine (asks_column hb (hm l List.mem_cons_self) hfound).bind
      (FreeNames.isPrefix_foldl_find bound _ _) fun c _ _ hall => ?_
    rw [map_eq_pure_bind]
    refine (ih (fun l' hl' => hm l' (List.mem_cons_of_mem _ hl')) hall).bind List.prefix_rfl
      fun cs _ _ hall' => .pure hall' _

theorem asks_count (policy : LengthPolicy) (h : AllBound env names) :
    Asks env names (count policy cs) := by
  refine .of_allBound h fun missed => ?_
  rw [outcome_count]
  split <;> nofun

/-- A group of which a note is taken repeats as often as its shortest column has elements. -/
theorem ne_zero_of_count {policy : LengthPolicy} (h : (count policy cs).outcome = .ok k)
    (hrepeats : Repeats (count policy cs)) : k ≠ 0 := by
  rw [shortest_of_count h]
  refine hrepeats (zip cs) ?_
  unfold count at h ⊢
  simp only at h ⊢
  split at h
  · cases h
  · next hpolicy =>
    rw [if_neg hpolicy]
    exact List.mem_singleton.mpr rfl

/-- Rounds that each ask for the names ask for them in the first of them. -/
theorem asks_rounds {separator : String} {f : Nat → Rendering String} {i k : Nat}
    (h : ∀ j, i ≤ j → j < i + k → Asks env names (f j)) (hk : k ≠ 0) :
    Asks env names (rounds separator f i k) := by
  induction k generalizing i with
  | zero => exact absurd rfl hk
  | succ k ih =>
    have hfirst : Asks env names (f i) := h i (Nat.le_refl i) (by omega)
    cases k with
    | zero => exact hfirst
    | succ k =>
      rw [rounds]
      -- Behind the first round the names are known to be bound, so no other round misses one.
      refine hfirst.bind List.prefix_rfl fun text _ _ _ => ?_
      have hrest : Asks env names (rounds separator f (i + 1) (k + 1)) :=
        ih (fun j hj hj' => h j (by omega) (by omega)) (Nat.succ_ne_zero k)
      exact hrest.bind List.prefix_rfl fun rest _ _ hall => .pure hall _

/-- A group asks for the names of its lanes, and then for what its children ask for in a round. -/
theorem asks_group (hb : Binds bound s) (hf : HashFree children) (hfound : AllBound s.env found)
    (h : FreeNames.node (.group children sep) bound found = .ok (bound, found'))
    (hround : ∀ lanes cs i, planLanes children (depth + 1 : Nat) = .ok lanes →
      columns s lanes = .ok cs → i < shortest cs → ∀ known, AllBound s.env known →
      FreeNames.nodes children (FreeNames.laneNames lanes ++ bound) known = .ok found' →
      Asks s.env found' (nodes o children (depth + 1) (roundScope s lanes cs i))) :
    Asks s.env found' (node o (.group children sep) depth s) := by
  have hlanes : Asks s.env found
      (.ofExcept (planLanes children (depth + 1 : Nat)) : Rendering (List Lane)) := by
    refine .of_allBound hfound fun missed hm => ?_
    obtain ⟨label, name, he⟩ := Lanes.planFrom_eq_error hm
    cases he
  rw [node_group]
  split
  · exact .fail
  · refine hlanes.bind (FreeNames.isPrefix_node h) fun lanes hl _ hall => ?_
    have hc := FreeNames.group_eq_ok hl h
    split
    · exact .fail
    -- From here on the lists grow as in the analysis: by the lanes, and then in a round.
    · have hspelled : ∀ l ∈ lanes, NoHash l.name := fun l hm =>
        (Lanes.spelled_of_planLanes hf hl hm).name
      refine (asks_columns hb hspelled hall).bind (FreeNames.isPrefix_nodes hc)
        fun cs hcs _ hlanes => ?_
      refine (asks_count o.lengthPolicy hlanes).bind (FreeNames.isPrefix_nodes hc)
        fun k hk hrepeats _ => ?_
      refine (asks_rounds (fun i _ hi => ?_) (ne_zero_of_count hk hrepeats)).bind
        List.prefix_rfl fun text _ _ hall => .pure hall _
      have hi : i < shortest cs := by
        rw [← shortest_of_count hk]
        omega
      exact (hround lanes cs i hl hcs hi _ hlanes hc).bind List.prefix_rfl fun p _ _ hall =>
        .pure hall _

/-- The nodes behind a node ask for more names, in the scope it leaves behind. -/
theorem asks_nodes_cons (hb : Binds bound s) (hn : Asks s.env found (node o n depth s))
    (h : FreeNames.nodes ns (FreeNames.boundAfter n bound) found = .ok free)
    (hns : ∀ s', Binds (FreeNames.boundAfter n bound) s' → AllBound s'.env found →
      Asks s'.env free (nodes o ns depth s')) :
    Asks s.env free (nodes o (n :: ns) depth s) := by
  rw [nodes]
  refine hn.bind (FreeNames.isPrefix_nodes h) fun p hp _ hall => ?_
  have henv : p.2.env = s.env := env_of_node hp
  have hrest := hns p.2 (hb.after hp) (henv ▸ hall)
  rw [henv] at hrest
  exact hrest.bind List.prefix_rfl fun q _ _ hall' => .pure hall' _

/-- **A template asks for its free names in the order of the analysis**, by induction on the
nodes. -/
theorem asks_nodes (hb : Binds bound s) (hf : HashFree ns) (hfound : AllBound s.env found)
    (h : FreeNames.nodes ns bound found = .ok free) : Asks s.env free (nodes o ns depth s) := by
  induction ns using Node.listInduction generalizing bound found free depth s with
  | nil =>
    rw [FreeNames.nodes] at h
    cases h
    rw [nodes]
    exact .pure hfound _
  | literal text ns ih =>
    obtain ⟨mid, hn, h⟩ := FreeNames.nodes_cons_eq_ok h
    rw [FreeNames.node] at hn
    cases hn
    refine asks_nodes_cons hb ?_ h fun s' hb' hmid => ih hb' hf.tail hmid h
    rw [node]
    exact .pure hfound _
  | shown r ns ih | hidden r ns ih =>
    obtain ⟨mid, hn, h⟩ := FreeNames.nodes_cons_eq_ok h
    rw [FreeNames.node_of_reference rfl] at hn
    cases hn
    refine asks_nodes_cons hb ?_ h fun s' hb' hmid => ih hb' hf.tail hmid h
    exact asks_reference hb rfl (hf.name (Node.mem_references_of_mem List.mem_cons_self rfl)) hfound
  | group children sep ns ihc ih =>
    obtain ⟨mid, hn, h⟩ := FreeNames.nodes_cons_eq_ok h
    refine asks_nodes_cons hb ?_ h fun s' hb' hmid => ih hb' hf.tail hmid h
    refine asks_group hb hf.children hfound hn fun lanes cs i hl hcs hi found' hfound' hc => ?_
    have hround := hb.round hf.children hl hcs hi
    rw [← env_roundScope s lanes cs i] at hfound' ⊢
    exact ihc hround hf.children hfound' hc
  | foreign kind ns ih =>
    obtain ⟨mid, hn, h⟩ := FreeNames.nodes_cons_eq_ok h
    refine asks_nodes_cons hb ?_ h fun s' hb' hmid => ih hb' hf.tail hmid h
    rw [node]
    exact .fail

end Render

end

/-! ## Completeness -/

/-- **The analysis of free names lists none in vain, and the first one missing is where rendering
stops.** If some of the free names are not bound, and in the rendering no group repeats zero times
and no error of another kind comes up, it fails, and misses the first of them: the one that the
check of the bindings names first. -/
theorem render_stops_at_first_missing (o : Options) (template : List Node) (env : Env)
    {free rest : List String} {m : String} (hf : HashFree template)
    (hfree : freeNames template = .ok free)
    (hmissing : (free.filter fun name => (env name).isNone) = m :: rest)
    (hrepeats : ∀ z ∈ (renderTraced o template env).notes, z.count ≠ 0)
    (hkind : ∀ e, render o template env = .error e → ∃ names, e = .missing names) :
    checkBindings template env = .error (.missing (m :: rest)) ∧
      render o template env = .error (.missing [m]) := by
  have hnone : Render.AllBound (Scope.root env).env [] := fun m hm => by cases hm
  have hasks : Render.Asks env free (renderTraced o template env) :=
    (Render.asks_nodes (Binds.root env) hf hnone hfree).bind List.prefix_rfl fun p _ _ hall =>
      .pure hall p.1
  obtain ⟨hok, hmissed⟩ := hasks hrepeats
  have hfirst : Render.firstUnbound env free = .some m := by
    rw [Render.firstUnbound, ← List.head?_filter, hmissing, List.head?_cons]
  refine ⟨?_, ?_⟩
  · rw [checkBindings, hfree]
    simp only [bind, Except.bind, hmissing]
    rfl
  · cases hr : render o template env with
    | ok text =>
      have hall := hok text hr
      have hm : m ∈ free.filter fun name => (env name).isNone := by
        rw [hmissing]
        exact List.mem_cons_self
      obtain ⟨hmem, hnone⟩ := List.mem_filter.mp hm
      have hsome := hall m hmem
      rw [Option.isNone_iff_eq_none.mp hnone] at hsome
      cases hsome
    | error e =>
      obtain ⟨names, rfl⟩ := hkind e hr
      obtain ⟨m', rfl, hm'⟩ := hmissed names hr
      rw [hfirst] at hm'
      cases hm'
      rfl

/-- Two names are missing, one for a group inside a group and one behind both. The columns of the
group around are read before, and bound. -/
theorem render_stops_at_first_missing_rows :
    let rows : List Node := [.group [.hidden ⟨"rows", .some "row"⟩,
      .group [.shown ⟨"row", .some "cell"⟩, .shown ⟨"unit", .none⟩] .none,
      .shown ⟨"total", .none⟩] .none, .shown ⟨"end", .none⟩]
    let env : Env := fun name =>
      if name = "rows" then .some (.list [.list [.text "1"], .list [.text "2"]])
      else if name = "total" then .some (.tuple [.int 1, .int 2, .int 3])
      else .none
    HashFree rows ∧ freeNames rows = .ok ["rows", "total", "unit", "end"] ∧
      (renderTraced {} rows env).notes = [⟨2, [("rows", 2), ("total", 3)]⟩] ∧
      checkBindings rows env = .error (.missing ["unit", "end"]) ∧
      render {} rows env = .error (.missing ["unit"]) := by
  intro rows env
  have hf : HashFree rows := by decide
  have hfree : freeNames rows = .ok ["rows", "total", "unit", "end"] := by rfl
  have hmissing : (["rows", "total", "unit", "end"].filter fun name => (env name).isNone) =
      ["unit", "end"] := by rfl
  have hnotes : (renderTraced {} rows env).notes = [⟨2, [("rows", 2), ("total", 3)]⟩] := by rfl
  have hrepeats : ∀ z ∈ (renderTraced {} rows env).notes, z.count ≠ 0 := by
    rw [hnotes]
    decide
  have hkind : ∀ e, render {} rows env = .error e → ∃ names, e = .missing names := by
    have herror : render {} rows env = .error (.missing ["unit"]) := by rfl
    intro e he
    rw [herror] at he
    cases he
    exact ⟨_, rfl⟩
  obtain ⟨hcheck, hrender⟩ :=
    render_stops_at_first_missing {} rows env hf hfree hmissing hrepeats hkind
  exact ⟨hf, hfree, hnotes, hcheck, hrender⟩

end Lockstep
