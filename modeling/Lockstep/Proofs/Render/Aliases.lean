/-
Aliases that are given with an environment rename it (`render_renamed`): a name
with an alias means what the environment binds the alias to, so it might as
well be bound to that itself.

The renderings go along with each other in scopes with the same layers, but for
the aliases at the bottom (`Renames`). A name that no layer gives another
meaning is looked up under its alias on the one side and under itself on the
other. What a layer keeps is found on the first side alone if it is kept under
an alias, which only a label could be, and on the second side alone if it is
kept under a name that no layer has an alias for, which only the key of a lane
could be (`Spares`).
-/
import Lockstep.Proofs.Render.Missing
import Lockstep.Proofs.Render.Simulation
import Lockstep.Proofs.Table

namespace Lockstep

/-- The environment in which every name with an alias means what the alias is bound to. -/
def renamedEnv (env : Env) (aliases : Table String) : Env :=
  fun m => env ((aliases.get? m).getD m)

/-- A template leaves aliases alone: it reads no name that has one and could be the key of a lane,
and it binds no label that is the alias of a name other than the label and the name it labels. -/
structure Spares (aliases : Table String) (ns : List Node) : Prop where
  names : ∀ r ∈ Node.references ns, (aliases.get? r.name).isSome = true → NoHash r.name
  labels : ∀ r ∈ Node.references ns, ∀ label, r.bound = .some label →
    ∀ m, aliases.get? m = .some label → m = label ∨ m = r.name

namespace Spares

variable {aliases : Table String} {n : Node} {ns body : List Node} {sep : Option String}

theorem tail (h : Spares aliases (n :: ns)) : Spares aliases ns :=
  ⟨fun r hr => h.names r (Node.references_subset_tail n ns hr),
    fun r hr => h.labels r (Node.references_subset_tail n ns hr)⟩

theorem children (h : Spares aliases (.group body sep :: ns)) : Spares aliases body :=
  ⟨fun r hr => h.names r (Node.references_subset_children body sep ns hr),
    fun r hr => h.labels r (Node.references_subset_children body sep ns hr)⟩

end Spares

/-- The scopes have the same layers, the first one with the aliases below them, the second one above
the renamed environment. What is kept under a key that can be spelled has a name, and what is kept
under the alias of a name without another meaning is what that name means anyway. -/
structure Renames (aliases : Table String) (env : Env) (s s' : Scope) : Prop where
  alias? : ∀ m, s.alias? m = (s'.alias? m).or (aliases.get? m)
  stored? : ∀ key, s.stored? key = s'.stored? key
  below : s.env = env
  below' : s'.env = renamedEnv env aliases
  closed : s'.Closed
  named : ∀ key, NoHash key → (s'.stored? key).isSome = true → (s'.alias? key).isSome = true
  intact : ∀ m key v, aliases.get? m = .some key → s'.alias? m = .none →
    s'.stored? key = .some v → env key = .some v

namespace Renames

open Render (Column roundScope columns shortest)

variable {aliases : Table String} {env : Env} {s s' : Scope} {m key : String} {r : Reference}
  {v : Value} {depth i : Nat} {children : List Node} {lanes : List Lane} {cs cs' : List Column}

theorem root (env : Env) (aliases : Table String) :
    Renames aliases env (.root env aliases) (.root (renamedEnv env aliases)) where
  alias? m := by simp
  stored? key := by simp
  below := rfl
  below' := rfl
  closed := Scope.Closed.root _
  named key _ h := by simp at h
  intact m key v _ _ h := by simp at h

/-- A name that no layer gives another meaning means what its alias is bound to. -/
theorem lookup_of_alias (h : Renames aliases env s s') (hm : aliases.get? m = .some key)
    (ha : s'.alias? m = .none) : s.lookup m = env key := by
  rw [Scope.lookup_eq, Scope.keyFor_eq, Scope.valueAt_eq, h.alias? m, ha, hm, Option.none_or,
    Option.getD_some, h.stored?, h.below]
  cases hs : s'.stored? key with
  | none => rfl
  | some v => rw [Option.some_or, h.intact m key v hm ha hs]

/-- **A name means the same in both scopes.** -/
theorem lookup (h : Renames aliases env s s')
    (hm : (aliases.get? m).isSome = true → NoHash m) : s'.lookup m = s.lookup m := by
  cases ha : s'.alias? m with
  | some k =>
    obtain ⟨v, hv⟩ := Option.isSome_iff_exists.mp (h.closed m k ha)
    rw [Scope.lookup_eq, Scope.lookup_eq, Scope.keyFor_eq, Scope.keyFor_eq, Scope.valueAt_eq,
      Scope.valueAt_eq, h.alias? m, ha, Option.some_or, Option.getD_some, h.stored?, hv,
      Option.some_or, Option.some_or]
  | none =>
    cases hk : aliases.get? m with
    | none =>
      have henv : s'.env m = s.env m := by
        rw [h.below', h.below, renamedEnv, hk, Option.getD_none]
      rw [Scope.lookup_eq, Scope.lookup_eq, Scope.keyFor_eq, Scope.keyFor_eq, Scope.valueAt_eq,
        Scope.valueAt_eq, h.alias? m, ha, hk, Option.none_or, Option.getD_none, h.stored?, henv]
    | some key =>
      have hnone : s'.stored? m = .none := by
        cases hs : s'.stored? m with
        | none => rfl
        | some v =>
          have hsome := h.named m (hm (by rw [hk]; rfl)) (by rw [hs]; rfl)
          rw [ha] at hsome
          cases hsome
      rw [h.lookup_of_alias hk ha, Scope.lookup_eq, Scope.keyFor_eq, ha, Option.getD_none,
        Scope.valueAt_eq, hnone, Option.none_or, h.below', renamedEnv, hk, Option.getD_some]

/-- A reference binds the same in both scopes. Its label can be the alias of the name that is read,
and then the value kept under it is what the name means anyway. -/
theorem bindReference (h : Renames aliases env s s')
    (hlabels : ∀ label, r.bound = .some label →
      ∀ m, aliases.get? m = .some label → m = label ∨ m = r.name)
    (hv : s.lookup r.name = .some v) :
    Renames aliases env (s.bindReference r v) (s'.bindReference r v) := by
  cases hr : r.bound with
  | none =>
    rw [Scope.bindReference_eq_self hr, Scope.bindReference_eq_self hr]
    exact h
  | some a =>
    rw [Scope.bindReference_eq_bind hr, Scope.bindReference_eq_bind hr]
    refine ⟨fun m => ?_, fun key => ?_, h.below, h.below', h.closed.bind a v, fun key hh hs => ?_,
      fun m key w hm ha hs => ?_⟩
    · rw [Scope.alias?_bind, Scope.alias?_bind]
      split
      · rfl
      · exact h.alias? m
    · rw [Scope.stored?_bind, Scope.stored?_bind]
      split
      · rfl
      · exact h.stored? key
    · rw [Scope.stored?_bind] at hs
      rw [Scope.alias?_bind]
      split
      · rfl
      · next hne =>
        rw [if_neg hne] at hs
        exact h.named key hh hs
    · rw [Scope.alias?_bind] at ha
      rw [Scope.stored?_bind] at hs
      by_cases hma : m = a
      · rw [if_pos hma] at ha
        cases ha
      · rw [if_neg hma] at ha
        by_cases hka : key = a
        · rw [if_pos hka] at hs
          cases hs
          have hname : m = r.name := (hlabels a hr m (hka ▸ hm)).resolve_left hma
          rw [← h.lookup_of_alias hm ha, hname, hv]
        · rw [if_neg hka] at hs
          exact h.intact m key w hm ha hs

theorem stored?_setElements (hs : ∀ key, s.stored? key = s'.stored? key)
    (hcs : List.Forall₂ (Column.Image id) cs cs') (i : Nat) (key : String) :
    (Render.setElements s cs i).stored? key = (Render.setElements s' cs' i).stored? key := by
  induction hcs generalizing s s' with
  | nil => exact hs key
  | @cons c c' cs cs' himage _ ih =>
    rw [Render.setElements_cons, Render.setElements_cons]
    refine ih fun k => ?_
    rw [Render.stored?_setElement, Render.stored?_setElement, himage.lane, himage.sequence.get? i,
      Option.map_id_apply, hs k]

/-- Where no lane is meant, a name has in a round the alias that it had around the group. -/
theorem isSome_alias?_roundScope (hp : lanes.Pairwise Lanes.Apart)
    (h : (s'.alias? m).isSome = true) : ((roundScope s' lanes cs' i).alias? m).isSome = true := by
  by_cases hm : ∃ l ∈ lanes, l.Means m
  · obtain ⟨l, hl, hm⟩ := hm
    rw [Render.alias?_roundScope_of_means hp hl hm]
    rfl
  · rw [Render.alias?_roundScope_of_not fun l hl hlm => hm ⟨l, hl, hlm⟩]
    exact h

section

variable (hl : planLanes children (depth + 1 : Nat) = .ok lanes) (hcs' : columns s' lanes = .ok cs')

include hl hcs'

/-- What is kept in a round under a key that can be spelled has a name there: the key is a label, or
was kept around the group. -/
theorem named_round (h : Renames aliases env s s') (hh : NoHash key)
    (hs : ((roundScope s' lanes cs' i).stored? key).isSome = true) :
    ((roundScope s' lanes cs' i).alias? key).isSome = true := by
  have hp := Lanes.apart_of_planLanes hl
  by_cases hkey : ∃ c ∈ cs', key = c.1.key
  · obtain ⟨c, hc, rfl⟩ := hkey
    have hmem := Render.mem_lanes_of_columns hcs' hc
    obtain ⟨he, -⟩ := Lanes.label_of_noHash hl hmem hh
    rw [Render.alias?_roundScope_of_means hp hmem (.inr ⟨he, rfl⟩)]
    rfl
  · rw [Render.stored?_roundScope_of_not fun c hc hk => hkey ⟨c, hc, hk⟩] at hs
    exact isSome_alias?_roundScope hp (h.named key hh hs)

/-- A round keeps nothing else under the alias of a name without another meaning: the alias would be
a label, of which that name is the name. -/
theorem intact_round (h : Renames aliases env s s') (hspares : Spares aliases children)
    (hh : NoHash key) (hm : aliases.get? m = .some key)
    (ha : (roundScope s' lanes cs' i).alias? m = .none)
    (hs : (roundScope s' lanes cs' i).stored? key = .some v) : env key = .some v := by
  have hp := Lanes.apart_of_planLanes hl
  have hno : ∀ l ∈ lanes, ¬ l.Means m := by
    intro l hmem hlm
    rw [Render.alias?_roundScope_of_means hp hmem hlm] at ha
    cases ha
  rw [Render.alias?_roundScope_of_not hno] at ha
  by_cases hkey : ∃ c ∈ cs', key = c.1.key
  · obtain ⟨c, hc, rfl⟩ := hkey
    have hmem := Render.mem_lanes_of_columns hcs' hc
    obtain ⟨he, n, hn, r, hr, hname, hbound⟩ := Lanes.label_of_noHash hl hmem hh
    rcases hspares.labels r (Node.mem_references_of_mem hn hr) _ hbound m hm with rfl | rfl
    · exact absurd (.inr ⟨he, rfl⟩) (hno _ hmem)
    · exact absurd (.inl hname) (hno _ hmem)
  · rw [Render.stored?_roundScope_of_not fun c hc hk => hkey ⟨c, hc, hk⟩] at hs
    exact h.intact m key v hm ha hs

/-- **In a round the scopes still have the same layers.** -/
theorem round (h : Renames aliases env s s')
    (hkeys : ∀ m key, aliases.get? m = .some key → NoHash key) (hspares : Spares aliases children)
    (himages : List.Forall₂ (Column.Image id) cs cs') (hi : i < shortest cs) :
    Renames aliases env (roundScope s lanes cs i) (roundScope s' lanes cs' i) where
  alias? m := by
    have hp := Lanes.apart_of_planLanes hl
    by_cases hm : ∃ l ∈ lanes, l.Means m
    · obtain ⟨l, hl, hm⟩ := hm
      rw [Render.alias?_roundScope_of_means hp hl hm, Render.alias?_roundScope_of_means hp hl hm]
      rfl
    · have hno : ∀ l ∈ lanes, ¬ l.Means m := fun l hl hlm => hm ⟨l, hl, hlm⟩
      rw [Render.alias?_roundScope_of_not hno, Render.alias?_roundScope_of_not hno, h.alias? m]
  stored? key := by
    refine stored?_setElements (fun k => ?_) himages i key
    rw [Render.stored?_nameLanes, Render.stored?_nameLanes]
    exact h.stored? k
  below := by rw [Render.env_roundScope, h.below]
  below' := by rw [Render.env_roundScope, h.below']
  closed := by
    refine Render.Closed.roundScope h.closed (Lanes.apart_of_planLanes hl)
      (Render.columns_lanes hcs') fun c hc => Render.isSome_get?_of_lt_shortest ?_ hc
    rw [Render.shortest_of_images himages]
    exact hi
  named _ hh hs := h.named_round hl hcs' hh hs
  intact _ _ _ hm ha hs := h.intact_round hl hcs' hspares (hkeys _ _ hm) hm ha hs

end

/-- **Renderings with aliases and in the renamed environment go along with each other**, for
templates that leave the aliases alone. -/
theorem simulation (env : Env) (hkeys : ∀ m key, aliases.get? m = .some key → NoHash key) :
    Render.Simulation id fun ns _ s s' => Spares aliases ns ∧ Renames aliases env s s' where
  reference h hr := by
    rw [h.2.lookup (h.1.names _ (Node.mem_references_of_mem List.mem_cons_self hr)),
      Option.map_id_apply]
  lane h hl hm := by
    obtain ⟨n, hn, r, hr, rfl⟩ := Lanes.exists_of_planLanes hl hm
    rw [Lanes.laneOf_name, Option.map_id_apply]
    exact h.2.lookup (h.1.children.names r (Node.mem_references_of_mem hn hr))
  behind h _ := ⟨h.1.tail, h.2⟩
  bound h hr hv :=
    ⟨h.1.tail, h.2.bindReference
      (h.1.labels _ (Node.mem_references_of_mem List.mem_cons_self hr)) hv⟩
  round h hl _ hcs' himages hi :=
    ⟨h.1.children, h.2.round hl hcs' hkeys h.1.children himages hi⟩

end Renames

/-! ## Renaming -/

/-- **Aliases rename the environment.** If the keys they lead to hold no number sign, and a template
leaves them alone, it comes out with them as it does in the environment in which every name with an
alias means what the alias is bound to: the same text, or the same error, and the same groups leave
elements out before. So a name that is missing is one whose alias is not bound, and the error has
the name and not the alias. -/
theorem render_renamed (o : Options) (template : List Node) (env : Env) (aliases : Table String)
    (hkeys : ∀ m key, aliases.get? m = .some key → NoHash key) (hspares : Spares aliases template) :
    render o template env aliases = render o template (renamedEnv env aliases) ∧
      truncations o template env aliases = truncations o template (renamedEnv env aliases) ∧
      ∀ names, render o template env aliases = .error (.missing names) →
        ∃ name, names = [name] ∧ env ((aliases.get? name).getD name) = .none := by
  have htraced : renderTraced o template env aliases =
      renderTraced o template (renamedEnv env aliases) := by
    have htexts := (Renames.simulation env hkeys).texts_eq .refl o template 0
      ⟨hspares, Renames.root env aliases⟩
    rw [Traced.mapError_id, Traced.mapError_id] at htexts
    exact htexts
  have hrender : render o template env aliases = render o template (renamedEnv env aliases) :=
    congrArg Traced.outcome htraced
  refine ⟨hrender, by rw [truncations, truncations, htraced], fun names h => ?_⟩
  rw [hrender, render, renderTraced, Traced.outcome_bind_pure] at h
  obtain ⟨name, hname, henv, -⟩ := Render.missing_nodes (Covers.root _) (map_eq_error.mp h)
  exact ⟨name, hname, henv⟩

/-- Aliases for a name that is iterated, for one that is not, and for one that is missing. The label
in the group is the alias of the name it labels. -/
theorem render_renamed_label :
    let aliases : Table String := .ofList [("n", "k"), ("p", "q"), ("z", "y")]
    let template : List Node := [.group [.shown ⟨"n", .some "k"⟩, .shown ⟨"p", .none⟩] (.some ","),
      .hidden ⟨"n", .some "k"⟩, .group [.shown ⟨"k", .none⟩] .none]
    let env : Env := fun name =>
      if name = "k" then .some (.list [.int 1, .int 2])
      else if name = "q" then .some (.tuple [.text "a", .text "b", .text "c"])
      else if name = "n" then .some (.int 0)
      else .none
    (∀ m key, aliases.get? m = .some key → NoHash key) ∧ Spares aliases template ∧
      render {} template env aliases = .ok "1a,2b12" ∧
      render {} template (renamedEnv env aliases) = .ok "1a,2b12" ∧
      render {} [.shown ⟨"z", .none⟩] env aliases = .error (.missing ["z"]) ∧
      render {} [.shown ⟨"z", .none⟩] (renamedEnv env aliases) = .error (.missing ["z"]) := by
  intro aliases template env
  have hkeys : ∀ m key, aliases.get? m = .some key → NoHash key := by
    intro m key h
    have hall : ∀ e ∈ aliases.entries, NoHash e.2 := by decide
    exact hall _ (Table.mem_entries_of_get? h)
  have hspares : Spares aliases template := by
    refine ⟨by decide, fun r hr label hlabel m hm => ?_⟩
    have hall : ∀ r ∈ Node.references template, ∀ e ∈ aliases.entries, r.bound = .some e.2 →
        e.1 = e.2 ∨ e.1 = r.name := by decide
    exact hall r hr _ (Table.mem_entries_of_get? hm) hlabel
  have hspares' : Spares aliases [.shown ⟨"z", .none⟩] := by
    refine ⟨by decide, fun r hr label hlabel m hm => ?_⟩
    have hall : ∀ r ∈ Node.references [.shown ⟨"z", .none⟩], r.bound = .none := by decide
    rw [hall r hr] at hlabel
    cases hlabel
  have htext : render {} template env aliases = .ok "1a,2b12" := by rfl
  have hmissing : render {} [.shown ⟨"z", .none⟩] env aliases = .error (.missing ["z"]) := by rfl
  obtain ⟨hrender, -, -⟩ := render_renamed {} template env aliases hkeys hspares
  obtain ⟨herror, -, -⟩ := render_renamed {} [.shown ⟨"z", .none⟩] env aliases hkeys hspares'
  exact ⟨hkeys, hspares, htext, hrender ▸ htext, hmissing, herror ▸ hmissing⟩

/-- A name that is the key of a lane around it reads the element of that lane, unless an alias leads
it elsewhere: so the alias does more than rename what the environment binds, though no label is an
alias and no alias holds a number sign. -/
theorem not_render_renamed :
    let aliases : Table String := .ofList [("xs#1", "k")]
    let template : List Node :=
      [.group [.hidden ⟨"xs", .none⟩, .group [.shown ⟨"xs#1", .none⟩] .none] .none]
    let env : Env := fun name =>
      if name = "xs" then .some (.list [.list [.text "a", .text "b"]])
      else if name = "k" then .some (.list [.text "c", .text "d"])
      else .none
    (∀ m key, aliases.get? m = .some key → NoHash key) ∧
      (∀ r ∈ Node.references template, ∀ label, r.bound = .some label →
        ∀ m, aliases.get? m = .some label → m = label) ∧
      render {} template env aliases = .ok "cd" ∧
      render {} template (renamedEnv env aliases) = .ok "ab" := by
  intro aliases template env
  refine ⟨fun m key h => ?_, fun r hr label hlabel => ?_, by rfl, by rfl⟩
  · have hall : ∀ e ∈ aliases.entries, NoHash e.2 := by decide
    exact hall _ (Table.mem_entries_of_get? h)
  · have hall : ∀ r ∈ Node.references template, r.bound = .none := by decide
    rw [hall r hr] at hlabel
    cases hlabel

end Lockstep
