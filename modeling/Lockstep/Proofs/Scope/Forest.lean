/-
What the scopes of a forest mean is told by what was done to them
(`scopes_isolated`): a name stands for the key that the nearest scope was last
told, from the scope itself along those it grew out of (`Chain`), and the value
under a key is the one that the nearest scope was last given, or the caller's.
Nothing is ever done to what the caller brought.

The store is kept in step with the history (`Reflects`): a step changes the one
layer that belongs to its scope, by what it writes (`Step.write`), and no path.
So a scope of the forest is one that a template can be rendered in: growing makes
a child of it, and what is written to it goes to its top layer (`scope_grow`,
`scope_write`).
-/
import Lockstep.Proofs.Scope.Lookup
import Lockstep.Scope.Forest
import Mathlib.Data.List.Basic

namespace Lockstep.Forest

/-- Steps on numbered scopes, the first one first. -/
abbrev History := List (Nat × Step)

variable {env : Table Value} {aliases : Table String} {f : Forest} {h : History} {s : Step}
  {i j k : Nat} {ps chain near far : List Nat} {name key : String} {v : Value}

/-! ## What scopes grow out of -/

/-- The scope that a step lets a new one grow out of. -/
def parent? : Nat × Step → Option Nat
  | (i, .child) => .some i
  | _ => .none

/-- For each scope but the first the one it grew out of. -/
def parents (h : History) : List Nat :=
  h.filterMap parent?

theorem parents_append (h h' : History) : parents (h ++ h') = parents h ++ parents h' :=
  List.filterMap_append

/-- Every step is on a scope that is there by then; at the beginning there are `n` of them. -/
def IsProper : (n : Nat) → History → Prop
  | _, [] => True
  | n, s :: h => s.1 < n ∧ IsProper (n + (parents [s]).length) h

/-- **A scope and those it grew out of**, itself first. -/
inductive Chain (ps : List Nat) : Nat → List Nat → Prop
  | root : Chain ps 0 [0]
  | child {j i : Nat} {chain : List Nat} : ps[j]? = .some i → Chain ps i chain →
      Chain ps (j + 1) ((j + 1) :: chain)

theorem Chain.le_length (hc : Chain ps j chain) : j ≤ ps.length := by
  cases hc with
  | root => exact Nat.zero_le _
  | child hj => exact (List.getElem?_eq_some_iff.mp hj).1

theorem Chain.mem_le_length (hc : Chain ps j chain) : ∀ k ∈ chain, k ≤ ps.length := by
  induction hc with
  | root => simp
  | child hj _ ih =>
    obtain ⟨hlt, -⟩ := List.getElem?_eq_some_iff.mp hj
    exact List.forall_mem_cons.mpr ⟨hlt, ih⟩

theorem Chain.append (hc : Chain ps j chain) (more : List Nat) :
    Chain (ps ++ more) j chain := by
  induction hc with
  | root => exact .root
  | child hj _ ih =>
    refine .child ?_ ih
    rw [List.getElem?_append_left (List.getElem?_eq_some_iff.mp hj).1, hj]

/-- A scope that is new grew out of one, and of what that grew out of. -/
theorem Chain.grow (hc : Chain ps i chain) :
    Chain (ps ++ [i]) (ps.length + 1) ((ps.length + 1) :: chain) :=
  .child List.getElem?_concat_length (hc.append [i])

/-- Scopes grow out of older ones. -/
def AreOlder (ps : List Nat) : Prop :=
  ∀ j i : Nat, ps[j]? = .some i → i ≤ j

section Older

variable (hold : AreOlder ps)
include hold

theorem AreOlder.append (hi : i ≤ ps.length) : AreOlder (ps ++ [i]) := by
  intro j k hj
  rcases Nat.lt_or_ge j ps.length with hlt | hge
  · rw [List.getElem?_append_left hlt] at hj
    exact hold j k hj
  · rw [List.getElem?_append_right hge, List.getElem?_singleton] at hj
    split at hj
    · cases hj
      omega
    · cases hj

theorem AreOlder.exists_chain (hj : j ≤ ps.length) : ∃ chain, Chain ps j chain := by
  induction j using Nat.strongRecOn with
  | ind j ih =>
    cases j with
    | zero => exact ⟨[0], .root⟩
    | succ j =>
      have hi : ps[j]? = .some ps[j] := List.getElem?_eq_getElem hj
      have hle := hold _ _ hi
      obtain ⟨chain, hc⟩ := ih ps[j] (by omega) (by omega)
      exact ⟨(j + 1) :: chain, .child hi hc⟩

theorem Chain.le (hc : Chain ps j chain) : ∀ k ∈ chain, k ≤ j := by
  induction hc with
  | root => simp
  | child hj _ ih =>
    have hle := hold _ _ hj
    refine List.forall_mem_cons.mpr ⟨Nat.le_refl _, fun k hk => ?_⟩
    have hk' := ih k hk
    omega

/-- No scope grew out of itself. -/
theorem Chain.nodup (hc : Chain ps j chain) : chain.Nodup := by
  induction hc with
  | root => simp
  | child hj hc ih =>
    refine List.nodup_cons.mpr ⟨fun hmem => ?_, ih⟩
    have hle := hc.le hold _ hmem
    have hle' := hold _ _ hj
    omega

/-- A scope that is there already grew out of what it grew out of. -/
theorem Chain.of_append {more : List Nat} (hc : Chain (ps ++ more) j chain)
    (hj : j ≤ ps.length) : Chain ps j chain := by
  induction hc with
  | root => exact .root
  | @child j i chain hi _ ih =>
    rw [List.getElem?_append_left hj] at hi
    have hle := hold _ _ hi
    exact .child hi (ih (by omega))

/-- With one scope more, a scope was there already or is the new one. -/
theorem Chain.of_grow (hc : Chain (ps ++ [i]) j chain) (hi : i ≤ ps.length) :
    Chain ps j chain ∨
      ∃ more, Chain ps i more ∧ j = ps.length + 1 ∧ chain = (ps.length + 1) :: more := by
  rcases Nat.lt_or_ge ps.length j with hnew | hthere
  · right
    have hle := hc.le_length
    rw [List.length_append, List.length_singleton] at hle
    obtain rfl : j = ps.length + 1 := by omega
    cases hc with
    | child hj hc =>
      rw [List.getElem?_concat_length, Option.some.injEq] at hj
      subst hj
      exact ⟨_, hc.of_append hold hi, rfl, rfl⟩
  · exact .inl (hc.of_append hold hthere)

end Older

/-! ## What is written -/

/-- What a step makes of the layer that it is done to. -/
def Step.write : Step → Layer → Layer
  | .bind name v, l => l.bind name v
  | .set key v, l => l.set key v
  | .rename name key, l => l.rename name key
  | .child, l | .resolve _, l | .keyFor _, l => l

/-- The key that a step lets a name stand for. -/
def Step.alias? (name : String) : Step → Option String
  | .bind m _ => if name = m then .some m else .none
  | .rename m key => if name = m then .some key else .none
  | _ => .none

/-- The value that a step keeps under a key. -/
def Step.value? (key : String) : Step → Option Value
  | .bind m v | .set m v => if key = m then .some v else .none
  | _ => .none

theorem get?_aliases_write (s : Step) (l : Layer) (name : String) :
    (s.write l).aliases.get? name = (s.alias? name).or (l.aliases.get? name) := by
  cases s with
  | bind m v | rename m key =>
    simp only [Step.write, Step.alias?, Layer.bind, Layer.set, Layer.rename, Table.get?_insert]
    split <;> simp
  | child | set | resolve | keyFor => rfl

theorem get?_values_write (s : Step) (l : Layer) (key : String) :
    (s.write l).values.get? key = (s.value? key).or (l.values.get? key) := by
  cases s with
  | bind m v | set m v =>
    simp only [Step.write, Step.value?, Layer.bind, Layer.set, Layer.rename, Table.get?_insert]
    split <;> simp
  | child | rename | resolve | keyFor => rfl

/-- What was last written to a scope, of what `write?` says that a step writes. -/
def lastWrite? {α : Type} (write? : Step → Option α) (h : History) (i : Nat) : Option α :=
  h.reverse.findSome? fun s => if s.1 = i then write? s.2 else .none

/-- The key that a scope was last told to let a name stand for. The first scope was told the
caller's aliases before anything else. -/
def lastAlias? (aliases : Table String) (h : History) (i : Nat) (name : String) : Option String :=
  (lastWrite? (Step.alias? name) h i).or (if i = 0 then aliases.get? name else .none)

/-- The value that a scope was last given to keep under a key. -/
def lastValue? (h : History) (i : Nat) (key : String) : Option Value :=
  lastWrite? (Step.value? key) h i

theorem lastWrite?_append {α : Type} (write? : Step → Option α) (h : History) (i : Nat) (s : Step)
    (k : Nat) :
    lastWrite? write? (h ++ [(i, s)]) k =
      (if i = k then write? s else .none).or (lastWrite? write? h k) := by
  simp only [lastWrite?, List.reverse_append, List.reverse_cons, List.reverse_nil, List.nil_append,
    List.cons_append, List.findSome?_cons]
  cases if i = k then write? s else .none <;> rfl

theorem lastWrite?_eq_none {α : Type} {write? : Step → Option α} (hk : ∀ s ∈ h, s.1 ≠ k) :
    lastWrite? write? h k = .none :=
  List.findSome?_eq_none_iff.mpr fun s hs => if_neg (hk s (List.mem_reverse.mp hs))

theorem lastAlias?_append (aliases : Table String) (h : History) (i : Nat) (s : Step) (k : Nat)
    (name : String) :
    lastAlias? aliases (h ++ [(i, s)]) k name =
      (if i = k then s.alias? name else .none).or (lastAlias? aliases h k name) := by
  rw [lastAlias?, lastAlias?, lastWrite?_append, Option.or_assoc]

theorem lastValue?_append (h : History) (i : Nat) (s : Step) (k : Nat) (key : String) :
    lastValue? (h ++ [(i, s)]) k key =
      (if i = k then s.value? key else .none).or (lastValue? h k key) :=
  lastWrite?_append _ h i s k

theorem lastAlias?_append_child (aliases : Table String) (h : History) (i k : Nat) (name : String) :
    lastAlias? aliases (h ++ [(i, .child)]) k name = lastAlias? aliases h k name := by
  have hnone : Step.alias? name .child = .none := rfl
  rw [lastAlias?_append, hnone, ite_self, Option.none_or]

theorem lastValue?_append_child (h : History) (i k : Nat) (key : String) :
    lastValue? (h ++ [(i, .child)]) k key = lastValue? h k key := by
  have hnone : Step.value? key .child = .none := rfl
  rw [lastValue?_append, hnone, ite_self, Option.none_or]

/-- A step on a scope that is not in the chain writes nothing along it. -/
theorem lastAlias?_append_of_not_mem (hi : i ∉ chain) (s : Step) (name : String) :
    ∀ k ∈ chain, lastAlias? aliases (h ++ [(i, s)]) k name = lastAlias? aliases h k name := by
  intro k hk
  have hne : i ≠ k := fun he => hi (he ▸ hk)
  rw [lastAlias?_append, if_neg hne, Option.none_or]

theorem lastValue?_append_of_not_mem (hi : i ∉ chain) (s : Step) (key : String) :
    ∀ k ∈ chain, lastValue? (h ++ [(i, s)]) k key = lastValue? h k key := by
  intro k hk
  have hne : i ≠ k := fun he => hi (he ▸ hk)
  rw [lastValue?_append, if_neg hne, Option.none_or]

/-- The key that a name stands for by what scopes were told, the nearest first. -/
def keyIn (aliases : Table String) (h : History) (chain : List Nat) (name : String) : String :=
  (chain.findSome? fun i => lastAlias? aliases h i name).getD name

/-- The value under a key by what scopes were given, the nearest first, or the caller's. -/
def valueIn (env : Table Value) (h : History) (chain : List Nat) (key : String) : Option Value :=
  (chain.findSome? fun i => lastValue? h i key).or (env.get? key)

/-! ## The store -/

/-- The forest after the steps of a history. -/
def run (f : Forest) (h : History) : Forest :=
  h.foldl (fun f s => (f.step s.1 s.2).1) f

/-- **The store is what the history has made of it.** -/
structure Reflects (env : Table Value) (aliases : Table String) (h : History) (f : Forest) :
    Prop where
  caller : f.layers[0]? = .some { aliases, values := env }
  layers : f.layers.length = f.paths.length + 1
  paths : f.paths.length = (parents h).length + 1
  older : AreOlder (parents h)
  steps : ∀ s ∈ h, s.1 < f.paths.length
  path : ∀ {j chain}, Chain (parents h) j chain → f.path j = chain.map (· + 1)
  layer : ∀ k < f.paths.length, ∃ l, f.layers[k + 1]? = .some l ∧
    (∀ name, l.aliases.get? name = lastAlias? aliases h k name) ∧
    ∀ key, l.values.get? key = lastValue? h k key

theorem reflects_root (env : Table Value) (aliases : Table String) :
    Reflects env aliases [] (root env aliases) where
  caller := rfl
  layers := rfl
  paths := rfl
  older _ _ hj := by cases hj
  steps := nofun
  path hc := by
    cases hc with
    | root => rfl
    | child hj => cases hj
  layer k hk := by
    obtain rfl : k = 0 := Nat.lt_one_iff.mp hk
    exact ⟨{ aliases }, rfl, fun _ => rfl, fun _ => rfl⟩

/-- What a step does but to grow a scope, it does to the layer that its scope sees first. -/
theorem step_eq_modify (hs : parent? (i, s) = .none) : (f.step i s).1 = f.modify i s.write := by
  cases s with
  | child => cases hs
  | bind | set | rename => rfl
  | resolve | keyFor =>
    simp only [step, modify]
    split
    · rfl
    · rw [show Step.write _ = id from rfl, List.modify_id]

theorem alias?_scope (f : Forest) (i : Nat) (name : String) :
    (f.scope i).alias? name = (f.view i).findSome? fun l => l.aliases.get? name := by
  unfold scope
  split
  · next hview => simp [Scope.alias?, Scope.layers, hview]
  · next hview => rw [hview, Scope.alias?, Scope.layers]

theorem stored?_scope (f : Forest) (i : Nat) (key : String) :
    (f.scope i).stored? key = (f.view i).findSome? fun l => l.values.get? key := by
  unfold scope
  split
  · next hview => simp [Scope.stored?, Scope.layers, hview]
  · next hview => rw [hview, Scope.stored?, Scope.layers]

theorem env_scope (f : Forest) (i : Nat) : (f.scope i).env = f.env.get? := by
  unfold scope
  split <;> rfl

namespace Reflects

theorem exists_chain (hr : Reflects env aliases h f) (hj : j < f.paths.length) :
    ∃ chain, Chain (parents h) j chain :=
  hr.older.exists_chain (by have := hr.paths; omega)

/-- The layer that belongs to a scope, and that no other scope writes to. -/
theorem path_eq_cons (hr : Reflects env aliases h f) (hi : i < f.paths.length) :
    ∃ rest, f.path i = (i + 1) :: rest := by
  obtain ⟨chain, hc⟩ := hr.exists_chain hi
  rw [hr.path hc]
  cases hc with
  | root | child => exact ⟨_, rfl⟩

/-! ### Steps that write -/

theorem modify_eq (hr : Reflects env aliases h f) (hi : i < f.paths.length)
    (change : Layer → Layer) :
    f.modify i change = { f with layers := f.layers.modify (i + 1) change } := by
  obtain ⟨rest, hpath⟩ := hr.path_eq_cons hi
  rw [modify, hpath]

theorem write (hr : Reflects env aliases h f) (hi : i < f.paths.length)
    (hs : parent? (i, s) = .none) :
    Reflects env aliases (h ++ [(i, s)]) (f.step i s).1 := by
  have hparents : parents (h ++ [(i, s)]) = parents h := by
    rw [parents_append, parents, parents, List.filterMap_cons, hs, List.filterMap_nil,
      List.append_nil]
  rw [step_eq_modify hs, hr.modify_eq hi]
  refine ⟨?_, ?_, ?_, ?_, ?_, ?_, fun k hk => ?_⟩
  · rw [List.getElem?_modify, hr.caller]
    rfl
  · rw [List.length_modify, hr.layers]
  · rw [hparents, hr.paths]
  · rw [hparents]
    exact hr.older
  · intro s' hs'
    rcases List.mem_append.mp hs' with hs' | hs'
    · exact hr.steps s' hs'
    · rw [List.mem_singleton.mp hs']
      exact hi
  · rw [hparents]
    exact hr.path
  · obtain ⟨l, hl, haliases, hvalues⟩ := hr.layer k hk
    refine ⟨if i = k then s.write l else l, ?_, fun name => ?_, fun key => ?_⟩
    · rw [List.getElem?_modify, hl]
      simp
    · rw [lastAlias?_append, ← haliases]
      split
      · exact get?_aliases_write s l name
      · rfl
    · rw [lastValue?_append, ← hvalues]
      split
      · exact get?_values_write s l key
      · rfl

/-! ### Steps that grow a scope -/

theorem grow (hr : Reflects env aliases h f) (hi : i < f.paths.length) :
    Reflects env aliases (h ++ [(i, .child)]) (f.grow i) := by
  have hparents : parents (h ++ [(i, .child)]) = parents h ++ [i] := parents_append h _
  have hcount := hr.paths
  have hlayers := hr.layers
  have hlength : (f.grow i).paths.length = f.paths.length + 1 := by simp [Forest.grow]
  refine ⟨?_, ?_, ?_, ?_, ?_, ?_, fun k hk => ?_⟩
  · rw [Forest.grow, List.getElem?_append_left (by omega), hr.caller]
  · simp [Forest.grow, hlayers]
  · rw [hparents, hlength, hcount, List.length_append, List.length_singleton]
  · rw [hparents]
    exact hr.older.append (by omega)
  · intro s hs
    rw [hlength]
    rcases List.mem_append.mp hs with hs | hs
    · exact Nat.lt_succ_of_lt (hr.steps s hs)
    · rw [List.mem_singleton.mp hs]
      exact Nat.lt_succ_of_lt hi
  · rw [hparents]
    intro j chain hc
    rw [Forest.path, Forest.grow]
    rcases hc.of_grow hr.older (by omega) with hthere | ⟨more, hmore, rfl, rfl⟩
    · have hj := hthere.le_length
      rw [List.getElem?_append_left (by omega), ← hr.path hthere, Forest.path]
    · rw [← hcount, List.getElem?_concat_length, hlayers, hr.path hmore]
      rfl
  · simp only [lastAlias?_append_child, lastValue?_append_child]
    rcases Nat.lt_or_ge k f.paths.length with hthere | hnew
    · obtain ⟨l, hl, hlast⟩ := hr.layer k hthere
      refine ⟨l, ?_, hlast⟩
      rw [Forest.grow, List.getElem?_append_left (by omega), hl]
    · -- Nothing has been done yet to the scope that is new.
      obtain rfl : k = f.paths.length := by omega
      have hnone : ∀ s ∈ h, s.1 ≠ f.paths.length := fun s hs => Nat.ne_of_lt (hr.steps s hs)
      refine ⟨{}, ?_, fun name => ?_, fun key => ?_⟩
      · rw [Forest.grow, ← hlayers, List.getElem?_concat_length]
      · rw [lastAlias?, lastWrite?_eq_none hnone, if_neg (by omega)]
        rfl
      · rw [lastValue?, lastWrite?_eq_none hnone]
        rfl

theorem step (hr : Reflects env aliases h f) (hi : i < f.paths.length) (s : Step) :
    Reflects env aliases (h ++ [(i, s)]) (f.step i s).1 := by
  cases s with
  | child => exact hr.grow hi
  | bind | set | rename | resolve | keyFor => exact hr.write hi rfl

/-- A step changes no layer but that of its scope. -/
theorem getElem?_layers_step (hr : Reflects env aliases h f) (hi : i < f.paths.length) (s : Step)
    {n : Nat} (hn : n < f.layers.length) (hne : n ≠ i + 1) :
    (f.step i s).1.layers[n]? = f.layers[n]? := by
  cases s with
  | child => exact List.getElem?_append_left hn
  | bind | set | rename | resolve | keyFor =>
    rw [step_eq_modify rfl, hr.modify_eq hi]
    exact List.getElem?_modify_ne _ _ hne.symm

/-- The store stays in step with the history over a whole run, by induction on the steps. -/
theorem run (hr : Reflects env aliases h f) {more : History} (hp : IsProper f.paths.length more) :
    Reflects env aliases (h ++ more) (f.run more) := by
  induction more generalizing h f with
  | nil =>
    rw [List.append_nil]
    exact hr
  | cons s more ih =>
    obtain ⟨i, s⟩ := s
    have hi : i < f.paths.length := hp.1
    have hrest := hp.2
    have hnext := hr.step hi s
    have hcount : (f.step i s).1.paths.length = f.paths.length + (parents [(i, s)]).length := by
      rw [hnext.paths, hr.paths, parents_append, List.length_append]
      omega
    rw [← hcount] at hrest
    rw [← List.singleton_append, ← List.append_assoc]
    exact ih hnext hrest

/-! ### What names mean -/

theorem caller_eq (hr : Reflects env aliases h f) : f.caller = { aliases, values := env } := by
  rw [Forest.caller, List.headD_eq_head?_getD, List.head?_eq_getElem?, hr.caller]
  rfl

/-- What is looked for in the layers that a scope sees is looked for along its chain. -/
theorem findSome?_view {α : Type} (hr : Reflects env aliases h f)
    (hc : Chain (parents h) j chain) {inLayer : Layer → Option α} {ofScope : Nat → Option α}
    (hsame : ∀ k < f.paths.length, ∃ l, f.layers[k + 1]? = .some l ∧ inLayer l = ofScope k) :
    (f.view j).findSome? inLayer = chain.findSome? ofScope := by
  have hall : ∀ k ∈ chain, k < f.paths.length := fun k hk => by
    have hle := hc.mem_le_length k hk
    have hcount := hr.paths
    omega
  rw [view, hr.path hc]
  clear hc
  induction chain with
  | nil => rfl
  | cons k chain ih =>
    obtain ⟨hk, hchain⟩ := List.forall_mem_cons.mp hall
    obtain ⟨l, hl, hlayer⟩ := hsame k hk
    rw [List.map_cons, List.filterMap_cons, hl, List.findSome?_cons, List.findSome?_cons, hlayer,
      ih hchain]

theorem keyFor_eq (hr : Reflects env aliases h f) (hc : Chain (parents h) j chain)
    (name : String) : (f.scope j).keyFor name = keyIn aliases h chain name := by
  rw [Scope.keyFor_eq, alias?_scope, keyIn, hr.findSome?_view hc fun k hk => ?_]
  obtain ⟨l, hl, haliases, -⟩ := hr.layer k hk
  exact ⟨l, hl, haliases name⟩

theorem valueAt_eq (hr : Reflects env aliases h f) (hc : Chain (parents h) j chain)
    (key : String) : (f.scope j).valueAt key = valueIn env h chain key := by
  rw [Scope.valueAt_eq, stored?_scope, env_scope, Forest.env, hr.caller_eq, valueIn,
    hr.findSome?_view hc fun k hk => ?_]
  obtain ⟨l, hl, -, hvalues⟩ := hr.layer k hk
  exact ⟨l, hl, hvalues key⟩

theorem resolve_eq (hr : Reflects env aliases h f) (hc : Chain (parents h) j chain)
    (name : String) :
    (f.scope j).resolve name =
      match valueIn env h chain (keyIn aliases h chain name) with
      | .some v => .ok v
      | .none => .error (.missing [name]) := by
  have hlookup : (f.scope j).lookup name = valueIn env h chain (keyIn aliases h chain name) := by
    rw [Scope.lookup_eq, hr.keyFor_eq hc, hr.valueAt_eq hc]
  cases hv : valueIn env h chain (keyIn aliases h chain name) with
  | some v => exact Scope.resolve_eq_ok.mpr (hlookup.trans hv)
  | none => exact Scope.resolve_eq_error.mpr ⟨hlookup.trans hv, rfl⟩

/-! ### The scopes that templates are rendered in -/

/-- A scope of the forest, with the layer that belongs to it on top. -/
theorem scope_eq (hr : Reflects env aliases h f) (hc : Chain (parents h) i (i :: far)) :
    ∃ l, f.layers[i + 1]? = .some l ∧
      f.scope i = { top := l, outer := far.filterMap fun k => f.layers[k + 1]?, env := env.get? } := by
  have hi := hc.mem_le_length i List.mem_cons_self
  have hcount := hr.paths
  obtain ⟨l, hl, -⟩ := hr.layer i (by omega)
  have hview : f.view i = l :: far.filterMap fun k => f.layers[k + 1]? := by
    rw [view, hr.path hc, List.map_cons, List.filterMap_cons, hl, List.filterMap_map]
    rfl
  refine ⟨l, hl, ?_⟩
  rw [scope, hview, Forest.env, hr.caller_eq]

theorem exists_chain_cons (hr : Reflects env aliases h f) (hi : i < f.paths.length) :
    ∃ far, Chain (parents h) i (i :: far) := by
  obtain ⟨chain, hc⟩ := hr.exists_chain hi
  cases hc with
  | root => exact ⟨[], .root⟩
  | child hj hc => exact ⟨_, .child hj hc⟩

/-- **A scope that grows out of another is a child of it.** -/
theorem scope_grow (hr : Reflects env aliases h f) (hi : i < f.paths.length) :
    (f.grow i).scope f.paths.length = (f.scope i).child := by
  obtain ⟨far, hc⟩ := hr.exists_chain_cons hi
  obtain ⟨l, hl, hscope⟩ := hr.scope_eq hc
  have hcount := hr.paths
  have hc' : Chain (parents (h ++ [(i, .child)])) f.paths.length (f.paths.length :: i :: far) := by
    rw [hcount, parents_append]
    exact hc.grow
  have hsame : ∀ k ∈ i :: far, (f.grow i).layers[k + 1]? = f.layers[k + 1]? := fun k hk => by
    have hle := hc.mem_le_length k hk
    have hlayers := hr.layers
    exact List.getElem?_append_left (by omega)
  obtain ⟨hfirst, hrest⟩ := List.forall_mem_cons.mp hsame
  obtain ⟨l', hl', hscope'⟩ := (hr.grow hi).scope_eq hc'
  have hempty : l' = {} := by
    rw [Forest.grow, ← hr.layers, List.getElem?_concat_length] at hl'
    exact (Option.some.inj hl').symm
  rw [hscope', hempty, hscope, Scope.child, List.filterMap_cons, hfirst, hl,
    List.filterMap_congr hrest]

/-- **What a step writes to a scope goes to its top layer.** -/
theorem scope_write (hr : Reflects env aliases h f) (hi : i < f.paths.length)
    (hs : parent? (i, s) = .none) :
    (f.step i s).1.scope i = { f.scope i with top := s.write (f.scope i).top } := by
  obtain ⟨far, hc⟩ := hr.exists_chain_cons hi
  obtain ⟨l, hl, hscope⟩ := hr.scope_eq hc
  have hc' : Chain (parents (h ++ [(i, s)])) i (i :: far) := by
    rw [parents_append]
    exact hc.append _
  have hrest : ∀ k ∈ far, (f.step i s).1.layers[k + 1]? = f.layers[k + 1]? := fun k hk => by
    have hle := hc.mem_le_length k (List.mem_cons_of_mem i hk)
    have hlayers := hr.layers
    have hcount := hr.paths
    have hne : k ≠ i := fun he => (List.nodup_cons.mp (hc.nodup hr.older)).1 (he ▸ hk)
    exact hr.getElem?_layers_step hi s (by omega) (by omega)
  obtain ⟨l', hl', hscope'⟩ := (hr.write hi hs).scope_eq hc'
  have hwritten : l' = s.write l := by
    rw [step_eq_modify hs, hr.modify_eq hi, List.getElem?_modify_eq, hl] at hl'
    exact (Option.some.inj hl').symm
  rw [hscope', hwritten, hscope, List.filterMap_congr hrest]

end Reflects

/-! ## Further steps -/

/-- What is found along a chain does not change if it does not at any scope of it. -/
theorem findSome?_of_same {α : Type} {ofScope ofScope' : Nat → Option α}
    (hsame : ∀ k ∈ chain, ofScope' k = ofScope k) :
    chain.findSome? ofScope' = chain.findSome? ofScope := by
  induction chain with
  | nil => rfl
  | cons k chain ih =>
    obtain ⟨hk, hchain⟩ := List.forall_mem_cons.mp hsame
    rw [List.findSome?_cons, List.findSome?_cons, hk, ih hchain]

/-- What changes at one scope of a chain is found, unless a nearer one has something. -/
theorem findSome?_of_change {α : Type} {ofScope ofScope' : Nat → Option α} {a : α}
    (hnear : ∀ k ∈ near, ofScope' k = ofScope k) (hi : ofScope' i = .some a) (far : List Nat) :
    (near ++ i :: far).findSome? ofScope' =
      if near.all fun k => (ofScope k).isNone then .some a
      else (near ++ i :: far).findSome? ofScope := by
  rw [List.findSome?_append, List.findSome?_append, findSome?_of_same hnear, List.findSome?_cons, hi]
  cases hfound : near.findSome? ofScope with
  | none =>
    have hall : near.all (fun k => (ofScope k).isNone) = true := by
      simpa using List.findSome?_eq_none_iff.mp hfound
    rw [if_pos hall]
    rfl
  | some b =>
    have hnot : ¬ near.all (fun k => (ofScope k).isNone) = true := fun hall => by
      have hnone : near.findSome? ofScope = .none :=
        List.findSome?_eq_none_iff.mpr (by simpa using hall)
      rw [hnone] at hfound
      cases hfound
    rw [if_neg hnot]
    rfl

theorem keyIn_append_of_not_mem (hi : i ∉ chain) (s : Step) (name : String) :
    keyIn aliases (h ++ [(i, s)]) chain name = keyIn aliases h chain name := by
  rw [keyIn, keyIn, findSome?_of_same (lastAlias?_append_of_not_mem hi s name)]

theorem valueIn_append_of_not_mem (hi : i ∉ chain) (s : Step) (key : String) :
    valueIn env (h ++ [(i, s)]) chain key = valueIn env h chain key := by
  rw [valueIn, valueIn, findSome?_of_same (lastValue?_append_of_not_mem hi s key)]

theorem keyIn_append_of_write (hi : i ∉ near) (hs : s.alias? name = .some key) (far : List Nat) :
    keyIn aliases (h ++ [(i, s)]) (near ++ i :: far) name =
      if near.all fun k => (lastAlias? aliases h k name).isNone then key
      else keyIn aliases h (near ++ i :: far) name := by
  have hwritten : lastAlias? aliases (h ++ [(i, s)]) i name = .some key := by
    rw [lastAlias?_append, if_pos rfl, hs, Option.some_or]
  rw [keyIn, keyIn, findSome?_of_change (lastAlias?_append_of_not_mem hi s name) hwritten]
  split <;> rfl

theorem valueIn_append_of_write (hi : i ∉ near) (hs : s.value? key = .some v) (far : List Nat) :
    valueIn env (h ++ [(i, s)]) (near ++ i :: far) key =
      if near.all fun k => (lastValue? h k key).isNone then .some v
      else valueIn env h (near ++ i :: far) key := by
  have hwritten : lastValue? (h ++ [(i, s)]) i key = .some v := by
    rw [lastValue?_append, if_pos rfl, hs, Option.some_or]
  rw [valueIn, valueIn, findSome?_of_change (lastValue?_append_of_not_mem hi s key) hwritten]
  split <;> rfl

/-! ## Runs -/

/-- **Scopes are isolated, over whole runs.** Let each step of a run be on a scope that is there by
then. What the caller brought is as it was. Every scope there is has a chain, and answers by what
was done along it: the key of a name is the one that the nearest scope was last told, or the name
itself; the value is the one that the nearest scope was last given for the key, or else the
caller's, and without either the error tells the name that was asked for. Each scope has a layer of
its own. A further step on a scope changes no other layer; no scope answers otherwise than before
unless it is that scope or grew out of it; and what the step writes, these scopes see just if none
nearer to them has something there. -/
theorem scopes_isolated (env : Table Value) (aliases : Table String) (h : History)
    (hproper : IsProper 1 h) :
    let f := (root env aliases).run h
    f.caller = { aliases, values := env } ∧
    (∀ j, j < f.paths.length ↔ ∃ chain, Chain (parents h) j chain) ∧
    (∀ j chain, Chain (parents h) j chain → ∀ name,
      (f.step j (.keyFor name)).2 = .ok (.key (keyIn aliases h chain name)) ∧
      (f.step j (.resolve name)).2 =
        match valueIn env h chain (keyIn aliases h chain name) with
        | .some v => .ok (.value v)
        | .none => .error (.missing [name])) ∧
    (∀ i < f.paths.length, (f.path i).head? = .some (i + 1)) ∧
    (∀ i s, i < f.paths.length →
      let f' := (f.step i s).1
      (∀ n < f.layers.length, n ≠ i + 1 → f'.layers[n]? = f.layers[n]?) ∧
      (∀ j chain, Chain (parents h) j chain → i ∉ chain → ∀ name,
        (f'.step j (.keyFor name)).2 = (f.step j (.keyFor name)).2 ∧
        (f'.step j (.resolve name)).2 = (f.step j (.resolve name)).2) ∧
      (∀ j near far, Chain (parents h) j (near ++ i :: far) →
        (∀ name key, s.alias? name = .some key →
          (f'.scope j).keyFor name =
            if near.all fun k => (lastAlias? aliases h k name).isNone then key
            else (f.scope j).keyFor name) ∧
        (∀ key v, s.value? key = .some v →
          (f'.scope j).valueAt key =
            if near.all fun k => (lastValue? h k key).isNone then .some v
            else (f.scope j).valueAt key))) := by
  intro f
  have hr : Reflects env aliases h f := (reflects_root env aliases).run hproper
  refine ⟨hr.caller_eq, fun j => ⟨hr.exists_chain, fun ⟨chain, hc⟩ => ?_⟩,
    fun j chain hc name => ⟨?_, ?_⟩, fun i hi => ?_, fun i s hi => ?_⟩
  · have hle := hc.le_length
    have hcount := hr.paths
    omega
  · rw [step, hr.keyFor_eq hc]
  · rw [step, hr.resolve_eq hc]
    cases valueIn env h chain (keyIn aliases h chain name) <;> rfl
  · obtain ⟨rest, hpath⟩ := hr.path_eq_cons hi
    rw [hpath, List.head?_cons]
  · intro f'
    have hr' : Reflects env aliases (h ++ [(i, s)]) f' := hr.step hi s
    have hchain {j : Nat} {chain : List Nat} (hc : Chain (parents h) j chain) :
        Chain (parents (h ++ [(i, s)])) j chain := by
      rw [parents_append]
      exact hc.append _
    refine ⟨fun n hn hne => ?_, fun j chain hc hi' name => ⟨?_, ?_⟩, fun j near far hc => ?_⟩
    · exact hr.getElem?_layers_step hi s hn hne
    · rw [step, step, hr'.keyFor_eq (hchain hc), hr.keyFor_eq hc, keyIn_append_of_not_mem hi']
    · rw [step, step, hr'.resolve_eq (hchain hc), hr.resolve_eq hc, keyIn_append_of_not_mem hi',
        valueIn_append_of_not_mem hi']
    · have hnear : i ∉ near := fun hmem =>
        (List.nodup_append.mp (hc.nodup hr.older)).2.2 i hmem i List.mem_cons_self rfl
      refine ⟨fun name key hs => ?_, fun key v hs => ?_⟩
      · rw [hr'.keyFor_eq (hchain hc), hr.keyFor_eq hc, keyIn_append_of_write hnear hs]
      · rw [hr'.valueAt_eq (hchain hc), hr.valueAt_eq hc, valueIn_append_of_write hnear hs]

/-- Three scopes, each grown out of the one before. What is set in the first once the others are
there is hidden by what is bound in the second under that key, and seen under another; what is then
set in the second, the third sees and the first does not. -/
theorem scopes_isolated_three :
    let env : Table Value := ⟨[("a", .int 1)]⟩
    let aliases : Table String := ⟨[("b", "a")]⟩
    let f := (root env aliases).run [(0, .child), (1, .child), (1, .bind "a" (.int 5)),
      (0, .set "a" (.int 7)), (0, .set "c" (.int 9))]
    let f' := (f.step 1 (.set "c" (.int 3))).1
    f.caller = { aliases, values := env } ∧
      (f.step 0 (.resolve "b")).2 = .ok (.value (.int 7)) ∧
      (f.step 2 (.resolve "b")).2 = .ok (.value (.int 5)) ∧
      (f.step 2 (.resolve "c")).2 = .ok (.value (.int 9)) ∧
      (f.step 2 (.resolve "z")).2 = .error (.missing ["z"]) ∧
      (f'.step 0 (.resolve "c")).2 = .ok (.value (.int 9)) ∧
      (f'.scope 2).valueAt "c" = .some (.int 3) := by
  intro env aliases f f'
  obtain ⟨hcaller, -, hanswers, -, hsteps⟩ := scopes_isolated env aliases
    [(0, .child), (1, .child), (1, .bind "a" (.int 5)), (0, .set "a" (.int 7)),
      (0, .set "c" (.int 9))]
    ⟨by decide, by decide, by decide, by decide, by decide, trivial⟩
  have hfirst : Chain [0, 1] 0 [0] := .root
  have hthird : Chain [0, 1] 2 [2, 1, 0] := .child rfl (.child rfl .root)
  obtain ⟨-, hother, hwritten⟩ := hsteps 1 (.set "c" (.int 3)) (by decide)
  refine ⟨hcaller, (hanswers 0 [0] hfirst "b").2, (hanswers 2 _ hthird "b").2,
    (hanswers 2 _ hthird "c").2, (hanswers 2 _ hthird "z").2, ?_, ?_⟩
  · exact ((hother 0 [0] hfirst (by decide) "c").2).trans (hanswers 0 [0] hfirst "c").2
  · exact (hwritten 2 [2] [0] hthird).2 "c" (.int 3) rfl

end Lockstep.Forest
