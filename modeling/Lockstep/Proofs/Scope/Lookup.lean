/-
What a name means after a scope has changed: for each way a scope is written
to, the alias of a name, the value kept under a key, and so the value that
the name means. Writing changes one name or key and leaves all others as they
were, whatever layers lie below.

An alias leads nowhere if no layer has a value under the key it gives. In a
closed scope that does not happen, so a name that means nothing there has no
alias, and the environment does not bind it (`Closed.of_lookup_eq_none`). It may
happen to aliases that are given with the environment (`ClosedAbove`).
-/
import Lockstep.Scope.Basic

namespace Lockstep

namespace Scope

variable {s : Scope} {name key m : String} {v : Value}

/-- The key some layer gives a name. -/
def alias? (s : Scope) (name : String) : Option String :=
  s.layers.findSome? fun l => l.aliases.get? name

/-- The value some layer keeps under a key. -/
def stored? (s : Scope) (key : String) : Option Value :=
  s.layers.findSome? fun l => l.values.get? key

theorem keyFor_eq (s : Scope) (name : String) : s.keyFor name = (s.alias? name).getD name := rfl

theorem valueAt_eq (s : Scope) (key : String) :
    s.valueAt key = (s.stored? key).or (s.env key) := rfl

theorem lookup_eq (s : Scope) (name : String) : s.lookup name = s.valueAt (s.keyFor name) := rfl

theorem resolve_eq_ok : s.resolve name = .ok v ↔ s.lookup name = .some v := by
  unfold resolve
  cases s.lookup name <;> simp

theorem resolve_eq_error {e : RenderError} :
    s.resolve name = .error e ↔ s.lookup name = .none ∧ e = .missing [name] := by
  unfold resolve
  cases s.lookup name <;> simp [eq_comm]

/-- Scopes in which a name means the same resolve it to the same, be it a value or an error. -/
theorem resolve_congr {s' : Scope} (h : s'.lookup m = s.lookup m) : s'.resolve m = s.resolve m := by
  rw [resolve, resolve, h]

/-! ## The root and its children -/

@[simp] theorem alias?_root (env : Env) (aliases : Table String) (m : String) :
    (root env aliases).alias? m = aliases.get? m := by
  simp only [alias?, layers, root, List.findSome?_cons, List.findSome?_nil]
  cases aliases.get? m <;> rfl

@[simp] theorem stored?_root (env : Env) (aliases : Table String) (m : String) :
    (root env aliases).stored? m = .none := by
  simp [stored?, layers, root]

@[simp] theorem env_root (env : Env) (aliases : Table String) : (root env aliases).env = env := rfl

/-- Where no alias is given, the root means what the environment binds. -/
@[simp] theorem lookup_root (env : Env) (m : String) : (root env).lookup m = env m := by
  simp [lookup_eq, keyFor_eq, valueAt_eq]

@[simp] theorem alias?_child (s : Scope) (m : String) : s.child.alias? m = s.alias? m := rfl

@[simp] theorem stored?_child (s : Scope) (m : String) : s.child.stored? m = s.stored? m := rfl

@[simp] theorem env_child (s : Scope) : s.child.env = s.env := rfl

/-! ## Renaming, setting and binding -/

@[simp] theorem alias?_rename (s : Scope) (name key m : String) :
    (s.rename name key).alias? m = if m = name then .some key else s.alias? m := by
  simp only [alias?, layers, rename, Layer.rename, List.findSome?_cons, Table.get?_insert]
  by_cases h : m = name
  · simp [h]
  · simp [h]

@[simp] theorem stored?_rename (s : Scope) (name key m : String) :
    (s.rename name key).stored? m = s.stored? m := rfl

@[simp] theorem env_rename (s : Scope) (name key : String) : (s.rename name key).env = s.env := rfl

/-- A name that is renamed stands for its key, and all others for what they stood for. -/
theorem keyFor_rename (s : Scope) (name key m : String) :
    (s.rename name key).keyFor m = if m = name then key else s.keyFor m := by
  simp only [keyFor_eq, alias?_rename]
  split <;> rfl

@[simp] theorem alias?_set (s : Scope) (key : String) (v : Value) (m : String) :
    (s.set key v).alias? m = s.alias? m := rfl

@[simp] theorem stored?_set (s : Scope) (key : String) (v : Value) (m : String) :
    (s.set key v).stored? m = if m = key then .some v else s.stored? m := by
  simp only [stored?, layers, set, Layer.set, List.findSome?_cons, Table.get?_insert]
  by_cases h : m = key
  · simp [h]
  · simp [h]

@[simp] theorem env_set (s : Scope) (key : String) (v : Value) : (s.set key v).env = s.env := rfl

theorem valueAt_set (s : Scope) (key : String) (v : Value) (k : String) :
    (s.set key v).valueAt k = if k = key then .some v else s.valueAt k := by
  simp only [valueAt_eq, stored?_set, env_set]
  split <;> rfl

theorem bind_eq (s : Scope) (name : String) (v : Value) :
    s.bind name v = (s.rename name name).set name v := rfl

@[simp] theorem alias?_bind (s : Scope) (name : String) (v : Value) (m : String) :
    (s.bind name v).alias? m = if m = name then .some name else s.alias? m := by
  rw [bind_eq, alias?_set, alias?_rename]

@[simp] theorem stored?_bind (s : Scope) (name : String) (v : Value) (m : String) :
    (s.bind name v).stored? m = if m = name then .some v else s.stored? m := by
  rw [bind_eq, stored?_set, stored?_rename]

@[simp] theorem env_bind (s : Scope) (name : String) (v : Value) :
    (s.bind name v).env = s.env := rfl

/-- A bound name stands for itself, and all others for what they stood for. -/
theorem keyFor_bind (s : Scope) (name : String) (v : Value) (m : String) :
    (s.bind name v).keyFor m = if m = name then name else s.keyFor m :=
  keyFor_rename s name name m

theorem valueAt_bind (s : Scope) (name : String) (v : Value) (key : String) :
    (s.bind name v).valueAt key = if key = name then .some v else s.valueAt key :=
  valueAt_set (s.rename name name) name v key

/-- Binding a name changes what the name means, and what all names mean that stand for it as
their key. -/
theorem lookup_bind (s : Scope) (name : String) (v : Value) (m : String) :
    (s.bind name v).lookup m =
      if m = name ∨ s.keyFor m = name then .some v else s.lookup m := by
  simp only [lookup_eq, keyFor_bind, valueAt_bind]
  by_cases hm : m = name
  · simp [hm]
  · by_cases hk : s.keyFor m = name
    · simp [hm, hk]
    · simp [hm, hk]

theorem bindReference_eq_bind {r : Reference} (h : r.bound = .some name) (s : Scope) (v : Value) :
    s.bindReference r v = s.bind name v := by
  simp [bindReference, h]

theorem bindReference_eq_self {r : Reference} (h : r.bound = .none) (s : Scope) (v : Value) :
    s.bindReference r v = s := by
  simp [bindReference, h]

@[simp] theorem env_bindReference (s : Scope) (r : Reference) (v : Value) :
    (s.bindReference r v).env = s.env := by
  cases h : r.bound with
  | none => rw [bindReference_eq_self h]
  | some a => rw [bindReference_eq_bind h, env_bind]

/-! ## Closed scopes -/

/-- Every alias leads to a value that some layer keeps, or is one of the given aliases, all of which
are there unless a layer has others for their names. -/
structure ClosedAbove (aliases : Table String) (s : Scope) : Prop where
  settled : ∀ name key, s.alias? name = .some key →
    (s.stored? key).isSome = true ∨ aliases.get? name = .some key
  given : ∀ name, s.alias? name = .none → aliases.get? name = .none

namespace ClosedAbove

variable {aliases : Table String}

theorem root (env : Env) (aliases : Table String) : (root env aliases).ClosedAbove aliases := by
  refine ⟨fun name key h => .inr ?_, fun name h => ?_⟩
  · rw [alias?_root] at h
    exact h
  · rw [alias?_root] at h
    exact h

theorem bind (h : s.ClosedAbove aliases) (name : String) (v : Value) :
    (s.bind name v).ClosedAbove aliases := by
  refine ⟨fun m k hk => ?_, fun m hm => ?_⟩
  · rw [alias?_bind] at hk
    rw [stored?_bind]
    split at hk
    · cases hk
      simp
    · split
      · exact .inl rfl
      · exact h.settled m k hk
  · rw [alias?_bind] at hm
    split at hm
    · cases hm
    · exact h.given m hm

theorem bindReference (h : s.ClosedAbove aliases) (r : Reference) (v : Value) :
    (s.bindReference r v).ClosedAbove aliases := by
  cases hr : r.bound with
  | none =>
    rw [bindReference_eq_self hr]
    exact h
  | some a =>
    rw [bindReference_eq_bind hr]
    exact h.bind a v

/-- **A name without a meaning is one that the environment does not bind**, under the alias that is
given for it if there is one. What the layers have an alias for means something. -/
theorem env_eq_none (h : s.ClosedAbove aliases) (hm : s.lookup m = .none) :
    s.env ((aliases.get? m).getD m) = .none := by
  rw [lookup_eq, keyFor_eq, valueAt_eq, Option.or_eq_none_iff] at hm
  cases ha : s.alias? m with
  | none =>
    rw [ha] at hm
    rw [h.given m ha]
    exact hm.2
  | some k =>
    rw [ha, Option.getD_some] at hm
    rcases h.settled m k ha with hk | hk
    · rw [hm.1] at hk
      cases hk
    · rw [hk]
      exact hm.2

end ClosedAbove

/-- Every alias leads to a value that some layer keeps. -/
def Closed (s : Scope) : Prop :=
  ∀ name key, s.alias? name = .some key → (s.stored? key).isSome = true

/-- A scope is closed if it is above no aliases. -/
theorem closed_iff : s.Closed ↔ s.ClosedAbove ∅ := by
  constructor
  · exact fun h => ⟨fun m k hk => .inl (h m k hk), fun m _ => Table.get?_empty m⟩
  · exact fun h m k hk => (h.settled m k hk).resolve_right (by simp)

theorem Closed.root (env : Env) : (root env).Closed :=
  closed_iff.mpr (.root env ∅)

theorem Closed.bind (h : s.Closed) (name : String) (v : Value) : (s.bind name v).Closed :=
  closed_iff.mpr ((closed_iff.mp h).bind name v)

theorem Closed.bindReference (h : s.Closed) (r : Reference) (v : Value) :
    (s.bindReference r v).Closed :=
  closed_iff.mpr ((closed_iff.mp h).bindReference r v)

/-- **In a closed scope a name without a meaning is a name of the environment**: no layer has an
alias for it, and the environment does not bind it. -/
theorem Closed.of_lookup_eq_none (h : s.Closed) (hm : s.lookup m = .none) :
    s.alias? m = .none ∧ s.env m = .none := by
  rw [lookup_eq, keyFor_eq, valueAt_eq, Option.or_eq_none_iff] at hm
  cases ha : s.alias? m with
  | none =>
    rw [ha] at hm
    exact ⟨rfl, hm.2⟩
  | some k =>
    rw [ha] at hm
    have hk := h m k ha
    rw [show s.stored? k = .none from hm.1] at hk
    cases hk

end Scope

end Lockstep
