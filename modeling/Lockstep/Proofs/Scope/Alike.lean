/-
Two scopes side by side. In one of them the values may be images of those in
the other, kept under the same keys, to which the same names lead
(`Scope.Mapped`). Whatever is written to both, a value to one and its image to
the other, that stays so.

Where the values are the same, the scopes cannot be told apart by looking names
up (`Scope.Alike`). So it makes no difference whether a value was bound by a
template or by its caller: a scope that binds a name is like the one whose
environment binds it (`Alike.bind_root`).
-/
import Lockstep.Proofs.Scope.Lookup

namespace Lockstep

namespace Scope

/-! ## Images of values -/

/-- Names stand for the same keys in both scopes, and keys have the images of the first scope's
values in the second. -/
structure Mapped (image : Value → Value) (s s' : Scope) : Prop where
  keyFor : ∀ m, s'.keyFor m = s.keyFor m
  valueAt : ∀ key, s'.valueAt key = (s.valueAt key).map image

namespace Mapped

variable {image : Value → Value} {s s' : Scope}

theorem root (image : Value → Value) (env : Env) (aliases : Table String) :
    Mapped image (.root env aliases) (.root (fun m => (env m).map image) aliases) := by
  refine ⟨fun m => ?_, fun key => ?_⟩
  · rw [keyFor_eq, keyFor_eq, alias?_root, alias?_root]
  · rw [valueAt_eq, valueAt_eq, stored?_root, stored?_root, Option.none_or, Option.none_or]
    rfl

theorem lookup (h : Mapped image s s') (m : String) : s'.lookup m = (s.lookup m).map image := by
  rw [lookup_eq, lookup_eq, h.keyFor m, h.valueAt]

theorem child (h : Mapped image s s') : Mapped image s.child s'.child :=
  ⟨h.keyFor, h.valueAt⟩

theorem rename (h : Mapped image s s') (name key : String) :
    Mapped image (s.rename name key) (s'.rename name key) := by
  refine ⟨fun m => ?_, h.valueAt⟩
  rw [keyFor_rename, keyFor_rename, h.keyFor m]

theorem set (h : Mapped image s s') (key : String) (v : Value) :
    Mapped image (s.set key v) (s'.set key (image v)) := by
  refine ⟨h.keyFor, fun k => ?_⟩
  rw [valueAt_set, valueAt_set, h.valueAt k]
  split <;> rfl

theorem bind (h : Mapped image s s') (name : String) (v : Value) :
    Mapped image (s.bind name v) (s'.bind name (image v)) := by
  rw [bind_eq, bind_eq]
  exact (h.rename name name).set name v

theorem bindReference (h : Mapped image s s') (r : Reference) (v : Value) :
    Mapped image (s.bindReference r v) (s'.bindReference r (image v)) := by
  cases hr : r.bound with
  | none =>
    rw [bindReference_eq_self hr, bindReference_eq_self hr]
    exact h
  | some a =>
    rw [bindReference_eq_bind hr, bindReference_eq_bind hr]
    exact h.bind a v

end Mapped

/-! ## Scopes that are alike -/

/-- Names stand for the same keys in both scopes, and keys have the same values. -/
structure Alike (s s' : Scope) : Prop where
  keyFor : ∀ m, s.keyFor m = s'.keyFor m
  valueAt : ∀ key, s.valueAt key = s'.valueAt key

namespace Alike

variable {s s' : Scope}

theorem refl (s : Scope) : Alike s s :=
  ⟨fun _ => rfl, fun _ => rfl⟩

theorem mapped (h : Alike s s') : Mapped id s s' :=
  ⟨fun m => (h.keyFor m).symm, fun key => by rw [Option.map_id_apply, h.valueAt]⟩

theorem lookup (h : Alike s s') (m : String) : s.lookup m = s'.lookup m := by
  rw [lookup_eq, lookup_eq, h.keyFor m, h.valueAt]

/-! ## Bindings of the environment -/

theorem keyFor_root (env : Env) (m : String) : (root env).keyFor m = m := by
  simp [keyFor_eq]

theorem valueAt_root (env : Env) (key : String) : (root env).valueAt key = env key := by
  simp [valueAt_eq]

/-- **A name bound in a scope might as well be bound by the environment**, if the scope is like the
root of one. -/
theorem bind_root {env env' : Env} (h : Alike s (.root env)) {name : String} {v : Value}
    (henv : ∀ m, env' m = if m = name then .some v else env m) :
    Alike (s.bind name v) (.root env') := by
  refine ⟨fun m => ?_, fun key => ?_⟩
  · rw [keyFor_bind, h.keyFor, keyFor_root, keyFor_root]
    split
    · next hm => exact hm.symm
    · rfl
  · rw [valueAt_bind, h.valueAt, valueAt_root, valueAt_root, henv key]

end Alike

end Scope

end Lockstep
