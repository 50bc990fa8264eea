/-
Scopes that grow out of each other and are written to in any order. Every
scope has one layer of its own and shares the layers of those it grew out of,
so a scope sees what is written to them later too. The scopes are numbered
in the order in which they came, the first one being number nought.

All layers lie in one store, the caller's among them: the bindings that all
scopes look through to at last are the caller's own, of the caller's aliases
the first scope has a copy.
-/
import Lockstep.Scope.Basic

namespace Lockstep

structure Forest where
  /-- The caller's layer, and then those of the scopes. -/
  layers : List Layer
  /-- For each scope the numbers of its layers, its own first. -/
  paths : List (List Nat)
  deriving Repr, Inhabited

namespace Forest

/-- One scope, on top of the caller's bindings. -/
def root (env : Table Value) (aliases : Table String) : Forest :=
  { layers := [{ aliases, values := env }, { aliases }], paths := [[1]] }

/-- What the caller has brought, as it is now. -/
def caller (f : Forest) : Layer :=
  f.layers.headD {}

/-- The bindings below all layers of scopes. -/
def env (f : Forest) : Table Value :=
  f.caller.values

/-- The numbers of the layers that a scope sees, its own first. -/
def path (f : Forest) (i : Nat) : List Nat :=
  f.paths[i]?.getD []

/-- The layers a scope sees, the nearest first. -/
def view (f : Forest) (scope : Nat) : List Layer :=
  (f.path scope).filterMap fun n => f.layers[n]?

/-- A numbered scope as it is now. -/
def scope (f : Forest) (i : Nat) : Scope :=
  match f.view i with
  | [] => { env := f.env.get? }
  | l :: ls => { top := l, outer := ls, env := f.env.get? }

/-- What can be asked of a scope or done to it. -/
inductive Step where
  | child
  | bind (name : String) (v : Value)
  | set (key : String) (v : Value)
  | rename (name key : String)
  | resolve (name : String)
  | keyFor (name : String)
  deriving Repr, Inhabited

/-- What a step answers: the number of a new scope, nothing, a value, or a key. -/
inductive Answer where
  | created (scope : Nat)
  | done
  | value (v : Value)
  | key (key : String)
  deriving Repr, Inhabited

/-- A new scope that grows out of the numbered one. -/
def grow (f : Forest) (i : Nat) : Forest :=
  { layers := f.layers ++ [{}], paths := f.paths ++ [f.layers.length :: f.path i] }

/-- Changes the nearest layer that a scope sees. -/
def modify (f : Forest) (i : Nat) (change : Layer → Layer) : Forest :=
  match f.path i with
  | [] => f
  | n :: _ => { f with layers := f.layers.modify n change }

/-- Takes a step on the numbered scope. -/
def step (f : Forest) (i : Nat) : Step → Forest × Except RenderError Answer
  | .child => (f.grow i, .ok (.created f.paths.length))
  | .bind name v => (f.modify i (·.bind name v), .ok .done)
  | .set key v => (f.modify i (·.set key v), .ok .done)
  | .rename name key => (f.modify i (·.rename name key), .ok .done)
  | .resolve name => (f, ((f.scope i).resolve name).map .value)
  | .keyFor name => (f, .ok (.key ((f.scope i).keyFor name)))

end Forest

end Lockstep
