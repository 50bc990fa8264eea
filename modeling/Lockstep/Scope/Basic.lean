/-
Scopes: what a name means at a place of a template. A scope is a stack of
layers above an environment. A name is first turned into a key, by the
nearest layer that has an alias for it; the key is then looked up in the
nearest layer that has a value for it, and at last in the environment.
Writing changes the top layer alone.
-/
import Lockstep.Render.Error
import Lockstep.Table

namespace Lockstep

/-- What the caller binds names to. -/
abbrev Env := String → Option Value

structure Layer where
  /-- The keys that names stand for. -/
  aliases : Table String := ∅
  /-- The values kept under keys. -/
  values : Table Value := ∅
  deriving Repr, Inhabited

/-- A stack of layers, of which there is at least one, above an environment. -/
structure Scope where
  top : Layer := {}
  outer : List Layer := []
  env : Env

namespace Scope

/-- The scope in which a template begins. -/
def root (env : Env) (aliases : Table String := ∅) : Scope :=
  { top := { aliases }, env }

/-- A scope with a layer of its own; what is written to it is not seen outside. -/
def child (s : Scope) : Scope :=
  { s with top := {}, outer := s.top :: s.outer }

/-- All layers, the nearest first. -/
def layers (s : Scope) : List Layer :=
  s.top :: s.outer

/-- The key a name stands for: its nearest alias, or the name itself. -/
def keyFor (s : Scope) (name : String) : String :=
  (s.layers.findSome? fun l => l.aliases.get? name).getD name

/-- The value kept under a key in the nearest layer that has one, or in the environment. -/
def valueAt (s : Scope) (key : String) : Option Value :=
  (s.layers.findSome? fun l => l.values.get? key).or (s.env key)

/-- What a name means. -/
def lookup (s : Scope) (name : String) : Option Value :=
  s.valueAt (s.keyFor name)

/-- What a name means; a name without a meaning is an error that names it. -/
def resolve (s : Scope) (name : String) : Except RenderError Value :=
  match s.lookup name with
  | .some v => .ok v
  | .none => .error (.missing [name])

end Scope

namespace Layer

/-- Lets a name stand for a key. -/
def rename (l : Layer) (name key : String) : Layer :=
  { l with aliases := l.aliases.insert name key }

/-- Keeps a value under a key. -/
def set (l : Layer) (key : String) (v : Value) : Layer :=
  { l with values := l.values.insert key v }

/-- Binds a name to a value, whatever the name stood for before. -/
def bind (l : Layer) (name : String) (v : Value) : Layer :=
  (l.rename name name).set name v

end Layer

namespace Scope

def rename (s : Scope) (name key : String) : Scope :=
  { s with top := s.top.rename name key }

def set (s : Scope) (key : String) (v : Value) : Scope :=
  { s with top := s.top.set key v }

def bind (s : Scope) (name : String) (v : Value) : Scope :=
  { s with top := s.top.bind name v }

/-- Binds what a reference binds. -/
def bindReference (s : Scope) (r : Reference) (v : Value) : Scope :=
  match r.bound with
  | .some label => s.bind label v
  | .none => s

end Scope

end Lockstep
