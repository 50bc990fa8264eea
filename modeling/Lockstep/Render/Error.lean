/-
What can go wrong while a template is rendered, and how each is told.
-/
import Lockstep.Template.Reader
import Lockstep.Value.Printer

namespace Lockstep

/-- What a reference needs its value to be. -/
inductive Shape where
  /-- A value that is written. -/
  | scalar
  /-- A value that is iterated. -/
  | sequence
  deriving DecidableEq, Repr, Inhabited

def Shape.name : Shape → String
  | .scalar => "scalar"
  | .sequence => "sequence"

/-- Why a template cannot be rendered. -/
inductive RenderError where
  /-- Names that nothing is bound to. -/
  | missing (names : List String)
  /-- The value of a name has not the shape its use asks for. -/
  | mismatch (name : String) (expected : Shape) (actual : String)
  /-- The sequences of a group have to be equally long and are not. -/
  | unequal (lengths : List (String × Nat))
  /-- Groups lie inside each other deeper than the limit. -/
  | tooDeep (limit : Nat)
  /-- The label of a lane is taken by another lane of the group. -/
  | clash (label name : String)
  /-- A group has nothing to iterate. -/
  | noLanes
  /-- Something stands in the template that is no part of one. -/
  | foreign (kind : String)
  deriving DecidableEq, Repr, Inhabited

def RenderError.message : RenderError → String
  | .missing names => "No binding for " ++ Value.listed (names.map Text.Quoted.encode)
  | .mismatch name expected actual => s!"Variable '{name}' must be a {expected.name}, got {actual}"
  | .unequal lengths =>
    "Zipped variables have different lengths: " ++
      Value.listed (lengths.map fun l => s!"{l.1}={l.2}")
  | .tooDeep limit => tooDeepMessage limit
  | .clash label name =>
    s!"Alias '{label}' for '{name}' clashes with another iterated variable in the same group"
  | .noLanes => "Repetition group contains no variables to iterate over"
  | .foreign kind => s!"Unknown node type: {kind}"

end Lockstep
