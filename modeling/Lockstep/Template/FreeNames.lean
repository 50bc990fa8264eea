/-
The free names of a template: those it reads from its environment. A name is
not free where a reference before it binds it as a label, or where a group
around it iterates it.
-/
import Lockstep.Scope.Basic
import Lockstep.Template.Lanes

namespace Lockstep

namespace FreeNames

/-- A name once found is not found again. -/
def find (bound found : List String) (name : String) : List String :=
  if bound.contains name || found.contains name then found else found ++ [name]

/-- What the lanes of a group bind inside it: their names and their labels. -/
def laneNames (lanes : List Lane) : List String :=
  lanes.flatMap fun l => if l.explicit then [l.name, l.key] else [l.name]

mutual
/-- The names bound behind a node, and the free names found so far. -/
def node : Node → List String → List String → Except RenderError (List String × List String)
  | .shown r, bound, found | .hidden r, bound, found =>
    .ok (r.bound.toList ++ bound, find bound found r.name)
  | .group children _, bound, found =>
    match planLanes children 0 with
    | .ok lanes =>
      let found' := (lanes.map (·.name)).foldl (find bound) found
      match nodes children (laneNames lanes ++ bound) found' with
      | .ok found'' => .ok (bound, found'')
      | .error e => .error e
    | .error e => .error e
  | .literal _, bound, found | .foreign _, bound, found => .ok (bound, found)

/-- The free names found so far, with those of a list of nodes behind them. -/
def nodes : List Node → List String → List String → Except RenderError (List String)
  | [], _, found => .ok found
  | n :: ns, bound, found =>
    match node n bound found with
    | .ok (bound', found') => nodes ns bound' found'
    | .error e => .error e
end

end FreeNames

/-- **The free names of a template**, in the order of their first use. -/
def freeNames (template : List Node) : Except RenderError (List String) :=
  FreeNames.nodes template [] []

/-- Complains about all free names that the environment does not bind. -/
def checkBindings (template : List Node) (env : Env) : Except RenderError Unit := do
  let names ← freeNames template
  let missing := names.filter fun name => (env name).isNone
  if missing.isEmpty then return () else throw (.missing missing)

end Lockstep
