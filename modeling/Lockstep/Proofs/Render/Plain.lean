/-
A plain reading of templates, over one map from names to values: no aliases,
no keys and no layers. A reference reads its name in the map, and for its
later siblings the label it binds is in the map too. A group reads the names
of its lanes, and renders its children once for each position with the names
and labels of the lanes bound to the elements there. What is bound inside a
group is not bound behind it.

`Plain.render` is what a template would mean if every name had the value last
bound to it.
-/
import Lockstep.Options.Basic
import Lockstep.Render.Basic

namespace Lockstep.Plain

/-- The map with a name bound to a value. -/
def bind (ρ : Env) (name : String) (v : Value) : Env :=
  fun m => if m = name then .some v else ρ m

/-- The map with what a reference binds for its later siblings. -/
def bindReference (ρ : Env) (r : Reference) (v : Value) : Env :=
  match r.bound with
  | .some label => bind ρ label v
  | .none => ρ

/-- What a name is bound to. -/
def read (ρ : Env) (name : String) : Except RenderError Value :=
  match ρ name with
  | .some v => .ok v
  | .none => .error (.missing [name])

/-! ## Groups -/

/-- A lane with the sequence its name is bound to. -/
def column (ρ : Env) (l : Lane) : Except RenderError Render.Column := do
  let v ← read ρ l.name
  match v.sequence? with
  | .some q => return (l, q)
  | .none => throw (.mismatch l.name .sequence v.kind)

/-- How often a group repeats: as often as the shortest sequence has elements. The strict policy
asks that none is longer. -/
def repetitions (policy : LengthPolicy) (cs : List Render.Column) : Except RenderError Nat :=
  let n := ((cs.map (·.2.length)).min?).getD 0
  if policy = .strict ∧ ∃ c ∈ cs, c.2.length ≠ n then
    throw (.unequal (cs.map fun c => (c.1.name, c.2.length)))
  else return n

/-- The map with the name of a lane, and its label if it has one, bound to a value. -/
def bindLane (ρ : Env) (l : Lane) (v : Value) : Env :=
  if l.explicit then bind (bind ρ l.name v) l.key v else bind ρ l.name v

/-- The map with the lanes bound to their elements at position `i`. -/
def bindElements (ρ : Env) (i : Nat) : List Render.Column → Env
  | [] => ρ
  | c :: cs =>
    match c.2.get? i with
    | .some v => bindElements (bindLane ρ c.1 v) i cs
    | .none => bindElements ρ i cs

/-! ## Nodes -/

mutual
/-- What a node writes at a depth, and the map for what follows it. -/
def node (o : Options) : Node → Nat → Env → Except RenderError (String × Env)
  | .literal text, _, ρ => return (text, ρ)
  | .shown r, _, ρ => do
    let v ← read ρ r.name
    if v.isSequence then throw (.mismatch r.name .scalar v.kind)
    else return (v.toText, bindReference ρ r v)
  | .hidden r, _, ρ => do
    let v ← read ρ r.name
    return ("", bindReference ρ r v)
  | .group children separator, depth, ρ =>
    if o.maxDepth.groups < depth + 1 then throw (.tooDeep o.maxDepth.groups)
    else do
      let lanes ← planLanes children (depth + 1 : Nat)
      if lanes.isEmpty then throw .noLanes
      else
        let cs ← lanes.mapM (column ρ)
        let n ← repetitions o.lengthPolicy cs
        let texts ← (List.range n).mapM fun i =>
          nodes o children (depth + 1) (bindElements ρ i cs)
        return ((separator.getD "").intercalate texts, ρ)
  | .foreign kind, _, _ => throw (.foreign kind)

/-- What nodes write one after the other. -/
def nodes (o : Options) : List Node → Nat → Env → Except RenderError String
  | [], _, _ => return ""
  | n :: ns, depth, ρ => do
    let (text, ρ') ← node o n depth ρ
    let rest ← nodes o ns depth ρ'
    return text ++ rest
end

/-- **What a template means over one map.** -/
def render (o : Options) (template : List Node) (env : Env) : Except RenderError String :=
  nodes o template 0 env

end Lockstep.Plain
