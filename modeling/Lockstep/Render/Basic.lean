/-
Rendering: what a template writes. References are looked up in a scope that
grows from sibling to sibling. A group looks up the sequences of its lanes,
decides how often it repeats, and renders its children once for each element,
every time in a scope of its own whose names are bound to the elements at
hand; what is bound there is gone when the group ends.
-/
import Lockstep.Options.Basic
import Lockstep.Render.Traced
import Lockstep.Scope.Basic
import Lockstep.Template.Lanes
import Lockstep.Value.Sequence

namespace Lockstep

/-- The note that a group is rendered: how often it repeats, and how long the sequence of each of
its lanes is. -/
structure Zip where
  count : Nat
  lengths : List (String × Nat)
  deriving DecidableEq, Repr, Inhabited

/-- Elements are left out, because the sequences are not equally long. -/
def Zip.isUneven (z : Zip) : Bool :=
  z.lengths.any (·.2 != z.count)

/-- How it is told that elements are left out. -/
def Zip.message (z : Zip) : String :=
  let lengths := z.lengths.map fun l => s!"{Text.Quoted.encode l.1}: {l.2}"
  s!"Truncating group to {z.count} iterations: " ++ "\x7b" ++ Value.listed lengths ++ "\x7d"

/-- A rendering, with a note for each group in the order in which they are reached. -/
abbrev Rendering := Traced Zip RenderError

namespace Render

/-! ## Groups -/

/-- A lane and the sequence it steps through. -/
abbrev Column := Lane × Sequence

/-- The sequence a lane's name means. -/
def column (s : Scope) (lane : Lane) : Except RenderError Column :=
  match s.resolve lane.name with
  | .ok v =>
    match v.sequence? with
    | .some q => .ok (lane, q)
    | .none => .error (.mismatch lane.name .sequence v.kind)
  | .error e => .error e

/-- The sequences of all lanes, looked up in their order. -/
def columns (s : Scope) : List Lane → Except RenderError (List Column)
  | [] => .ok []
  | l :: ls =>
    match column s l with
    | .ok c => (columns s ls).map (c :: ·)
    | .error e => .error e

/-- The length of the shortest column. -/
def shortest (cs : List Column) : Nat :=
  ((cs.map (·.2.length)).min?).getD 0

/-- A group over columns repeats as often as the shortest has elements. -/
def zip (cs : List Column) : Zip :=
  ⟨shortest cs, cs.map fun c => (c.1.name, c.2.length)⟩

/-- How often a group repeats. The policy may refuse columns of unequal length. -/
def count (policy : LengthPolicy) (cs : List Column) : Rendering Nat :=
  let z := zip cs
  if z.isUneven && policy == .strict then .fail (.unequal z.lengths)
  else do
    .note z
    return z.count

/-- Lets the names of the lanes stand for their keys. A label that is a key stands for itself. -/
def nameLanes (s : Scope) (lanes : List Lane) : Scope :=
  lanes.foldl
    (fun s l =>
      let named := s.rename l.name l.key
      if l.explicit then named.rename l.key l.key else named)
    s

/-- Keeps the elements at position `i` under the keys of their lanes. -/
def setElements (s : Scope) (cs : List Column) (i : Nat) : Scope :=
  cs.foldl
    (fun s c =>
      match c.2.get? i with
      | .some v => s.set c.1.key v
      | .none => s)
    s

/-- The texts of `left` rounds from round `i` on, with the separator between each two. -/
def rounds (separator : String) (round : Nat → Rendering String) : Nat → Nat → Rendering String
  | _, 0 => pure ""
  | i, 1 => round i
  | i, left + 2 => do
    let text ← round i
    let rest ← rounds separator round (i + 1) (left + 1)
    return text ++ separator ++ rest

/-! ## Nodes -/

mutual
/-- What a node writes at a depth, and the scope of what follows it. -/
def node (o : Options) : Node → Nat → Scope → Rendering (String × Scope)
  | .literal text, _, s => pure (text, s)
  | .shown r, _, s => do
    let v ← .ofExcept (s.resolve r.name)
    if v.isSequence then .fail (.mismatch r.name .scalar v.kind)
    else return (v.toText, s.bindReference r v)
  | .hidden r, _, s => do
    let v ← .ofExcept (s.resolve r.name)
    return ("", s.bindReference r v)
  | .group children separator, depth, s => do
    if o.maxDepth.groups < depth + 1 then
      .fail (.tooDeep o.maxDepth.groups)
    else
      let lanes ← .ofExcept (planLanes children (depth + 1 : Nat))
      if lanes.isEmpty then
        .fail .noLanes
      else
        let cs ← .ofExcept (columns s lanes)
        let n ← count o.lengthPolicy cs
        let inner := nameLanes s.child lanes
        let text ← rounds (separator.getD "")
          (fun i => do
            let (text, _) ← nodes o children (depth + 1) (setElements inner cs i).child
            return text)
          0 n
        return (text, s)
  | .foreign kind, _, _ => .fail (.foreign kind)

/-- What nodes write one after the other, and the scope of what follows them. -/
def nodes (o : Options) : List Node → Nat → Scope → Rendering (String × Scope)
  | [], _, s => pure ("", s)
  | n :: ns, depth, s => do
    let (text, s') ← node o n depth s
    let (rest, s'') ← nodes o ns depth s'
    return (text ++ rest, s'')
end

end Render

/-- **Rendering a template**, with the notes of its groups. Names have their meaning from the
environment, or where an alias is given for them from what the alias means there. -/
def renderTraced (o : Options) (template : List Node) (env : Env) (aliases : Table String := ∅) :
    Rendering String := do
  let (text, _) ← Render.nodes o template 0 (.root env aliases)
  return text

/-- The groups that leave elements out while a template is rendered, up to where it fails if it
does. -/
def truncations (o : Options) (template : List Node) (env : Env) (aliases : Table String := ∅) :
    List Zip :=
  (renderTraced o template env aliases).notes.filter Zip.isUneven

/-- **Rendering a template.** -/
def render (o : Options) (template : List Node) (env : Env) (aliases : Table String := ∅) :
    Except RenderError String :=
  (renderTraced o template env aliases).outcome

end Lockstep
