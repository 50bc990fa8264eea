/-
The lanes of a group: the names whose sequences it steps through in
lockstep. They come from the references among its direct children; those of
a group inside it are that group's. Each lane has a key, under which the
element at hand is kept: the label of its first reference or, without one, a
key that no template can spell.
-/
import Lockstep.Render.Error

namespace Lockstep

/-- A name that a group iterates, and the key of the element at hand. The key is explicit if the
template gives it, as a label. -/
structure Lane where
  name : String
  key : String
  explicit : Bool
  deriving DecidableEq, Repr, Inhabited

/-- The key of a lane without a label. No identifier holds the sign between its parts. -/
def laneKey (name : String) (depth : Int) : String :=
  s!"{name}#{depth}"

namespace Lanes

/-- A reference opens a lane unless its name has one already or is a label given before. -/
def opens (lanes : List Lane) (labels : List String) (name : String) : Bool :=
  lanes.all (·.name != name) && !labels.contains name

/-- A label is taken if it is the key of an earlier lane, or the name of an earlier lane and not
the name it labels. -/
def taken (lanes : List Lane) (label name : String) : Bool :=
  lanes.any (fun l => l.explicit && l.key == label) ||
    (label != name && lanes.any (·.name == label))

/-- The lane a reference opens behind the given ones. -/
def laneFor (depth : Int) (lanes : List Lane) (r : Reference) : Except RenderError Lane :=
  match r.bound with
  | .none => .ok ⟨r.name, laneKey r.name depth, false⟩
  | .some label =>
    if taken lanes label r.name then .error (.clash label r.name)
    else .ok ⟨r.name, label, true⟩

/-- Goes through the children behind the given lanes and labels. -/
def planFrom (depth : Int) :
    List Lane → List String → List Node → Except RenderError (List Lane)
  | lanes, _, [] => .ok lanes
  | lanes, labels, n :: ns =>
    match n.reference? with
    | .none => planFrom depth lanes labels ns
    | .some r =>
      let labels' := r.bound.toList ++ labels
      if opens lanes labels r.name then
        match laneFor depth lanes r with
        | .ok lane => planFrom depth (lanes ++ [lane]) labels' ns
        | .error e => .error e
      else planFrom depth lanes labels' ns

end Lanes

/-- **The lanes of a group** with the given children, in the order of their first references. -/
def planLanes (children : List Node) (depth : Int) : Except RenderError (List Lane) :=
  Lanes.planFrom depth [] [] children

end Lockstep
