/-
The pieces that a text is written from: literal text, separators and the texts
of references, each with the place of the node that it comes from
(`Render.Piece`). A rendering into pieces goes like one into text
(`Pieces.nodes`), and joined its pieces are the text
(`Render.joined_template`).
-/
import Lockstep.Proofs.Render.Simulation

namespace Lockstep

namespace Render

/-- Where a node stands: its position among its siblings, then that of the group around it, and so
on outwards. -/
abbrev Place := List Nat

/-- What a piece of text is to the node that it comes from. -/
inductive Piece.Source where
  /-- The text of a literal. -/
  | literal
  /-- The text of the value of a reference. -/
  | value
  /-- What a group writes between two of its rounds. -/
  | separator
  deriving DecidableEq, Repr

/-- A piece of what is written. -/
structure Piece where
  source : Piece.Source
  place : Place
  text : String
  deriving DecidableEq, Repr

/-- The text of pieces one after the other. -/
def joined (ps : List Piece) : String :=
  String.join (ps.map (·.text))

@[simp] theorem joined_append (ps qs : List Piece) :
    joined (ps ++ qs) = joined ps ++ joined qs := by
  rw [joined, List.map_append, String.join_append, joined, joined]

@[simp] theorem joined_singleton (p : Piece) : joined [p] = p.text := by
  rw [joined, List.map_singleton, String.join_cons, String.join_nil, String.append_empty]

/-! ## Rendering into pieces -/

namespace Pieces

/-- What a group writes between two rounds. -/
def between (here : Place) (separator : Option String) : List Piece :=
  separator.toList.map (⟨.separator, here, ·⟩)

/-- The pieces of `left` rounds from round `i` on, with others between each two. -/
def rounds (between : List Piece) (round : Nat → Rendering (List Piece)) :
    Nat → Nat → Rendering (List Piece)
  | _, 0 => pure []
  | i, 1 => round i
  | i, left + 2 => do
    let ps ← round i
    let rest ← rounds between round (i + 1) (left + 1)
    return ps ++ between ++ rest

mutual
/-- The pieces of a node at its place, and the scope of what follows it. -/
def node (o : Options) : Node → Place → Nat → Scope → Rendering (List Piece × Scope)
  | .literal text, here, _, s => pure ([⟨.literal, here, text⟩], s)
  | .shown r, here, _, s => do
    let v ← .ofExcept (s.resolve r.name)
    if v.isSequence then .fail (.mismatch r.name .scalar v.kind)
    else return ([⟨.value, here, v.toText⟩], s.bindReference r v)
  | .hidden r, _, _, s => do
    let v ← .ofExcept (s.resolve r.name)
    return ([], s.bindReference r v)
  | .group children separator, here, depth, s => do
    if o.maxDepth.groups < depth + 1 then
      .fail (.tooDeep o.maxDepth.groups)
    else
      let lanes ← .ofExcept (planLanes children (depth + 1 : Nat))
      if lanes.isEmpty then
        .fail .noLanes
      else
        let cs ← .ofExcept (columns s lanes)
        let n ← count o.lengthPolicy cs
        let ps ← rounds (between here separator)
          (fun i => do
            let (ps, _) ← nodes o children here 0 (depth + 1) (roundScope s lanes cs i)
            return ps)
          0 n
        return (ps, s)
  | .foreign kind, _, _, _ => .fail (.foreign kind)

/-- The pieces of nodes one after the other, from position `i` on, and the scope of what follows
them. -/
def nodes (o : Options) : List Node → Place → Nat → Nat → Scope → Rendering (List Piece × Scope)
  | [], _, _, _, s => pure ([], s)
  | n :: ns, outer, i, depth, s => do
    let (ps, s') ← node o n (i :: outer) depth s
    let (rest, s'') ← nodes o ns outer (i + 1) depth s'
    return (ps ++ rest, s'')
end

/-- What a group writes in round `i`. -/
def round (o : Options) (children : List Node) (here : Place) (depth : Nat) (s : Scope)
    (lanes : List Lane) (cs : List Column) (i : Nat) : Rendering (List Piece) := do
  let (ps, _) ← nodes o children here 0 (depth + 1) (roundScope s lanes cs i)
  return ps

/-- A group into pieces, step by step. -/
theorem node_group (o : Options) (children : List Node) (sep : Option String) (here : Place)
    (depth : Nat) (s : Scope) :
    node o (.group children sep) here depth s =
      if o.maxDepth.groups < depth + 1 then .fail (.tooDeep o.maxDepth.groups)
      else do
        let lanes ← .ofExcept (planLanes children (depth + 1 : Nat))
        if lanes.isEmpty then .fail .noLanes
        else do
          let cs ← .ofExcept (columns s lanes)
          let n ← count o.lengthPolicy cs
          let ps ← rounds (between here sep) (round o children here depth s lanes cs) 0 n
          return (ps, s) := by
  rw [node]
  rfl

end Pieces

/-- The pieces of a template. -/
def piecesTraced (o : Options) (template : List Node) (env : Env) (aliases : Table String := ∅) :
    Rendering (List Piece) := do
  let (ps, _) ← Pieces.nodes o template [] 0 0 (.root env aliases)
  return ps

/-! ## Joining the pieces -/

open Traced (Matches)

variable {o : Options} {n : Node} {ns : List Node} {outer here : Place} {depth i : Nat} {s : Scope}

/-- The text is that of the pieces. -/
def IsJoined (text : String) (ps : List Piece) : Prop :=
  text = joined ps

/-- The text is that of the pieces, and the same scope follows. -/
def IsJoinedIn (p : String × Scope) (q : List Piece × Scope) : Prop :=
  p.1 = joined q.1 ∧ p.2 = q.2

theorem joined_between (here : Place) (sep : Option String) :
    joined (Pieces.between here sep) = sep.getD "" := by
  cases sep with
  | none => rfl
  | some text => exact joined_singleton _

theorem joined_rounds {separator : String} {between : List Piece} {f : Nat → Rendering String}
    {g : Nat → Rendering (List Piece)} (hb : joined between = separator)
    (h : ∀ j, Matches IsJoined (f j) (g j)) (i n : Nat) :
    Matches IsJoined (rounds separator f i n) (Pieces.rounds between g i n) := by
  induction n generalizing i with
  | zero => exact .pure rfl
  | succ n ih =>
    cases n with
    | zero => exact h i
    | succ n =>
      rw [rounds, Pieces.rounds]
      refine (h i).bind fun text ps htext => (ih (i + 1)).bind fun rest qs hrest => .pure ?_
      rw [IsJoined, joined_append, joined_append, hb, show text = joined ps from htext,
        show rest = joined qs from hrest]

theorem joined_cons
    (hn : Matches IsJoinedIn (node o n depth s) (Pieces.node o n (i :: outer) depth s))
    (hns : ∀ u, Matches IsJoinedIn (nodes o ns depth u) (Pieces.nodes o ns outer (i + 1) depth u)) :
    Matches IsJoinedIn (nodes o (n :: ns) depth s) (Pieces.nodes o (n :: ns) outer i depth s) := by
  rw [nodes, Pieces.nodes]
  refine hn.bind ?_
  rintro ⟨text, u⟩ ⟨ps, u'⟩ ⟨htext, hu⟩
  obtain rfl : u = u' := hu
  refine (hns u).bind ?_
  rintro ⟨rest, w⟩ ⟨qs, w'⟩ ⟨hrest, hw⟩
  refine .pure ⟨?_, hw⟩
  rw [joined_append, show text = joined ps from htext, show rest = joined qs from hrest]

/-- **Nodes are written as their pieces joined**, by induction on the nodes. -/
theorem joined_nodes :
    Matches IsJoinedIn (nodes o ns depth s) (Pieces.nodes o ns outer i depth s) := by
  induction ns using Node.listInduction generalizing outer i depth s with
  | nil =>
    rw [nodes, Pieces.nodes]
    exact .pure ⟨rfl, rfl⟩
  | literal text ns ih =>
    refine joined_cons ?_ fun u => ih
    rw [node, Pieces.node]
    exact .pure ⟨(joined_singleton ⟨.literal, _, text⟩).symm, rfl⟩
  | shown r ns ih =>
    refine joined_cons ?_ fun u => ih
    rw [node, Pieces.node]
    refine .bind_same fun v => ?_
    split
    · exact .fail _
    · exact .pure ⟨(joined_singleton ⟨.value, _, v.toText⟩).symm, rfl⟩
  | hidden r ns ih =>
    refine joined_cons ?_ fun u => ih
    rw [node, Pieces.node]
    exact .bind_same fun v => .pure ⟨rfl, rfl⟩
  | group children sep ns ihc ih =>
    refine joined_cons ?_ fun u => ih
    rw [node_group, Pieces.node_group]
    split
    · exact .fail _
    · refine .bind_same fun lanes => ?_
      split
      · exact .fail _
      · refine .bind_same fun cs => .bind_same fun k => ?_
        refine (joined_rounds (joined_between _ sep) (fun j => ?_) 0 k).bind fun text ps htext =>
          .pure ⟨htext, rfl⟩
        exact ihc.bind fun p q hpq => .pure hpq.1
  | foreign kind ns ih =>
    refine joined_cons ?_ fun u => ih
    rw [node, Pieces.node]
    exact .fail _

/-- **A template is written as its pieces joined**: the text is theirs, or both fail with the same
error, and the same groups are reached and repeat as often. -/
theorem joined_template (o : Options) (template : List Node) (env : Env) (aliases : Table String) :
    Matches IsJoined (renderTraced o template env aliases) (piecesTraced o template env aliases) :=
  joined_nodes.bind fun _ _ hpq => .pure hpq.1

end Render

end Lockstep
