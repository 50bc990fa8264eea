/-
Renderings under different options. Options are read at two places, the limit
where a group begins and the length policy where its columns are counted; all
else is the same computation under both. So renderings are related if what
happens at these two places is (`Render.related_nodes`), for every relation
that is kept when related computations are put one behind the other
(`Traced.Congruence`).
-/
import Lockstep.Proofs.Render.Notes

namespace Lockstep

namespace Traced

variable {ν ε : Type}

/-- A relation of computations that holds of results and failures with themselves, and goes on to
hold where related computations follow. -/
structure Congruence (R : ∀ {α : Type}, Traced ν ε α → Traced ν ε α → Prop) : Prop where
  pure : ∀ {α : Type} (a : α), R (Pure.pure a) (Pure.pure a)
  fail : ∀ {α : Type} (e : ε), R (α := α) (Traced.fail e) (Traced.fail e)
  bind : ∀ {α β : Type} {x y : Traced ν ε α} {f g : α → Traced ν ε β}, R x y →
    (∀ a, R (f a) (g a)) → R (x >>= f) (y >>= g)

theorem Congruence.ofExcept {R : ∀ {α : Type}, Traced ν ε α → Traced ν ε α → Prop}
    (hR : Congruence R) {α : Type} (r : Except ε α) :
    R (Traced.ofExcept r) (Traced.ofExcept r) := by
  cases r with
  | ok a => exact hR.pure a
  | error e => exact hR.fail e

end Traced

namespace Render

open Traced (Congruence)

variable {R : ∀ {α : Type}, Rendering α → Rendering α → Prop} {o o' : Options}

theorem related_rounds (hR : Congruence R) {separator : String} {f g : Nat → Rendering String}
    (h : ∀ i, R (f i) (g i)) (i n : Nat) :
    R (rounds separator f i n) (rounds separator g i n) := by
  induction n generalizing i with
  | zero => exact hR.pure ""
  | succ n ih =>
    cases n with
    | zero => exact h i
    | succ n => exact hR.bind (h i) fun text => hR.bind (ih (i + 1)) fun rest => hR.pure _

theorem related_nodes_cons (hR : Congruence R) {n : Node} {ns : List Node} {depth : Nat} {s : Scope}
    (hn : R (node o n depth s) (node o' n depth s))
    (hns : ∀ s', R (nodes o ns depth s') (nodes o' ns depth s')) :
    R (nodes o (n :: ns) depth s) (nodes o' (n :: ns) depth s) := by
  rw [nodes, nodes]
  exact hR.bind hn fun p => hR.bind (hns p.2) fun q => hR.pure _

/-- **Renderings are related if the limits and the length policies are**, by induction on the nodes:
they differ at the groups alone, and there in whether the group may begin, in the lengths, and in
the rounds. -/
theorem related_nodes (hR : Congruence R)
    (hlimit : ∀ depth {x y : Rendering (String × Scope)}, R x y →
      R (if o.maxDepth.groups < depth then .fail (.tooDeep o.maxDepth.groups) else x)
        (if o'.maxDepth.groups < depth then .fail (.tooDeep o'.maxDepth.groups) else y))
    (hcount : ∀ cs, R (count o.lengthPolicy cs) (count o'.lengthPolicy cs))
    (ns : List Node) (depth : Nat) (s : Scope) :
    R (nodes o ns depth s) (nodes o' ns depth s) := by
  induction ns using Node.listInduction generalizing depth s with
  | nil =>
    rw [nodes, nodes]
    exact hR.pure ("", s)
  | literal text ns ih =>
    refine related_nodes_cons hR ?_ (ih depth)
    rw [node, node]
    exact hR.pure _
  | shown r ns ih =>
    refine related_nodes_cons hR ?_ (ih depth)
    rw [node, node]
    refine hR.bind (hR.ofExcept _) fun v => ?_
    split
    · exact hR.fail _
    · exact hR.pure _
  | hidden r ns ih =>
    refine related_nodes_cons hR ?_ (ih depth)
    rw [node, node]
    exact hR.bind (hR.ofExcept _) fun v => hR.pure _
  | group children sep ns ihc ih =>
    refine related_nodes_cons hR ?_ (ih depth)
    have hround (lanes : List Lane) (cs : List Column) (i : Nat) :
        R (round o children depth s lanes cs i) (round o' children depth s lanes cs i) :=
      hR.bind (ihc (depth + 1) (roundScope s lanes cs i)) fun p => hR.pure p.1
    rw [node_group, node_group]
    refine hlimit (depth + 1) (hR.bind (hR.ofExcept _) fun lanes => ?_)
    split
    · exact hR.fail _
    · refine hR.bind (hR.ofExcept _) fun cs => hR.bind (hcount cs) fun n => ?_
      exact hR.bind (related_rounds hR (hround lanes cs) 0 n) fun text => hR.pure _
  | foreign kind ns ih =>
    refine related_nodes_cons hR ?_ (ih depth)
    rw [node, node]
    exact hR.fail _

end Render

end Lockstep
