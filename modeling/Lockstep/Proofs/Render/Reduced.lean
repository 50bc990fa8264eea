/-
What of a value shows in what a template writes: the text of a scalar and the
elements of a sequence, and nothing else (`render_reduce`). Every value can be
reduced to these, with texts in place of scalars and lists in place of
sequences (`Value.reduce`). The element of a reduced sequence is the reduced
element, and the text of a reduced scalar its text; so the reduced environment
gives the same text, in which every value was replaced before it was looked at
instead of when it was written.

Only an error that names the kind of a value can tell the two apart
(`RenderError.withoutKind`).
-/
import Lockstep.Proofs.Render.Simulation

namespace Lockstep

namespace Value

mutual
/-- The value with texts in place of its scalars and lists in place of its sequences. -/
def reduce : Value → Value
  | .list xs | .tuple xs | .queue xs => .list (reduceItems xs)
  | .range start stop step =>
    .list ((Sequence.numbers start step (rangeCount start stop step)).toList.map (.text ·.toText))
  | .view bs => .list (bs.map fun b => .text (Value.int b.toNat).toText)
  | v => .text v.toText

def reduceItems : List Value → List Value
  | [] => []
  | v :: vs => v.reduce :: reduceItems vs
end

theorem reduceItems_eq_map (vs : List Value) : reduceItems vs = vs.map reduce := by
  induction vs with
  | nil => rw [reduceItems, List.map_nil]
  | cons v vs ih => rw [reduceItems, List.map_cons, ih]

/-- **A scalar is reduced to its text.** -/
theorem reduce_of_scalar {v : Value} (h : v.sequence? = .none) : v.reduce = .text v.toText := by
  cases v with
  | list | tuple | queue | range | view => cases h
  | _ => simp only [reduce]

theorem reduce_int (n : Int) : (Value.int n).reduce = .text (Value.int n).toText :=
  reduce_of_scalar rfl

/-- **A sequence is reduced to the list of its reduced elements.** -/
theorem reduce_of_sequence {v : Value} {q : Sequence} (h : v.sequence? = .some q) :
    v.reduce = .list (q.toList.map reduce) := by
  cases v with
  | list xs | tuple xs | queue xs =>
    cases h
    rw [reduce, reduceItems_eq_map, Sequence.toList]
  | range start stop step =>
    cases h
    rw [reduce, Sequence.toList, List.map_map, List.map_map]
    simp only [Function.comp_def, reduce_int]
  | view bs =>
    cases h
    rw [reduce, Sequence.toList, List.map_map]
    simp only [Function.comp_def, reduce_int]
  | _ => cases h

end Value

/-- The error, without the kind of the value that it is about. -/
def RenderError.withoutKind : RenderError → RenderError
  | .mismatch name expected _ => .mismatch name expected ""
  | e => e

namespace Render

/-- The elements of the list of reduced elements are the reduced elements. -/
theorem Sequence.image_items (image : Value → Value) (q : Sequence) :
    Sequence.Image image q (.items (q.toList.map image)) where
  length := by rw [Sequence.length, List.length_map, Sequence.length_toList]
  get? i := by rw [Sequence.get?, List.getElem?_map, Sequence.getElem?_toList]

/-- No template can tell a value from the reduced one. -/
theorem respects_reduce : Respects Value.reduce RenderError.withoutKind where
  scalar v h := by
    rw [Value.reduce_of_scalar h]
    exact ⟨rfl, rfl⟩
  sequence v q h := by
    rw [Value.reduce_of_sequence h]
    exact ⟨_, rfl, Sequence.image_items _ q⟩
  mismatch _ _ _ := rfl

end Render

/-- The environment in which every value is reduced. -/
def reducedEnv (env : Env) : Env :=
  fun m => (env m).map Value.reduce

/-- **Only the elements of sequences and the texts of scalars matter.** A template comes out in an
environment as it does in the reduced one: the same text, or the same error but for the kind of a
value, and the same groups leave elements out before. -/
theorem render_reduce (o : Options) (template : List Node) (env : Env) (aliases : Table String) :
    (render o template env aliases).mapError RenderError.withoutKind =
        (render o template (reducedEnv env) aliases).mapError RenderError.withoutKind ∧
      truncations o template env aliases = truncations o template (reducedEnv env) aliases := by
  have htraced : (renderTraced o template env aliases).mapError RenderError.withoutKind =
      (renderTraced o template (reducedEnv env) aliases).mapError RenderError.withoutKind :=
    (Render.simulation_mapped Value.reduce).texts_eq Render.respects_reduce o template 0
      (Scope.Mapped.root Value.reduce env aliases)
  exact ⟨congrArg Traced.outcome htraced,
    congrArg (fun t => t.notes.filter Zip.isUneven) htraced⟩

/-- Sequences of all kinds inside each other. Each kind of error stays what it is, and a value that
has not the shape it should have is told by its own kind. -/
example :
    let template : List Node := [.group [.shown ⟨"xs", .some "x"⟩, .hidden ⟨"ys", .some "y"⟩,
      .group [.shown ⟨"y", .none⟩] (.some "+")] (.some ",")]
    let env : Env := fun name =>
      if name = "xs" then .some (.tuple [.bytes [97], .set [.int 1]])
      else if name = "ys" then .some (.queue [.range 1 4 1, .view [7]])
      else .none
    render {} template env = .ok "b'a'1+2+3,\x7b1\x7d7" ∧
      render {} template (reducedEnv env) = .ok "b'a'1+2+3,\x7b1\x7d7" ∧
      render {} [.shown ⟨"xs", .none⟩] env = .error (.mismatch "xs" .scalar "tuple") ∧
      render {} [.shown ⟨"xs", .none⟩] (reducedEnv env) =
        .error (.mismatch "xs" .scalar "list") := by
  exact ⟨rfl, rfl, rfl, rfl⟩

end Lockstep
