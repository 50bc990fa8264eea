/-
Hiding references takes their text out of what is written, and nothing else
(`render_hide`). References that are shown are chosen by their places, and
hidden there (`Node.hide`).

A hidden reference names and binds what the shown one does, so groups have the
same lanes and the template the same free names. The two are rendered in the
same scopes: where the one with all references shown is rendered, its pieces
but for those of the chosen references are the pieces of the other
(`Render.kept_nodes`). The converse does not hold, for a sequence can be
hidden and not be shown.
-/
import Lockstep.Proofs.Render.Pieces
import Lockstep.Proofs.Template.FreeNames

namespace Lockstep

open Render (Place Piece joined)

variable {chosen : Place → Bool} {outer here : Place} {i : Nat} {n : Node} {ns : List Node}
  {r : Reference} {depth : Nat} {s : Scope}

/-! ## Hiding -/

namespace Node

mutual
/-- The node with the references hidden that are shown at chosen places. -/
def hideNode (chosen : Place → Bool) : Node → Place → Node
  | .literal text, _ => .literal text
  | .shown r, here => if chosen here then .hidden r else .shown r
  | .hidden r, _ => .hidden r
  | .group children sep, here => .group (hideNodes chosen children here 0) sep
  | .foreign kind, _ => .foreign kind

/-- The same for nodes one after the other, from position `i` on. -/
def hideNodes (chosen : Place → Bool) : List Node → Place → Nat → List Node
  | [], _, _ => []
  | n :: ns, outer, i => hideNode chosen n (i :: outer) :: hideNodes chosen ns outer (i + 1)
end

/-- **The template with the chosen references hidden.** -/
def hide (chosen : Place → Bool) (template : List Node) : List Node :=
  hideNodes chosen template [] 0

@[simp] theorem reference?_hideNode (n : Node) (here : Place) :
    (hideNode chosen n here).reference? = n.reference? := by
  cases n with
  | shown r =>
    rw [hideNode]
    split <;> rfl
  | _ => rfl

theorem references?_hideNodes (ns : List Node) (outer : Place) (i : Nat) :
    (hideNodes chosen ns outer i).map reference? = ns.map reference? := by
  induction ns generalizing i with
  | nil => rfl
  | cons n ns ih => rw [hideNodes, List.map_cons, List.map_cons, reference?_hideNode, ih]

end Node

open Node (hideNode hideNodes)

/-! ## Lanes and free names -/

/-- A plan depends on nothing but the references among the children. -/
theorem Lanes.planFrom_congr {depth : Int} {ns ms : List Node}
    (h : ns.map Node.reference? = ms.map Node.reference?) (lanes : List Lane)
    (labels : List String) : planFrom depth lanes labels ns = planFrom depth lanes labels ms := by
  induction ns generalizing ms lanes labels with
  | nil =>
    obtain rfl : ms = [] := by simpa using h.symm
    rfl
  | cons n ns ih =>
    cases ms with
    | nil => cases h
    | cons m ms =>
      obtain ⟨hn, hns⟩ := List.cons.inj h
      rw [planFrom, planFrom, hn]
      cases m.reference? with
      | none => exact ih hns lanes labels
      | some r =>
        dsimp only
        split
        · cases laneFor depth lanes r with
          | ok l => exact ih hns _ _
          | error e => rfl
        · exact ih hns _ _

/-- **Groups have the same lanes.** -/
theorem planLanes_hideNodes (ns : List Node) (outer : Place) (i : Nat) (depth : Int) :
    planLanes (hideNodes chosen ns outer i) depth = planLanes ns depth :=
  Lanes.planFrom_congr (Node.references?_hideNodes ns outer i) [] []

theorem FreeNames.nodes_cons_congr {m : Node} {ms : List Node} {bound found : List String}
    (hn : node n bound found = node m bound found)
    (hns : ∀ bound' found', nodes ns bound' found' = nodes ms bound' found') :
    nodes (n :: ns) bound found = nodes (m :: ms) bound found := by
  rw [nodes, nodes, hn]
  cases node m bound found with
  | ok p => exact hns p.1 p.2
  | error e => rfl

/-- **Templates have the same free names.** -/
theorem FreeNames.nodes_hideNodes (ns : List Node) (outer : Place) (i : Nat)
    (bound found : List String) :
    nodes (hideNodes chosen ns outer i) bound found = nodes ns bound found := by
  induction ns using Node.listInduction generalizing outer i bound found with
  | nil => rfl
  | literal text ns ih | foreign kind ns ih =>
    exact nodes_cons_congr rfl fun bound' found' => ih outer (i + 1) bound' found'
  | shown r ns ih | hidden r ns ih =>
    refine nodes_cons_congr ?_ fun bound' found' => ih outer (i + 1) bound' found'
    rw [node_of_reference (Node.reference?_hideNode _ _), node_of_reference rfl]
  | group children sep ns ihc ih =>
    refine nodes_cons_congr ?_ fun bound' found' => ih outer (i + 1) bound' found'
    rw [hideNode, node, node, planLanes_hideNodes]
    simp only [ihc]

/-- The same node, or a reference that is hidden, or a group with the same lanes. -/
inductive Node.Hides : Node → Node → Prop
  | same (n : Node) : Hides n n
  | hidden (r : Reference) : Hides (.shown r) (.hidden r)
  | group {children children' : List Node} (sep : Option String) :
      (∀ depth, planLanes children' depth = planLanes children depth) →
      Hides (.group children sep) (.group children' sep)

/-- **The parts of a template go along with each other.** -/
theorem Node.hides_partsList (ns : List Node) (outer : Place) (i : Nat) :
    List.Forall₂ Hides (partsList ns) (partsList (hideNodes chosen ns outer i)) := by
  induction ns using Node.listInduction generalizing outer i with
  | nil => exact .nil
  | literal text ns ih | hidden r ns ih | foreign kind ns ih =>
    rw [hideNodes, hideNode, partsList_cons, partsList_cons]
    exact .cons (.same _) (ih outer (i + 1))
  | shown r ns ih =>
    rw [hideNodes, hideNode, partsList_cons, partsList_cons]
    split
    · exact .cons (.hidden r) (ih outer (i + 1))
    · exact .cons (.same _) (ih outer (i + 1))
  | group children sep ns ihc ih =>
    rw [hideNodes, hideNode, partsList_cons, partsList_cons, parts, parts]
    exact .cons (.group sep (planLanes_hideNodes children (i :: outer) 0))
      (List.rel_append (ihc (i :: outer) 0) (ih outer (i + 1)))

/-! ## Following computations -/

namespace Traced

variable {ν ε α β γ δ : Type} {R : α → β → Prop} {S : γ → δ → Prop} {x : Traced ν ε α}
  {y : Traced ν ε β}

/-- If the first computation succeeds, so does the second, with the same notes and a related
result. -/
def Follows (R : α → β → Prop) (x : Traced ν ε α) (y : Traced ν ε β) : Prop :=
  ∀ a, x.outcome = .ok a → y.notes = x.notes ∧ ∃ b, y.outcome = .ok b ∧ R a b

namespace Follows

theorem pure {a : α} {b : β} (h : R a b) :
    Follows R (Pure.pure a : Traced ν ε α) (Pure.pure b) := by
  intro a' ha'
  cases ha'
  exact ⟨rfl, b, rfl, h⟩

theorem fail (e : ε) (y : Traced ν ε β) : Follows R (Traced.fail e : Traced ν ε α) y :=
  nofun

/-- What follows goes on to follow, if it does from related results. -/
theorem bind {f : α → Traced ν ε γ} {g : β → Traced ν ε δ} (h : Follows R x y)
    (hfg : ∀ a b, R a b → Follows S (f a) (g b)) : Follows S (x >>= f) (y >>= g) := by
  intro c hc
  rw [outcome_bind] at hc
  obtain ⟨a, ha, hc⟩ := bind_eq_ok.mp hc
  obtain ⟨hnotes, b, hb, hab⟩ := h a ha
  obtain ⟨hnotes', d, hd, hcd⟩ := hfg a b hab c hc
  refine ⟨?_, d, ?_, hcd⟩
  · rw [notes_bind_of_ok ha, notes_bind_of_ok hb, hnotes, hnotes']
  · rw [outcome_bind, hb]
    exact hd

theorem bind_same {x : Traced ν ε α} {f : α → Traced ν ε γ} {g : α → Traced ν ε δ}
    (hfg : ∀ a, Follows S (f a) (g a)) : Follows S (x >>= f) (x >>= g) := by
  have hx : Follows (· = ·) x x := fun a ha => ⟨rfl, a, ha, rfl⟩
  refine hx.bind fun a b hab => ?_
  rw [← hab]
  exact hfg a

end Follows

end Traced

/-! ## Pieces that are kept -/

namespace Render

open Traced (Follows)

/-- The piece is not the text of a chosen reference. -/
def Piece.isKept (chosen : Place → Bool) (p : Piece) : Bool :=
  !(p.source == .value && chosen p.place)

/-- The pieces without the texts of chosen references. -/
def kept (chosen : Place → Bool) (ps : List Piece) : List Piece :=
  ps.filter (·.isKept chosen)

@[simp] theorem kept_append (ps qs : List Piece) :
    kept chosen (ps ++ qs) = kept chosen ps ++ kept chosen qs :=
  List.filter_append ps qs

theorem kept_between (here : Place) (sep : Option String) :
    kept chosen (Pieces.between here sep) = Pieces.between here sep := by
  cases sep <;> rfl

/-- The second pieces are those of the first that are kept. -/
def IsKept (chosen : Place → Bool) (ps qs : List Piece) : Prop :=
  qs = kept chosen ps

/-- The same, and the same scope follows. -/
def IsKeptIn (chosen : Place → Bool) (p q : List Piece × Scope) : Prop :=
  q.1 = kept chosen p.1 ∧ q.2 = p.2

variable {o : Options}

theorem kept_rounds {between : List Piece} {f g : Nat → Rendering (List Piece)}
    (hb : kept chosen between = between) (h : ∀ j, Follows (IsKept chosen) (f j) (g j))
    (i n : Nat) :
    Follows (IsKept chosen) (Pieces.rounds between f i n) (Pieces.rounds between g i n) := by
  induction n generalizing i with
  | zero => exact .pure rfl
  | succ n ih =>
    cases n with
    | zero => exact h i
    | succ n =>
      rw [Pieces.rounds, Pieces.rounds]
      refine (h i).bind fun ps qs hqs => (ih (i + 1)).bind fun rest rest' hrest => .pure ?_
      rw [IsKept, kept_append, kept_append, hb, show qs = kept chosen ps from hqs,
        show rest' = kept chosen rest from hrest]

theorem kept_cons (hn : Follows (IsKeptIn chosen) (Pieces.node o n (i :: outer) depth s)
      (Pieces.node o (hideNode chosen n (i :: outer)) (i :: outer) depth s))
    (hns : ∀ u, Follows (IsKeptIn chosen) (Pieces.nodes o ns outer (i + 1) depth u)
      (Pieces.nodes o (hideNodes chosen ns outer (i + 1)) outer (i + 1) depth u)) :
    Follows (IsKeptIn chosen) (Pieces.nodes o (n :: ns) outer i depth s)
      (Pieces.nodes o (hideNodes chosen (n :: ns) outer i) outer i depth s) := by
  rw [hideNodes, Pieces.nodes, Pieces.nodes]
  refine hn.bind ?_
  rintro ⟨ps, u⟩ ⟨qs, u'⟩ ⟨hps, hu⟩
  obtain rfl : u' = u := hu
  refine (hns u').bind ?_
  rintro ⟨rest, w⟩ ⟨rest', w'⟩ ⟨hrest, hw⟩
  refine .pure ⟨?_, hw⟩
  rw [kept_append, show qs = kept chosen ps from hps, show rest' = kept chosen rest from hrest]

/-- A chosen reference is read and bound where the shown one is, and writes nothing. -/
theorem kept_shown (r : Reference) (here : Place) (depth : Nat) (s : Scope) :
    Follows (IsKeptIn chosen) (Pieces.node o (.shown r) here depth s)
      (Pieces.node o (hideNode chosen (.shown r) here) here depth s) := by
  cases hc : chosen here with
  | true =>
    rw [hideNode, if_pos hc, Pieces.node, Pieces.node]
    refine .bind_same fun v => ?_
    split
    -- To show a sequence fails, so nothing need follow, although it can be hidden.
    · exact .fail _ _
    · refine .pure ⟨?_, rfl⟩
      simp [kept, Piece.isKept, hc]
  | false =>
    have hnot : ¬ chosen here = true := by simp [hc]
    rw [hideNode, if_neg hnot, Pieces.node]
    refine .bind_same fun v => ?_
    split
    · exact .fail _ _
    · refine .pure ⟨?_, rfl⟩
      simp [kept, Piece.isKept, hc]

/-- **Where all references are shown, the pieces that are kept are those with the chosen ones
hidden**, by induction on the nodes. -/
theorem kept_nodes : Follows (IsKeptIn chosen) (Pieces.nodes o ns outer i depth s)
    (Pieces.nodes o (hideNodes chosen ns outer i) outer i depth s) := by
  induction ns using Node.listInduction generalizing outer i depth s with
  | nil =>
    rw [hideNodes, Pieces.nodes]
    exact .pure ⟨rfl, rfl⟩
  | literal text ns ih =>
    refine kept_cons ?_ fun u => ih
    rw [hideNode, Pieces.node]
    exact .pure ⟨rfl, rfl⟩
  | shown r ns ih => exact kept_cons (kept_shown r (i :: outer) depth s) fun u => ih
  | hidden r ns ih =>
    refine kept_cons ?_ fun u => ih
    rw [hideNode, Pieces.node]
    exact .bind_same fun v => .pure ⟨rfl, rfl⟩
  | group children sep ns ihc ih =>
    refine kept_cons ?_ fun u => ih
    rw [hideNode, Pieces.node_group, Pieces.node_group, planLanes_hideNodes]
    split
    · exact .fail _ _
    · refine .bind_same fun lanes => ?_
      split
      · exact .fail _ _
      · refine .bind_same fun cs => .bind_same fun k => ?_
        refine (kept_rounds (kept_between _ sep) (fun j => ?_) 0 k).bind fun ps qs hqs =>
          .pure ⟨hqs, rfl⟩
        exact ihc.bind fun p q hpq => .pure hpq.1
  | foreign kind ns ih =>
    refine kept_cons ?_ fun u => ih
    rw [Pieces.node]
    exact .fail _ _

/-- The same of templates. -/
theorem kept_template (o : Options) (template : List Node) (env : Env) (aliases : Table String) :
    Follows (IsKept chosen) (piecesTraced o template env aliases)
      (piecesTraced o (Node.hide chosen template) env aliases) :=
  kept_nodes.bind fun _ _ hpq => .pure hpq.1

end Render

/-! ## Hiding references -/

/-- **Hiding references removes their text and nothing else**, whichever are chosen. Every group has
the same lanes, or cannot have any for the same reason; the same names are free, and the same are
missing. Where a template is written as a text, that is made of pieces, and with the references
hidden it is written as the same pieces without those of the chosen references, in all rounds; the
groups are the same in the same order, and repeat as often. -/
theorem render_hide (chosen : Place → Bool) (o : Options) (template : List Node) (env : Env)
    (aliases : Table String) :
    List.Forall₂ Node.Hides (Node.partsList template)
        (Node.partsList (Node.hide chosen template)) ∧
      freeNames (Node.hide chosen template) = freeNames template ∧
      checkBindings (Node.hide chosen template) env = checkBindings template env ∧
      ∀ text, render o template env aliases = .ok text →
        ∃ ps, (Render.piecesTraced o template env aliases).outcome = .ok ps ∧ text = joined ps ∧
          (Render.piecesTraced o (Node.hide chosen template) env aliases).outcome =
            .ok (Render.kept chosen ps) ∧
          render o (Node.hide chosen template) env aliases =
            .ok (joined (Render.kept chosen ps)) ∧
          (renderTraced o (Node.hide chosen template) env aliases).notes =
            (renderTraced o template env aliases).notes := by
  have hfree : freeNames (Node.hide chosen template) = freeNames template :=
    FreeNames.nodes_hideNodes template [] 0 [] []
  refine ⟨Node.hides_partsList template [] 0, hfree, ?_, fun text htext => ?_⟩
  · rw [checkBindings, hfree, checkBindings]
  · obtain ⟨hnotes, hends⟩ := Render.joined_template o template env aliases
    obtain ⟨hnotes', hends'⟩ :=
      Render.joined_template o (Node.hide chosen template) env aliases
    rw [show (renderTraced o template env aliases).outcome = .ok text from htext] at hends
    obtain ⟨ps, hps, hjoined⟩ := hends.of_ok
    obtain ⟨hkept, qs, hqs, rfl⟩ := Render.kept_template o template env aliases ps hps
    rw [hqs] at hends'
    obtain ⟨text', htext', hjoined'⟩ := hends'.of_ok_right
    refine ⟨ps, hps, hjoined, hqs, ?_, by rw [hnotes', hkept, hnotes]⟩
    rw [← show text' = joined (Render.kept chosen ps) from hjoined']
    exact htext'

/-- A label that is shown and hidden, and a group inside a group: what is chosen are the first
reference and the cells of the inner group. The label still means what it meant. -/
theorem render_hide_rows :
    let template : List Node := [.literal "T:", .group [.shown ⟨"xs", .some "x"⟩, .literal "=",
      .hidden ⟨"rows", .some "row"⟩, .group [.shown ⟨"row", .none⟩, .literal "."] (.some "+"),
      .shown ⟨"x", .none⟩] (.some "; ")]
    let chosen : Place → Bool := fun place => place = [0, 1] ∨ place = [0, 3, 1]
    let env : Env := fun name =>
      if name = "xs" then .some (.list [.text "a", .text "b", .text "c"])
      else if name = "rows" then .some (.tuple [.range 1 3 1, .list [.null]])
      else .none
    freeNames (Node.hide chosen template) = .ok ["xs", "rows"] ∧
      render {} template env = .ok "T:a=1.+2.a; b=None.b" ∧
      render {} (Node.hide chosen template) env = .ok "T:=.+.a; =.b" := by
  intro template chosen env
  have hnames : freeNames template = .ok ["xs", "rows"] := by rfl
  have htext : render {} template env = .ok "T:a=1.+2.a; b=None.b" := by rfl
  obtain ⟨-, hfree, -, hpieces⟩ := render_hide chosen {} template env ∅
  obtain ⟨ps, hps, -, -, hhidden, -⟩ := hpieces _ htext
  refine ⟨hfree.trans hnames, htext, hhidden.trans ?_⟩
  cases hps
  rfl

end Lockstep
