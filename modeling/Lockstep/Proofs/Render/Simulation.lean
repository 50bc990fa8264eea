/-
Renderings that go along with each other. Two computations match
(`Traced.Matches`) if they take the same notes and end in the same way.

One template may be rendered in two scopes. The renderings match if the scopes
give every name that is read corresponding values, and go on to do so behind
each reference and in each round (`Render.Simulation`): values correspond by a
function under which texts, lengths and elements are the same
(`Render.Respects`). What differs between the two is then only what errors say
about the values themselves, so errors are compared as far as a function of
them tells (`Render.Simulation.texts_eq`).

The simplest case are scopes in which the same keys have corresponding values
(`Render.simulation_mapped`): a group names the same lanes in both and sets
corresponding elements.
-/
import Lockstep.Proofs.Render.Notes
import Lockstep.Proofs.Scope.Alike
import Mathlib.Data.List.Forall2

namespace Lockstep

/-! ## Computations that match -/

namespace Traced

section

variable {ν ε α β γ δ : Type} {R : α → β → Prop} {S : γ → δ → Prop} {x : Traced ν ε α}
  {y : Traced ν ε β}

/-- Both fail with the same error, or come to results that are related. -/
inductive Ends (R : α → β → Prop) : Except ε α → Except ε β → Prop
  | ok {a : α} {b : β} : R a b → Ends R (.ok a) (.ok b)
  | error {e : ε} : Ends R (.error e) (.error e)

theorem Ends.of_ok {a : α} {y : Except ε β} (h : Ends R (.ok a) y) : ∃ b, y = .ok b ∧ R a b := by
  cases h with
  | ok hab => exact ⟨_, rfl, hab⟩

theorem Ends.of_ok_right {x : Except ε α} {b : β} (h : Ends R x (.ok b)) :
    ∃ a, x = .ok a ∧ R a b := by
  cases h with
  | ok hab => exact ⟨_, rfl, hab⟩

/-- Two computations take the same notes, and end in the same way. -/
structure Matches (R : α → β → Prop) (x : Traced ν ε α) (y : Traced ν ε β) : Prop where
  notes : x.notes = y.notes
  ends : Ends R x.outcome y.outcome

namespace Matches

theorem pure {a : α} {b : β} (h : R a b) :
    Matches R (Pure.pure a : Traced ν ε α) (Pure.pure b) :=
  ⟨rfl, .ok h⟩

theorem fail (e : ε) : Matches R (Traced.fail e : Traced ν ε α) (Traced.fail e) :=
  ⟨rfl, .error⟩

theorem refl (x : Traced ν ε α) : Matches (· = ·) x x := by
  refine ⟨rfl, ?_⟩
  cases x.outcome with
  | ok a => exact .ok rfl
  | error e => exact .error

/-- Computations that match with equal results are equal. -/
theorem eq {x y : Traced ν ε α} (h : Matches (· = ·) x y) : x = y := by
  obtain ⟨notes, outcome⟩ := x
  obtain ⟨notes', outcome'⟩ := y
  obtain ⟨rfl, hends⟩ := h
  cases hends with
  | ok h => rw [h]
  | error => rfl

/-- **Matching computations go on to match**, if they do from related results. -/
theorem bind {f : α → Traced ν ε γ} {g : β → Traced ν ε δ} (h : Matches R x y)
    (hfg : ∀ a b, R a b → Matches S (f a) (g b)) : Matches S (x >>= f) (y >>= g) := by
  obtain ⟨notes, outcome⟩ := x
  obtain ⟨notes', outcome'⟩ := y
  obtain ⟨rfl, hends⟩ := h
  cases hends with
  | ok hab =>
    obtain ⟨hnotes, hends⟩ := hfg _ _ hab
    exact ⟨congrArg (notes ++ ·) hnotes, hends⟩
  | error => exact ⟨rfl, .error⟩

/-- What begins with the same computation matches, if it goes on to do so. -/
theorem bind_same {x : Traced ν ε α} {f : α → Traced ν ε γ} {g : α → Traced ν ε δ}
    (hfg : ∀ a, Matches S (f a) (g a)) : Matches S (x >>= f) (x >>= g) := by
  refine (refl x).bind fun a b hab => ?_
  rw [hab]
  exact hfg b

/-- The related results are what the computations come to. -/
theorem attained (h : Matches R x y) :
    Matches (fun a b => x.outcome = .ok a ∧ y.outcome = .ok b ∧ R a b) x y := by
  obtain ⟨notes, outcome⟩ := x
  obtain ⟨notes', outcome'⟩ := y
  obtain ⟨rfl, hends⟩ := h
  cases hends with
  | ok hab => exact ⟨rfl, .ok ⟨rfl, rfl, hab⟩⟩
  | error => exact ⟨rfl, .error⟩

end Matches

end

/-! ## Failures told otherwise -/

section

variable {ν ε ε' α β : Type}

/-- The same computation, its failure changed. -/
def mapError (f : ε → ε') (x : Traced ν ε α) : Traced ν ε' α :=
  ⟨x.notes, x.outcome.mapError f⟩

@[simp] theorem mapError_pure (f : ε → ε') (a : α) :
    (pure a : Traced ν ε α).mapError f = pure a := rfl

@[simp] theorem mapError_fail (f : ε → ε') (e : ε) :
    (fail e : Traced ν ε α).mapError f = fail (f e) := rfl

@[simp] theorem mapError_ofExcept (f : ε → ε') (x : Except ε α) :
    (ofExcept x : Traced ν ε α).mapError f = ofExcept (x.mapError f) := rfl

@[simp] theorem mapError_id (x : Traced ν ε α) : x.mapError id = x := by
  obtain ⟨notes, outcome⟩ := x
  cases outcome <;> rfl

@[simp] theorem mapError_bind (f : ε → ε') (x : Traced ν ε α) (g : α → Traced ν ε β) :
    (x >>= g).mapError f = x.mapError f >>= fun a => (g a).mapError f := by
  obtain ⟨notes, outcome⟩ := x
  cases outcome <;> rfl

end

end Traced

namespace Render

open Traced (Matches)

variable {o : Options} {image : Value → Value} {blur : RenderError → RenderError}
  {S : List Node → Nat → Scope → Scope → Prop} {depth : Nat} {s s' : Scope} {n : Node}
  {ns children : List Node} {sep : Option String} {lanes : List Lane} {cs cs' : List Column}

/-! ## Values that correspond -/

/-- The sequences are equally long, and the elements of the second are the images of those of the
first. -/
structure Sequence.Image (image : Value → Value) (q q' : Sequence) : Prop where
  length : q'.length = q.length
  get? : ∀ i, q'.get? i = (q.get? i).map image

/-- No template can tell a value from its image: a scalar has the same text, a sequence has
corresponding elements. Errors that name the kind of a value are the same once they are blurred. -/
structure Respects (image : Value → Value) (blur : RenderError → RenderError) : Prop where
  scalar : ∀ v, v.sequence? = .none → (image v).sequence? = .none ∧ (image v).toText = v.toText
  sequence : ∀ v q, v.sequence? = .some q →
    ∃ q', (image v).sequence? = .some q' ∧ Sequence.Image image q q'
  mismatch : ∀ name shape v,
    blur (.mismatch name shape (image v).kind) = blur (.mismatch name shape v.kind)

/-- Values correspond to themselves. -/
theorem Respects.refl : Respects id id :=
  ⟨fun _ h => ⟨h, rfl⟩, fun _ q h => ⟨q, h, rfl, fun _ => by simp⟩, fun _ _ _ => rfl⟩

theorem Respects.isSequence (h : Respects image blur) (v : Value) :
    (image v).isSequence = v.isSequence := by
  rw [Value.isSequence, Value.isSequence]
  cases hv : v.sequence? with
  | none => rw [(h.scalar v hv).1]
  | some q =>
    obtain ⟨q', hq', -⟩ := h.sequence v q hv
    rw [hq']
    rfl

/-- A column of the same lane, with corresponding elements. -/
structure Column.Image (image : Value → Value) (c c' : Column) : Prop where
  lane : c'.1 = c.1
  sequence : Sequence.Image image c.2 c'.2

theorem shortest_of_images (h : List.Forall₂ (Column.Image image) cs cs') :
    shortest cs' = shortest cs := by
  have hlengths : cs'.map (·.2.length) = cs.map (·.2.length) := by
    induction h with
    | nil => rfl
    | cons hc _ ih => rw [List.map_cons, List.map_cons, ih, hc.sequence.length]
  rw [shortest, hlengths, shortest]

/-- Columns with corresponding elements make groups repeat in the same way. -/
theorem zip_of_images (h : List.Forall₂ (Column.Image image) cs cs') : zip cs' = zip cs := by
  have hentries : (cs'.map fun c => (c.1.name, c.2.length)) =
      cs.map fun c => (c.1.name, c.2.length) := by
    induction h with
    | nil => rfl
    | cons hc _ ih => rw [List.map_cons, List.map_cons, ih, hc.lane, hc.sequence.length]
  rw [zip, zip, hentries, shortest_of_images h]

theorem count_of_images (policy : LengthPolicy) (h : List.Forall₂ (Column.Image image) cs cs') :
    count policy cs' = count policy cs := by
  rw [count, count, zip_of_images h]

/-! ## What corresponding names give -/

theorem matches_resolve {m : String} (h : s'.lookup m = (s.lookup m).map image) :
    Matches (fun v v' => s.lookup m = .some v ∧ v' = image v)
      ((.ofExcept (s.resolve m) : Rendering Value).mapError blur)
      ((.ofExcept (s'.resolve m) : Rendering Value).mapError blur) := by
  rw [Scope.resolve, Scope.resolve, h]
  cases s.lookup m with
  | none => exact .fail _
  | some v => exact .pure ⟨rfl, rfl⟩

theorem matches_column (hv : Respects image blur) {l : Lane}
    (h : s'.lookup l.name = (s.lookup l.name).map image) :
    Matches (Column.Image image)
      ((.ofExcept (column s l) : Rendering Column).mapError blur)
      ((.ofExcept (column s' l) : Rendering Column).mapError blur) := by
  rw [column, column, Scope.resolve, Scope.resolve, h]
  cases s.lookup l.name with
  | none => exact .fail _
  | some v =>
    simp only [Option.map_some]
    cases hq : v.sequence? with
    | none =>
      rw [(hv.scalar v hq).1]
      have hkind : blur (.mismatch l.name .sequence (image v).kind) =
          blur (.mismatch l.name .sequence v.kind) := hv.mismatch _ _ v
      simp only [Traced.mapError_ofExcept, Except.mapError, hkind]
      exact .fail _
    | some q =>
      obtain ⟨q', hq', himage⟩ := hv.sequence v q hq
      rw [hq']
      exact .pure ⟨rfl, himage⟩

theorem matches_columns (hv : Respects image blur)
    (h : ∀ l ∈ lanes, s'.lookup l.name = (s.lookup l.name).map image) :
    Matches (List.Forall₂ (Column.Image image))
      ((.ofExcept (columns s lanes) : Rendering (List Column)).mapError blur)
      ((.ofExcept (columns s' lanes) : Rendering (List Column)).mapError blur) := by
  induction lanes with
  | nil => exact .pure .nil
  | cons l lanes ih =>
    rw [ofExcept_columns_cons, ofExcept_columns_cons, Traced.mapError_bind, Traced.mapError_bind]
    refine (matches_column hv (h l List.mem_cons_self)).bind fun c c' hc => ?_
    rw [map_eq_pure_bind, map_eq_pure_bind, Traced.mapError_bind, Traced.mapError_bind]
    exact (ih fun l' hl' => h l' (List.mem_cons_of_mem _ hl')).bind fun cs cs' hcs =>
      .pure (.cons hc hcs)

theorem mapError_rounds (separator : String) (f : Nat → Rendering String) (i n : Nat) :
    (rounds separator f i n).mapError blur =
      rounds separator (fun j => (f j).mapError blur) i n := by
  induction n generalizing i with
  | zero => rfl
  | succ n ih =>
    cases n with
    | zero => rfl
    | succ n =>
      rw [rounds, rounds, Traced.mapError_bind]
      simp only [Traced.mapError_bind, Traced.mapError_pure, ih]

/-! ## Simulation -/

/-- **The two scopes go along with each other**, whatever is rendered: names that are read have
corresponding values, and what is related stays so behind every node and in every round. -/
structure Simulation (image : Value → Value) (S : List Node → Nat → Scope → Scope → Prop) :
    Prop where
  reference : ∀ {n ns depth s s' r}, S (n :: ns) depth s s' → n.reference? = .some r →
    s'.lookup r.name = (s.lookup r.name).map image
  lane : ∀ {children sep ns depth s s' lanes l}, S (.group children sep :: ns) depth s s' →
    planLanes children (depth + 1 : Nat) = .ok lanes → l ∈ lanes →
    s'.lookup l.name = (s.lookup l.name).map image
  behind : ∀ {n ns depth s s'}, S (n :: ns) depth s s' → n.reference? = .none → S ns depth s s'
  bound : ∀ {n ns depth s s' r v}, S (n :: ns) depth s s' → n.reference? = .some r →
    s.lookup r.name = .some v → S ns depth (s.bindReference r v) (s'.bindReference r (image v))
  round : ∀ {children sep ns depth s s' lanes cs cs' i}, S (.group children sep :: ns) depth s s' →
    planLanes children (depth + 1 : Nat) = .ok lanes → columns s lanes = .ok cs →
    columns s' lanes = .ok cs' → List.Forall₂ (Column.Image image) cs cs' → i < shortest cs →
    S children (depth + 1) (roundScope s lanes cs i) (roundScope s' lanes cs' i)

/-- The same text. -/
def SameText (p q : String × Scope) : Prop :=
  p.1 = q.1

namespace Simulation

theorem cons (hn : Matches (fun p q => p.1 = q.1 ∧ S ns depth p.2 q.2)
      ((node o n depth s).mapError blur) ((node o n depth s').mapError blur))
    (hns : ∀ u u', S ns depth u u' → Matches SameText
      ((nodes o ns depth u).mapError blur) ((nodes o ns depth u').mapError blur)) :
    Matches SameText
      ((nodes o (n :: ns) depth s).mapError blur) ((nodes o (n :: ns) depth s').mapError blur) := by
  rw [nodes, nodes]
  simp only [Traced.mapError_bind, Traced.mapError_pure]
  refine hn.bind fun p q hpq => (hns p.2 q.2 hpq.2).bind fun p' q' hpq' => .pure ?_
  show p.1 ++ p'.1 = q.1 ++ q'.1
  rw [hpq.1, show p'.1 = q'.1 from hpq']

/-- Groups go along with each other if their rounds do. -/
theorem group (hS : Simulation image S) (hv : Respects image blur)
    (h : S (.group children sep :: ns) depth s s')
    (hround : ∀ u u', S children (depth + 1) u u' → Matches SameText
      ((nodes o children (depth + 1) u).mapError blur)
      ((nodes o children (depth + 1) u').mapError blur)) :
    Matches (fun p q => p.1 = q.1 ∧ S ns depth p.2 q.2)
      ((node o (.group children sep) depth s).mapError blur)
      ((node o (.group children sep) depth s').mapError blur) := by
  rw [node_group, node_group]
  split
  · exact .fail _
  · simp only [Traced.mapError_bind]
    refine (Matches.refl _).attained.bind fun lanes _ ⟨hl, _, hsame⟩ => ?_
    subst hsame
    have hl : planLanes children (depth + 1 : Nat) = .ok lanes := mapError_eq_ok.mp hl
    split
    · exact .fail _
    · simp only [Traced.mapError_bind]
      refine (matches_columns hv fun l hm => hS.lane h hl hm).attained.bind
        fun cs cs' ⟨hcs, hcs', himages⟩ => ?_
      rw [count_of_images o.lengthPolicy himages]
      refine (Matches.refl _).attained.bind fun k _ ⟨hk, _, hsame⟩ => ?_
      subst hsame
      have hk : k = shortest cs := shortest_of_count (mapError_eq_ok.mp hk)
      -- Round by round the texts are the same, so the texts of all rounds are.
      have htexts :
          (rounds (sep.getD "") (Render.round o children depth s lanes cs) 0 k).mapError blur =
            (rounds (sep.getD "") (Render.round o children depth s' lanes cs') 0 k).mapError
              blur := by
        rw [mapError_rounds, mapError_rounds]
        refine rounds_congr fun j _ hj => Matches.eq ?_
        rw [Render.round, Render.round, Traced.mapError_bind, Traced.mapError_bind]
        have hj : j < shortest cs := by omega
        exact (hround _ _ (hS.round h hl (mapError_eq_ok.mp hcs) (mapError_eq_ok.mp hcs') himages
          hj)).bind fun p q hpq => .pure hpq
      rw [htexts]
      exact .bind_same fun text => .pure ⟨rfl, hS.behind h rfl⟩

/-- **Renderings go along with each other if their scopes do**, by induction on the nodes. -/
theorem matches_nodes (hS : Simulation image S) (hv : Respects image blur) (h : S ns depth s s') :
    Matches SameText ((nodes o ns depth s).mapError blur)
      ((nodes o ns depth s').mapError blur) := by
  induction ns using Node.listInduction generalizing depth s s' with
  | nil =>
    rw [nodes, nodes]
    exact .pure rfl
  | literal text ns ih =>
    refine cons ?_ fun u u' => ih
    rw [node, node]
    exact .pure ⟨rfl, hS.behind h rfl⟩
  | shown r ns ih =>
    refine cons ?_ fun u u' => ih
    rw [node, node, Traced.mapError_bind, Traced.mapError_bind]
    refine (matches_resolve (hS.reference h rfl)).bind ?_
    rintro v v' ⟨hlookup, hv'⟩
    rw [hv', hv.isSequence v]
    cases hseq : v.isSequence with
    | true =>
      simp only [if_true, Traced.mapError_fail, hv.mismatch]
      exact .fail _
    | false =>
      have hnone : v.sequence? = .none := by simpa [Value.isSequence] using hseq
      simp only [Bool.false_eq_true, if_false, Traced.mapError_pure]
      exact .pure ⟨(hv.scalar v hnone).2.symm, hS.bound h rfl hlookup⟩
  | hidden r ns ih =>
    refine cons ?_ fun u u' => ih
    rw [node, node, Traced.mapError_bind, Traced.mapError_bind]
    refine (matches_resolve (hS.reference h rfl)).bind ?_
    rintro v v' ⟨hlookup, hv'⟩
    rw [hv']
    exact .pure ⟨rfl, hS.bound h rfl hlookup⟩
  | group children sep ns ihc ih =>
    exact cons (hS.group hv h fun u u' => ihc) fun u u' => ih
  | foreign kind ns ih =>
    refine cons ?_ fun u u' => ih
    rw [node, node]
    exact .fail _

/-- What is written is the same, with the same notes, and so is why nothing is, once it is
blurred. -/
theorem texts_eq (hS : Simulation image S) (hv : Respects image blur) (o : Options)
    (ns : List Node) (depth : Nat) (h : S ns depth s s') :
    (nodes o ns depth s >>= fun p => pure p.1 : Rendering String).mapError blur =
      (nodes o ns depth s' >>= fun p => pure p.1 : Rendering String).mapError blur := by
  rw [Traced.mapError_bind, Traced.mapError_bind]
  exact Matches.eq ((hS.matches_nodes hv h).bind fun p q hpq => .pure hpq)

end Simulation

/-! ## Scopes with the same keys -/

theorem mapped_nameLanes (h : s.Mapped image s') (lanes : List Lane) :
    (nameLanes s lanes).Mapped image (nameLanes s' lanes) := by
  induction lanes generalizing s s' with
  | nil => exact h
  | cons l lanes ih =>
    have hl : (nameLane s l).Mapped image (nameLane s' l) := by
      unfold nameLane
      cases l.explicit with
      | true => exact (h.rename l.name l.key).rename l.key l.key
      | false => exact h.rename l.name l.key
    exact ih hl

theorem mapped_setElements (h : s.Mapped image s') (hcs : List.Forall₂ (Column.Image image) cs cs')
    (i : Nat) : (setElements s cs i).Mapped image (setElements s' cs' i) := by
  induction hcs generalizing s s' with
  | nil => exact h
  | @cons c c' cs cs' himage _ ih =>
    have hc : (setElement i s c).Mapped image (setElement i s' c') := by
      unfold setElement
      rw [himage.sequence.get? i, himage.lane]
      cases c.2.get? i with
      | some v => exact h.set c.1.key v
      | none => exact h
    exact ih hc

/-- **Scopes with the same keys have the same keys in every round of a group.** -/
theorem mapped_roundScope (h : s.Mapped image s') (lanes : List Lane)
    (hcs : List.Forall₂ (Column.Image image) cs cs') (i : Nat) :
    (roundScope s lanes cs i).Mapped image (roundScope s' lanes cs' i) :=
  (mapped_setElements (mapped_nameLanes h.child lanes) hcs i).child

/-- **Renderings in scopes with the same keys go along with each other**: a reference has
corresponding values, and binds them; a group has corresponding columns, and so do its rounds. -/
theorem simulation_mapped (image : Value → Value) :
    Simulation image fun _ _ s s' => Scope.Mapped image s s' where
  reference h _ := h.lookup _
  lane h _ _ := h.lookup _
  behind h _ := h
  bound h _ _ := h.bindReference _ _
  round h _ _ _ hcs _ := mapped_roundScope h _ hcs _

end Render

end Lockstep
