/-
The limits on nesting, of reading and of rendering (`nesting_limits_agree`).
Both count the groups that are open, the one as it goes through the source and
the other as it goes through the tree, and both let the same trees through: what
is read under a limit is never too deep to be rendered under it.

A higher limit changes nothing but that it is not exceeded where the lower one
is. For reading this is known (`Reader.run_limit`); renderings are compared step
by step (`Traced.SameUnless`), and differ where a group begins. A group is not
rendered if one around it has no elements, so a tree may be rendered under a
limit that it would not be read under, but not the other way round
(`Render.tooDeep_of_nodes`).
-/
import Lockstep.Format
import Lockstep.Proofs.Render.Congruence
import Lockstep.Proofs.Template.Reads

namespace Lockstep

namespace Traced

variable {ν ε α β : Type} {e : ε} {x y : Traced ν ε α}

/-- The computations are the same, unless the first fails with the error. -/
def SameUnless (e : ε) (x y : Traced ν ε α) : Prop :=
  x.outcome = .error e ∨ x = y

theorem SameUnless.refl (e : ε) (x : Traced ν ε α) : SameUnless e x x :=
  .inr rfl

/-- If the first part does not fail with the error, the second parts begin with the same result, if
they begin at all. -/
theorem SameUnless.bind {f g : α → Traced ν ε β} (h : SameUnless e x y)
    (hfg : ∀ a, SameUnless e (f a) (g a)) : SameUnless e (x >>= f) (y >>= g) := by
  rcases h with h | rfl
  · left
    rw [outcome_bind, h]
    rfl
  · cases hx : x.outcome with
    | error e' => exact .inr (bind_congr_of_ok fun a ha => by rw [hx] at ha; cases ha)
    | ok a =>
      rcases hfg a with h | h
      · left
        rw [outcome_bind, hx]
        exact h
      · right
        refine bind_congr_of_ok fun a' ha => ?_
        rw [hx] at ha
        cases ha
        exact h

theorem SameUnless.congruence (e : ε) : Congruence (SameUnless (ν := ν) e) :=
  ⟨fun _ => .refl e _, fun _ => .refl e _, SameUnless.bind⟩

end Traced

namespace Render

open Traced (SameUnless)

variable {o : Options} {policy : LengthPolicy} {d d' : DepthLimit} {depth l : Nat} {s : Scope}
  {ns children : List Node} {n : Node} {sep : Option String} {lane : Lane}

/-! ## Rendering under two limits -/

/-- **A higher limit renders the same**, unless the lower one is exceeded. -/
theorem sameUnless_nodes (hd : d.groups ≤ d'.groups) (policy : LengthPolicy) (ns : List Node)
    (depth : Nat) (s : Scope) :
    SameUnless (.tooDeep d.groups) (nodes ⟨policy, d⟩ ns depth s)
      (nodes ⟨policy, d'⟩ ns depth s) := by
  have hcount (cs : List Column) :
      SameUnless (.tooDeep d.groups) (count policy cs) (count policy cs) := .refl _ _
  refine related_nodes (SameUnless.congruence _) (fun depth x y h => ?_) hcount ns depth s
  by_cases hfull : d.groups < depth
  · left
    simp only [hfull, if_true]
    rfl
  · have hfull' : ¬ d'.groups < depth := fun h => hfull (Nat.lt_of_le_of_lt hd h)
    simp only [hfull, hfull', if_false]
    exact h

/-! ## Trees that are too deep -/

theorem column_ne_tooDeep : column s lane ≠ .error (.tooDeep l) := by
  intro h
  unfold column at h
  split at h
  · split at h <;> cases h
  · next e he =>
    obtain ⟨-, rfl⟩ := Scope.resolve_eq_error.mp he
    cases h

/-- Nothing but a group is too deep. -/
theorem group_of_tooDeep (h : (node o n depth s).outcome = .error (.tooDeep l)) :
    ∃ children sep, n = .group children sep := by
  have of_resolve {name : String} (h : s.resolve name = .error (.tooDeep l)) : False := by
    obtain ⟨-, he⟩ := Scope.resolve_eq_error.mp h
    cases he
  cases n with
  | literal text =>
    rw [outcome_literal] at h
    cases h
  | shown r =>
    rw [outcome_shown] at h
    rcases bind_eq_error.mp h with h | ⟨v, -, h⟩
    · exact (of_resolve h).elim
    · split at h <;> cases h
  | hidden r =>
    rw [outcome_hidden] at h
    exact (of_resolve (map_eq_error.mp h)).elim
  | group children sep => exact ⟨children, sep, rfl⟩
  | foreign kind =>
    rw [outcome_foreign] at h
    cases h

/-- A group is too deep itself, or its children are in a round. -/
theorem tooDeep_of_group (h : (node o (.group children sep) depth s).outcome =
      .error (.tooDeep l)) :
    (o.maxDepth.groups < depth + 1 ∧ l = o.maxDepth.groups) ∨
      ∃ s', (nodes o children (depth + 1) s').outcome = .error (.tooDeep l) := by
  rw [outcome_group] at h
  rcases groupText_eq_error (map_eq_error.mp h) with ⟨hfull, h⟩ | h | ⟨-, h⟩ | ⟨lanes, -, h⟩
  · cases h
    exact .inl ⟨hfull, rfl⟩
  · obtain ⟨label, name, he⟩ := Lanes.planFrom_eq_error h
    cases he
  · cases h
  · rcases h with h | ⟨cs, -, h | ⟨-, -, i, -, h, -⟩⟩
    · obtain ⟨lane, -, h⟩ := columns_eq_error h
      exact absurd h column_ne_tooDeep
    · cases h
    · rw [outcome_round] at h
      exact .inr ⟨roundScope s lanes cs i, map_eq_error.mp h⟩

/-- **Only trees that nest deeper than the limit are too deep**, by induction on the nodes: the
children of a group may nest as deep as there is room behind the groups around them. -/
theorem tooDeep_of_nodes (h : (nodes o ns depth s).outcome = .error (.tooDeep l)) :
    l = o.maxDepth.groups ∧ o.maxDepth.groups < depth + Node.nestingList ns := by
  induction ns using Node.listInduction generalizing depth s with
  | nil =>
    rw [outcome_nodes_nil] at h
    cases h
  | literal text ns ih | shown r ns ih | hidden r ns ih | foreign kind ns ih =>
    rw [Node.nestingList_cons]
    rcases nodes_cons_eq_error h with h | ⟨text, s', -, h⟩
    · obtain ⟨children, sep, hn⟩ := group_of_tooDeep h
      cases hn
    · obtain ⟨hl, hdeep⟩ := ih h
      exact ⟨hl, by omega⟩
  | group children sep ns ihc ih =>
    rw [Node.nestingList_cons, Node.nesting_group]
    rcases nodes_cons_eq_error h with h | ⟨text, s', -, h⟩
    · rcases tooDeep_of_group h with ⟨hfull, hl⟩ | ⟨s', h⟩
      · exact ⟨hl, by omega⟩
      · obtain ⟨hl, hdeep⟩ := ihc h
        exact ⟨hl, by omega⟩
    · obtain ⟨hl, hdeep⟩ := ih h
      exact ⟨hl, by omega⟩

end Render

/-! ## The limits -/

variable {d d' : DepthLimit}

/-- Groups nest deeper than the limit, in the source or in the tree. -/
def FormatError.isTooDeep : FormatError → Bool
  | .read _ (.tooDeep _) | .render (.tooDeep _) => true
  | _ => false

/-- A higher limit reads the same, unless the lower one is exceeded. -/
theorem readTemplate_of_le (hd : d.groups ≤ d'.groups) {source : String}
    (h : ∀ l, readTemplate d.groups source ≠ .error (.tooDeep l)) :
    readTemplate d'.groups source = readTemplate d.groups source := by
  rcases Reader.run_limit hd {} source.toList with hsame | hdeep
  · exact hsame.symm
  · exact absurd hdeep (h d.groups)

/-- What is read under a higher limit is read under the lower one too, or is too deep for it. -/
theorem readTemplate_of_ok {limit limit' : Nat} {source : String} {ns : List Node}
    (h : readTemplate limit' source = .ok ns) :
    readTemplate limit source =
      if Node.nestingList ns ≤ limit then .ok ns else .error (.tooDeep limit) := by
  obtain ⟨hspells, -⟩ := Reader.spells_of_readTemplate h
  split
  · next hroom => exact Reader.readTemplate_of_spells hspells hroom
  · next hdeep => exact Reader.tooDeep_of_spells hspells (Nat.lt_of_not_le hdeep)

/-- A higher limit renders the same, unless the lower one is exceeded. -/
theorem renderTraced_of_le (hd : d.groups ≤ d'.groups) {policy : LengthPolicy} {ns : List Node}
    {env : Env} {aliases : Table String}
    (h : ∀ l, render ⟨policy, d⟩ ns env aliases ≠ .error (.tooDeep l)) :
    renderTraced ⟨policy, d'⟩ ns env aliases = renderTraced ⟨policy, d⟩ ns env aliases := by
  have hnodes := Render.sameUnless_nodes hd policy ns 0 (.root env aliases)
  rcases hnodes.bind fun p => Traced.SameUnless.refl _ (pure p.1) with hdeep | hsame
  · exact absurd hdeep (h d.groups)
  · exact hsame.symm

/-- A tree that nests within the limit is not too deep to be rendered. -/
theorem render_ne_tooDeep {o : Options} {ns : List Node}
    (h : Node.nestingList ns ≤ o.maxDepth.groups) (env : Env) (aliases : Table String) (l : Nat) :
    render o ns env aliases ≠ .error (.tooDeep l) := by
  intro he
  rw [render, renderTraced, Traced.outcome_bind_pure] at he
  obtain ⟨-, hdeep⟩ := Render.tooDeep_of_nodes (map_eq_error.mp he)
  omega

/-- What has been read as a template nests no deeper than its options allow. -/
theorem Template.nesting_of_ofRaw {raw : String} {unindented : Bool} {options : Options}
    {t : Template} (h : Template.ofRaw raw unindented options = .ok t) :
    t.options = options ∧ Node.nestingList t.nodes ≤ options.maxDepth.groups := by
  simp only [Template.ofRaw, compile] at h
  cases hread : readTemplate options.maxDepth.groups (prepare raw unindented) with
  | error e =>
    rw [hread] at h
    cases h
  | ok ns =>
    rw [hread] at h
    cases h
    exact ⟨rfl, (Reader.spells_of_readTemplate hread).2⟩

/-- A template fails with an error of rendering. -/
theorem Template.render_eq_error {t : Template} {env : Env} {e : FormatError}
    (h : t.render env = .error e) :
    ∃ e', e = .render e' ∧ Lockstep.render t.options t.nodes env = .error e' := by
  unfold Template.render at h
  split at h
  · cases h
  · next e' he =>
    cases h
    exact ⟨e', rfl, he⟩

/-- **The limits of reading and of rendering agree, and a higher one changes nothing that the lower
lets through.** A source that is not too deep under a limit comes to the same under a higher one; if
it is read under the higher, the depth of its tree decides what it comes to under the lower. A tree
that is not too deep to be rendered under a limit is rendered to the same under a higher one, with
the same notes, and none that nests within the limit is too deep. So a template that has been read
is never too deep to be rendered. -/
theorem nesting_limits_agree (hd : d.groups ≤ d'.groups) :
    (∀ source, (∀ l, readTemplate d.groups source ≠ .error (.tooDeep l)) →
      readTemplate d'.groups source = readTemplate d.groups source) ∧
    (∀ source ns, readTemplate d'.groups source = .ok ns →
      readTemplate d.groups source =
        if Node.nestingList ns ≤ d.groups then .ok ns else .error (.tooDeep d.groups)) ∧
    (∀ policy ns env aliases, (∀ l, render ⟨policy, d⟩ ns env aliases ≠ .error (.tooDeep l)) →
      renderTraced ⟨policy, d'⟩ ns env aliases = renderTraced ⟨policy, d⟩ ns env aliases) ∧
    (∀ policy ns env aliases l, Node.nestingList ns ≤ d.groups →
      render ⟨policy, d⟩ ns env aliases ≠ .error (.tooDeep l)) ∧
    (∀ raw unindented options t, Template.ofRaw raw unindented options = .ok t →
      ∀ env e, t.render env = .error e → e.isTooDeep = false) := by
  refine ⟨fun source => readTemplate_of_le hd, fun source ns => readTemplate_of_ok,
    fun policy ns env aliases => renderTraced_of_le hd,
    fun policy ns env aliases l hns => render_ne_tooDeep hns env aliases l,
    fun raw unindented options t ht env e he => ?_⟩
  obtain ⟨hoptions, hnesting⟩ := Template.nesting_of_ofRaw ht
  obtain ⟨e', rfl, hrender⟩ := Template.render_eq_error he
  rw [hoptions] at hrender
  cases e' with
  | tooDeep l => exact absurd hrender (render_ne_tooDeep hnesting env ∅ l)
  | missing | mismatch | unequal | clash | noLanes | foreign => rfl

/-- One group inside another. Under the lower limit it is not read; rendered it is, if the outer
group has no elements. -/
theorem nesting_limits_agree_table :
    let one : DepthLimit := { groups := 1 }
    let two : DepthLimit := { groups := 2 }
    let table : List Node :=
      [.group [.hidden ⟨"rows", .none⟩, .group [.shown ⟨"cells", .none⟩] .none] .none]
    let empty : Env := fun _ => .some (.list [])
    readTemplate 2 "$(a" = .error (.malformed .groupUnterminated 0) ∧
      readTemplate 1 "$(@rows$($cells)*)*" = .error (.tooDeep 1) ∧
      render ⟨.truncate, one⟩ table empty = .ok "" ∧
      render ⟨.truncate, two⟩ table empty = .ok "" ∧
      (∀ env l, render ⟨.truncate, two⟩ table env ≠ .error (.tooDeep l)) ∧
      ∃ t, Template.ofRaw "$(@rows$($cells)*)*" false ⟨.truncate, two⟩ = .ok t ∧
        ∀ env e, t.render env = .error e → e.isTooDeep = false := by
  intro one two table empty
  have hle : one.groups ≤ two.groups := by decide
  obtain ⟨hread, hdeep, hrender, -, htemplate⟩ := nesting_limits_agree hle
  obtain ⟨-, -, -, hwithin, -⟩ := nesting_limits_agree (Nat.le_refl two.groups)
  have hunclosed : readTemplate 1 "$(a" = .error (.malformed .groupUnterminated 0) := by rfl
  have htable : readTemplate 2 "$(@rows$($cells)*)*" = .ok table := by rfl
  have hone : render ⟨.truncate, one⟩ table empty = .ok "" := by rfl
  refine ⟨?_, hdeep _ table htable, hone, ?_, fun env l => ?_, _, rfl, fun env e => ?_⟩
  · rw [← hunclosed]
    exact hread "$(a" fun l h => by cases hunclosed.symm.trans h
  · rw [← hone, render, render, hrender .truncate table empty ∅ fun l h => ?_]
    cases hone.symm.trans h
  · exact hwithin .truncate table env ∅ l (by decide)
  · exact htemplate "$(@rows$($cells)*)*" false ⟨.truncate, two⟩ _ rfl env e

end Lockstep
