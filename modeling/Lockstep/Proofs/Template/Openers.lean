/-
Which references open the lanes of a group: the first ones to their names,
where no reference before binds the name as a label (`IsOpener`). The plan of
a group are the lanes of these in their order (`planFrom_behind`), unless one
of them has a label that is the label or the name of an earlier one; then
there is none, whatever the depth (`plan_well_formed`).

What the planner holds behind some references can be told from them: the
lanes of the openers among them, and the labels they bind. That is kept from
one child to the next (`planFrom_cons_of_reference`), and the whole plan comes
of it by induction on the children.
-/
import Lockstep.Proofs.Template.Plan
import Mathlib.Data.List.Induction
import Mathlib.Data.List.Pairwise

namespace Lockstep

/-- The references among the children themselves, in their order. -/
def Node.direct (children : List Node) : List Reference :=
  children.filterMap reference?

namespace Lanes

variable {before rs refs : List Reference} {q r : Reference} {label name : String} {depth : Int}
  {ns : List Node} {lanes : List Lane} {l : Lane}

/-! ## References that open lanes -/

/-- Behind others a reference opens a lane if none of them has its name or binds it as a label. -/
def IsOpener (before : List Reference) (r : Reference) : Prop :=
  ∀ q ∈ before, q.name ≠ r.name ∧ q.bound ≠ .some r.name

instance (before : List Reference) (r : Reference) : Decidable (IsOpener before r) :=
  inferInstanceAs (Decidable (∀ q ∈ before, q.name ≠ r.name ∧ q.bound ≠ .some r.name))

/-- Those of the references that open a lane, where others stand before them. -/
def openersBehind : (before refs : List Reference) → List Reference
  | _, [] => []
  | before, r :: rs =>
    if IsOpener before r then r :: openersBehind (before ++ [r]) rs
    else openersBehind (before ++ [r]) rs

/-- **The references that open a lane**, in their order. -/
def openers (refs : List Reference) : List Reference :=
  openersBehind [] refs

theorem mem_openersBehind : r ∈ openersBehind before refs ↔
    ∃ between after, refs = between ++ r :: after ∧ IsOpener (before ++ between) r := by
  induction refs generalizing before with
  | nil => simp [openersBehind]
  | cons q rs ih =>
    have hsplit : r ∈ openersBehind before (q :: rs) ↔
        (IsOpener before q ∧ r = q) ∨ r ∈ openersBehind (before ++ [q]) rs := by
      rw [openersBehind]
      split
      · next hq => simp [hq]
      · next hq => simp [hq]
    rw [hsplit, ih]
    constructor
    · rintro (⟨hq, rfl⟩ | ⟨between, after, rfl, hr⟩)
      · exact ⟨[], rs, rfl, by simpa using hq⟩
      · exact ⟨q :: between, after, rfl, by simpa using hr⟩
    · rintro ⟨between, after, hrefs, hr⟩
      cases between with
      | nil =>
        obtain ⟨rfl, rfl⟩ := List.cons.inj hrefs
        exact .inl ⟨by simpa using hr, rfl⟩
      | cons q' between =>
        obtain ⟨rfl, rfl⟩ := List.cons.inj hrefs
        exact .inr ⟨between, after, rfl, by simpa using hr⟩

theorem mem_openers :
    r ∈ openers refs ↔ ∃ before after, refs = before ++ r :: after ∧ IsOpener before r :=
  mem_openersBehind

theorem openersBehind_concat (before rs : List Reference) (r : Reference) :
    openersBehind before (rs ++ [r]) =
      openersBehind before rs ++ if IsOpener (before ++ rs) r then [r] else [] := by
  induction rs generalizing before with
  | nil => simp [openersBehind]
  | cons q rs ih =>
    have h := ih (before ++ [q])
    rw [List.append_assoc, List.singleton_append] at h
    simp only [List.cons_append, openersBehind, h]
    split <;> rfl

theorem openers_concat (rs : List Reference) (r : Reference) :
    openers (rs ++ [r]) = openers rs ++ if IsOpener rs r then [r] else [] :=
  openersBehind_concat [] rs r

/-- A reference that opens a lane is the first one to its name. -/
theorem find?_of_mem_openers (h : r ∈ openers refs) :
    refs.find? (·.name == r.name) = .some r := by
  obtain ⟨before, after, rfl, hr⟩ := mem_openers.mp h
  rw [List.find?_eq_some_iff_append]
  refine ⟨by simp, before, after, rfl, fun q hq => ?_⟩
  simpa using (hr q hq).1

/-- A name that is read opens a lane, unless it is a label somewhere. -/
theorem exists_opener (hq : q ∈ refs) :
    (∃ o ∈ openers refs, o.name = q.name) ∨ ∃ q' ∈ refs, q'.bound = .some q.name := by
  obtain ⟨o, ho⟩ : ∃ o, refs.find? (·.name == q.name) = .some o := by
    rw [← Option.isSome_iff_exists, List.find?_isSome]
    exact ⟨q, hq, by simp⟩
  obtain ⟨hname, before, after, rfl, hbefore⟩ := List.find?_eq_some_iff_append.mp ho
  rw [beq_iff_eq] at hname
  by_cases hopener : IsOpener before o
  · exact .inl ⟨o, mem_openers.mpr ⟨before, after, rfl, hopener⟩, hname⟩
  · refine .inr (Classical.byContradiction fun hno => hopener fun q' hq' => ⟨?_, fun hlabel => ?_⟩)
    · rw [hname]
      simpa using hbefore q' hq'
    · rw [hname] at hlabel
      exact hno ⟨q', List.mem_append_left _ hq', hlabel⟩

/-- Before the first reference to the name, a reference binds it as a label. -/
def isLabelBefore (refs : List Reference) (name : String) : Bool :=
  (refs.takeWhile (·.name != name)).any (·.bound == .some name)

/-- What stands behind a reference to the name is not before the first one. -/
theorem isLabelBefore_append (h : name ∈ refs.map (·.name)) (rs : List Reference) :
    isLabelBefore (refs ++ rs) name = isLabelBefore refs name := by
  induction refs with
  | nil => cases h
  | cons q refs ih =>
    by_cases hq : q.name = name
    · simp [isLabelBefore, hq]
    · have hrefs : name ∈ refs.map (·.name) := by
        rw [List.map_cons, List.mem_cons] at h
        exact h.resolve_left fun he => hq he.symm
      have hrest := ih hrefs
      simp only [isLabelBefore] at hrest
      simp [isLabelBefore, hq, hrest]

theorem isOpener_iff : IsOpener before r ↔
    r.name ∉ before.map (·.name) ∧ isLabelBefore (before ++ [r]) r.name = false := by
  constructor
  · intro h
    have hnames : ∀ q ∈ before, (q.name != r.name) = true := by
      simpa using fun q hq => (h q hq).1
    have hlabels : ∀ q ∈ before, q.bound ≠ .some r.name := fun q hq => (h q hq).2
    rw [isLabelBefore, List.takeWhile_append_of_pos hnames]
    refine ⟨?_, by simpa using hlabels⟩
    simpa using hnames
  · rintro ⟨hno, hlabel⟩
    have hnames : ∀ q ∈ before, (q.name != r.name) = true := by simpa using hno
    rw [isLabelBefore, List.takeWhile_append_of_pos hnames] at hlabel
    have hlabels : ∀ q ∈ before, q.bound ≠ .some r.name := by simpa using hlabel
    exact fun q hq => ⟨by simpa using hnames q hq, hlabels q hq⟩

/-- The names that open lanes are those that are read, each once and in the order of their first
references, without those that are labels before. -/
theorem names_openers (refs : List Reference) : (openers refs).map (·.name) =
    (refs.map (·.name)).eraseDups.filter fun name => !isLabelBefore refs name := by
  induction refs using List.reverseRecOn with
  | nil => rfl
  | append_singleton rs r ih =>
    have hsame : (rs.map (·.name)).eraseDups.filter (fun name => !isLabelBefore (rs ++ [r]) name) =
        (rs.map (·.name)).eraseDups.filter fun name => !isLabelBefore rs name := by
      refine List.filter_congr fun name hname => ?_
      rw [isLabelBefore_append (List.mem_eraseDups.mp hname)]
    rw [openers_concat, List.map_append, ih, List.map_append, List.eraseDups_append,
      List.filter_append, hsame]
    congr 1
    rw [List.map_cons, List.map_nil, List.cons_removeAll, List.nil_removeAll]
    by_cases hname : r.name ∈ rs.map (·.name)
    · have hno : ¬ IsOpener rs r := fun h => (isOpener_iff.mp h).1 hname
      have hread : (rs.map (·.name)).contains r.name = true := List.contains_iff_mem.mpr hname
      rw [if_neg hno, hread]
      rfl
    · have hread : (rs.map (·.name)).contains r.name = false := by simpa using hname
      have hopener : IsOpener rs r ↔ isLabelBefore (rs ++ [r]) r.name = false := by
        simp [isOpener_iff, hname]
      rw [hread]
      cases hlabel : isLabelBefore (rs ++ [r]) r.name <;> simp [hopener, hlabel, List.eraseDups_cons]

/-! ## The planner behind some references -/

/-- The lanes that references have opened. -/
def lanesBehind (depth : Int) (before : List Reference) : List Lane :=
  (openers before).map (laneOf depth)

/-- The labels that references have given. -/
def labelsBehind (before : List Reference) : List String :=
  (before.filterMap Reference.bound).reverse

theorem mem_labelsBehind : label ∈ labelsBehind before ↔ ∃ q ∈ before, q.bound = .some label := by
  simp [labelsBehind]

theorem labelsBehind_concat (before : List Reference) (r : Reference) :
    labelsBehind (before ++ [r]) = r.bound.toList ++ labelsBehind before := by
  cases h : r.bound <;> simp [labelsBehind, h]

theorem opens_behind :
    opens (lanesBehind depth before) (labelsBehind before) r.name = true ↔ IsOpener before r := by
  constructor
  · intro h
    obtain ⟨hlanes, hlabels⟩ := opens_eq_true h
    have hno : ∀ q ∈ before, q.bound ≠ .some r.name := by simpa [mem_labelsBehind] using hlabels
    intro q hq
    refine ⟨fun hname => ?_, hno q hq⟩
    rcases exists_opener hq with ⟨o, ho, hoq⟩ | ⟨q', hq', hlabel⟩
    · exact hlanes _ (List.mem_map_of_mem ho) ((laneOf_name depth o).trans (hoq.trans hname))
    · rw [hname] at hlabel
      exact hno q' hq' hlabel
  · intro h
    have hlanes : ∀ o ∈ openers before, o.name ≠ r.name := by
      intro o ho
      obtain ⟨first, after, rfl, -⟩ := mem_openers.mp ho
      exact (h o (by simp)).1
    have hlabels : r.name ∉ labelsBehind before := by
      rw [mem_labelsBehind]
      rintro ⟨q, hq, hlabel⟩
      exact (h q hq).2 hlabel
    simpa [opens, lanesBehind, hlabels] using hlanes

theorem taken_behind : taken (lanesBehind depth before) label name = true ↔
    ∃ q ∈ openers before, q.bound = .some label ∨ label ≠ name ∧ q.name = label := by
  have hkey (q : Reference) : ((laneOf depth q).explicit && (laneOf depth q).key == label) = true ↔
      q.bound = .some label := by
    unfold laneOf
    split <;> simp [*]
  simp only [taken, lanesBehind, Bool.or_eq_true, List.any_map, List.any_eq_true, Function.comp,
    hkey, Bool.and_eq_true, bne_iff_ne, beq_iff_eq, laneOf_name]
  constructor
  · rintro (⟨q, hq, hlabel⟩ | ⟨hne, q, hq, hname⟩)
    · exact ⟨q, hq, .inl hlabel⟩
    · exact ⟨q, hq, .inr ⟨hne, hname⟩⟩
  · rintro ⟨q, hq, hlabel | ⟨hne, hname⟩⟩
    · exact .inl ⟨q, hq, hlabel⟩
    · exact .inr ⟨hne, q, hq, hname⟩

/-- A reference opens a lane that gets in the way of an earlier one: its label is the label of that
one, or is that one's name and not its own. -/
def Clashes (before : List Reference) (r : Reference) (label : String) : Prop :=
  IsOpener before r ∧ r.bound = .some label ∧
    ∃ q ∈ openers before, q.bound = .some label ∨ label ≠ r.name ∧ q.name = label

theorem laneFor_behind (depth : Int) (h : IsOpener before r) :
    (∃ label, Clashes before r label ∧
      laneFor depth (lanesBehind depth before) r = .error (.clash label r.name)) ∨
    ((∀ label, ¬ Clashes before r label) ∧
      laneFor depth (lanesBehind depth before) r = .ok (laneOf depth r)) := by
  cases hbound : r.bound with
  | none =>
    refine .inr ⟨fun label hclash => ?_, by simp [laneFor, laneOf, hbound]⟩
    rw [hclash.2.1] at hbound
    cases hbound
  | some label =>
    by_cases htaken : taken (lanesBehind depth before) label r.name = true
    · exact .inl ⟨label, ⟨h, hbound, taken_behind.mp htaken⟩, by simp [laneFor, hbound, htaken]⟩
    · refine .inr ⟨fun label' hclash => ?_, by simp [laneFor, laneOf, hbound, htaken]⟩
      obtain rfl : label = label' := Option.some.inj (hbound.symm.trans hclash.2.1)
      exact htaken (taken_behind.mpr hclash.2.2)

/-- **What one child makes of the plan**: a reference that clashes ends it, and behind any other the
planner holds what can be told from the references so far. -/
theorem planFrom_cons_of_reference (depth : Int) (before : List Reference) {n : Node}
    (hr : n.reference? = .some r) (ns : List Node) :
    (∃ label, Clashes before r label ∧
      planFrom depth (lanesBehind depth before) (labelsBehind before) (n :: ns) =
        .error (.clash label r.name)) ∨
    ((∀ label, ¬ Clashes before r label) ∧
      planFrom depth (lanesBehind depth before) (labelsBehind before) (n :: ns) =
        planFrom depth (lanesBehind depth (before ++ [r])) (labelsBehind (before ++ [r])) ns) := by
  by_cases hopener : IsOpener before r
  · have hopens : opens (lanesBehind depth before) (labelsBehind before) r.name = true :=
      opens_behind.mpr hopener
    have hlanes : lanesBehind depth (before ++ [r]) =
        lanesBehind depth before ++ [laneOf depth r] := by
      simp [lanesBehind, openers_concat, hopener]
    rcases laneFor_behind depth hopener with ⟨label, hclash, hl⟩ | ⟨hno, hl⟩
    · exact .inl ⟨label, hclash, by simp only [planFrom, hr, hopens, if_true, hl]⟩
    · refine .inr ⟨hno, ?_⟩
      simp only [planFrom, hr, hopens, if_true, hl, hlanes, labelsBehind_concat]
  · have hopens : opens (lanesBehind depth before) (labelsBehind before) r.name = false := by
      rw [Bool.eq_false_iff, ne_eq, opens_behind]
      exact hopener
    have hlanes : lanesBehind depth (before ++ [r]) = lanesBehind depth before := by
      simp [lanesBehind, openers_concat, hopener]
    refine .inr ⟨fun label hclash => hopener hclash.1, ?_⟩
    simp [planFrom, hr, hopens, hlanes, labelsBehind_concat]

/-- **The plan of a group**, by induction on the children: it is refused at the first reference that
clashes, and without one its lanes are those that are opened. -/
theorem planFrom_behind (depth : Int) (before : List Reference) (ns : List Node) :
    (∃ between r after label, Node.direct ns = between ++ r :: after ∧
      Clashes (before ++ between) r label ∧
      planFrom depth (lanesBehind depth before) (labelsBehind before) ns =
        .error (.clash label r.name)) ∨
    ((∀ between r after label, Node.direct ns = between ++ r :: after →
        ¬ Clashes (before ++ between) r label) ∧
      planFrom depth (lanesBehind depth before) (labelsBehind before) ns =
        .ok (lanesBehind depth (before ++ Node.direct ns))) := by
  induction ns generalizing before with
  | nil =>
    refine .inr ⟨fun between r after label h => ?_, ?_⟩
    · simp [Node.direct] at h
    · rw [planFrom, Node.direct, List.filterMap_nil, List.append_nil]
  | cons n ns ih =>
    cases hr : n.reference? with
    | none =>
      have hdirect : Node.direct (n :: ns) = Node.direct ns := by simp [Node.direct, hr]
      have hplan : planFrom depth (lanesBehind depth before) (labelsBehind before) (n :: ns) =
          planFrom depth (lanesBehind depth before) (labelsBehind before) ns := by
        simp only [planFrom, hr]
      rw [hdirect, hplan]
      exact ih before
    | some r =>
      have hdirect : Node.direct (n :: ns) = r :: Node.direct ns := by simp [Node.direct, hr]
      rw [hdirect]
      rcases planFrom_cons_of_reference depth before hr ns with
        ⟨label, hclash, hplan⟩ | ⟨hno, hplan⟩
      · exact .inl ⟨[], r, Node.direct ns, label, rfl, by simpa using hclash, hplan⟩
      · rw [hplan]
        rcases ih (before ++ [r]) with ⟨between, r', after, label, hns, hclash, herror⟩ | ⟨hnone, hok⟩
        · refine .inl ⟨r :: between, r', after, label, ?_, by simpa using hclash, herror⟩
          rw [hns, List.cons_append]
        · refine .inr ⟨fun between r' after label hsplit hclash => ?_, by simpa using hok⟩
          cases between with
          | nil =>
            obtain ⟨rfl, -⟩ := List.cons.inj hsplit
            exact hno label (by simpa using hclash)
          | cons q between =>
            obtain ⟨rfl, hrest⟩ := List.cons.inj hsplit
            exact hnone between r' after label hrest (by simpa using hclash)

/-- The same from the first child on. -/
theorem planLanes_cases (children : List Node) (depth : Int) :
    (∃ before r after label, Node.direct children = before ++ r :: after ∧
      Clashes before r label ∧ planLanes children depth = .error (.clash label r.name)) ∨
    ((∀ before r after label, Node.direct children = before ++ r :: after →
        ¬ Clashes before r label) ∧
      planLanes children depth = .ok (lanesBehind depth (Node.direct children))) :=
  planFrom_behind depth [] children

/-- There is no plan just if a reference clashes. -/
theorem planLanes_eq_error_iff (children : List Node) (depth : Int) :
    (∃ e, planLanes children depth = .error e) ↔ ∃ before r after label,
      Node.direct children = before ++ r :: after ∧ Clashes before r label := by
  rcases planLanes_cases children depth with
    ⟨before, r, after, label, hrefs, hclash, herror⟩ | ⟨hnone, hok⟩
  · exact ⟨fun _ => ⟨before, r, after, label, hrefs, hclash⟩, fun _ => ⟨_, herror⟩⟩
  · constructor
    · rintro ⟨e, he⟩
      rw [hok] at he
      cases he
    · rintro ⟨before, r, after, label, hrefs, hclash⟩
      exact absurd hclash (hnone before r after label hrefs)

theorem eq_lanesBehind {children : List Node} (h : planLanes children depth = .ok lanes) :
    lanes = lanesBehind depth (Node.direct children) := by
  rcases planLanes_cases children depth with ⟨_, _, _, _, -, -, herror⟩ | ⟨-, hok⟩
  · rw [h] at herror
    cases herror
  · rw [h] at hok
    cases hok
    rfl

/-- Every lane is that of the first reference to its name. -/
theorem first_of_mem_lanesBehind (hl : l ∈ lanesBehind depth refs) :
    ∃ r, refs.find? (·.name == l.name) = .some r ∧ l = laneOf depth r := by
  obtain ⟨r, hr, rfl⟩ := List.mem_map.mp hl
  refine ⟨r, ?_, rfl⟩
  rw [laneOf_name]
  exact find?_of_mem_openers hr

/-- Any two lanes of a plan are apart. -/
theorem apart_of_mem {children : List Node} {l' : Lane} (h : planLanes children depth = .ok lanes)
    (hl : l ∈ lanes) (hl' : l' ∈ lanes) (hne : l ≠ l') : Apart l l' := by
  have : Std.Symm Apart := ⟨fun _ _ h => h.symm⟩
  exact (apart_of_planLanes h).forall hl hl' hne

theorem laneOf_explicit_iff (depth : Int) (r : Reference) :
    (laneOf depth r).explicit = true ↔ r.bound.isSome = true := by
  unfold laneOf
  split <;> simp [*]

end Lanes

open Lanes

/-- **The lanes of a group are well formed.** If a group has lanes, their names are those that its
references read, each once and in the order of the first references, without those that are labels
before. Each lane has the label of its first reference for its key, if that binds one, and is
explicit just then. No explicit key is the name of another lane, and all keys differ, if the names
and labels hold no number sign. A group has none just if a reference that opens a lane has a label
that is the label of an earlier one, or is an earlier one's name and not its own; this is what the
error tells, and it does not depend on the depth. -/
theorem plan_well_formed (children : List Node) (depth : Int) :
    let refs := Node.direct children
    (∀ lanes, planLanes children depth = .ok lanes →
      lanes.map (·.name) =
          (refs.map (·.name)).eraseDups.filter (fun name => !isLabelBefore refs name) ∧
        ((∀ r ∈ refs, ∀ name ∈ r.name :: r.bound.toList, NoHash name) →
          (lanes.map (·.key)).Nodup) ∧
        (∀ l ∈ lanes, ∃ r, refs.find? (·.name == l.name) = .some r ∧
          (l.explicit = true ↔ r.bound.isSome = true) ∧
            ∀ label, r.bound = .some label → l.key = label) ∧
        ∀ l ∈ lanes, ∀ l' ∈ lanes, l.explicit = true → l ≠ l' → l.key ≠ l'.name) ∧
    ((∃ e, planLanes children depth = .error e) ↔
      ∃ before r after label, refs = before ++ r :: after ∧ Clashes before r label) ∧
    (∀ e, planLanes children depth = .error e → ∃ before r after label,
      refs = before ++ r :: after ∧ Clashes before r label ∧ e = .clash label r.name) ∧
    ∀ depth', (∃ e, planLanes children depth' = .error e) ↔
      ∃ e, planLanes children depth = .error e := by
  intro refs
  refine ⟨fun lanes hlanes => ?_, planLanes_eq_error_iff children depth, fun e he => ?_,
    fun depth' => ?_⟩
  · have heq : lanes = lanesBehind depth refs := eq_lanesBehind hlanes
    refine ⟨?_, fun hhash => keys_nodup_of_spelled hlanes fun l hl => ?_, fun l hl => ?_,
      fun l hl l' hl' hexplicit hne => ?_⟩
    · rw [← names_openers, heq, lanesBehind, List.map_map]
      exact List.map_congr_left fun r _ => laneOf_name depth r
    · rw [heq] at hl
      obtain ⟨r, hr, rfl⟩ := first_of_mem_lanesBehind hl
      exact spelled_laneOf (hhash r (List.mem_of_find?_eq_some hr))
    · rw [heq] at hl
      obtain ⟨r, hr, rfl⟩ := first_of_mem_lanesBehind hl
      refine ⟨r, hr, laneOf_explicit_iff depth r, fun label hlabel => ?_⟩
      simp [laneOf, hlabel]
    · exact (apart_of_mem hlanes hl hl' hne).key_name hexplicit
  · rcases planLanes_cases children depth with
      ⟨before, r, after, label, hrefs, hclash, herror⟩ | ⟨-, hok⟩
    · rw [herror] at he
      cases he
      exact ⟨before, r, after, label, hrefs, hclash, rfl⟩
    · rw [hok] at he
      cases he
  · rw [planLanes_eq_error_iff, planLanes_eq_error_iff]

/-- A label that is read, a label that is its own name, one that a second reference gives and one
that binds nothing; with a fifth lane, whose label is the name of the first, there is no plan. -/
theorem plan_well_formed_labels :
    let children : List Node := [.shown ⟨"a", .none⟩, .literal "-", .hidden ⟨"b", .some "x"⟩,
      .shown ⟨"x", .none⟩, .shown ⟨"c", .some "c"⟩, .shown ⟨"a", .some "y"⟩, .hidden ⟨"y", .none⟩,
      .shown ⟨"d", .some "_"⟩]
    let lanes : List Lane :=
      [⟨"a", "a#2", false⟩, ⟨"b", "x", true⟩, ⟨"c", "c", true⟩, ⟨"d", "d#2", false⟩]
    let more : List Node := children ++ [.hidden ⟨"e", .some "a"⟩]
    planLanes children 2 = .ok lanes ∧
      (∀ r ∈ Node.direct children, ∀ name ∈ r.name :: r.bound.toList, NoHash name) ∧
      (lanes.map (·.key)).Nodup ∧
      (∀ l ∈ lanes, ∀ l' ∈ lanes, l.explicit = true → l ≠ l' → l.key ≠ l'.name) ∧
      (∃ before r after label, Node.direct more = before ++ r :: after ∧ Clashes before r label) ∧
      (∃ e, planLanes more 2 = .error e) ∧ ∃ e, planLanes more 0 = .error e := by
  intro children lanes more
  have hplan : planLanes children 2 = .ok lanes := by rfl
  have hhash : ∀ r ∈ Node.direct children, ∀ name ∈ r.name :: r.bound.toList, NoHash name := by
    decide
  have hclash : Clashes (Node.direct children) ⟨"e", .some "a"⟩ "a" :=
    ⟨by decide, rfl, ⟨"a", .none⟩, by decide, .inr ⟨by decide, rfl⟩⟩
  have hmore : ∃ before r after label, Node.direct more = before ++ r :: after ∧
      Clashes before r label :=
    ⟨Node.direct children, ⟨"e", .some "a"⟩, [], "a", rfl, hclash⟩
  obtain ⟨hlanes, -⟩ := plan_well_formed children 2
  obtain ⟨-, hkeys, -, hnames⟩ := hlanes lanes hplan
  obtain ⟨-, herror, -, hdepth⟩ := plan_well_formed more 2
  exact ⟨hplan, hhash, hkeys hhash, hnames, hmore, herror.mpr hmore, (hdepth 0).mpr (herror.mpr hmore)⟩

end Lockstep
