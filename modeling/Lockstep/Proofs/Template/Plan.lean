/-
What a plan of lanes looks like. Going through the children of a group, every
reference that opens a lane opens the lane it would open alone
(`Lanes.laneOf`), and no two lanes of a plan get in each other's way
(`Lanes.Apart`): their names differ, and no label that is a key is the key or
the name of another lane. So the keys of a group whose names hold no number
sign all differ (`keys_nodup`).

The depth of the group shows in the keys of lanes without a label and in
nothing else (`planLanes_depth`).
-/
import Lockstep.Proofs.Template.Parts

namespace Lockstep

namespace Lanes

variable {depth : Int} {lanes lanes' : List Lane} {labels : List String} {n : Node}
  {ns : List Node} {r : Reference} {l : Lane}

/-! ## Opening a lane -/

/-- The lane that a reference opens, whatever lanes there are. -/
def laneOf (depth : Int) (r : Reference) : Lane :=
  match r.bound with
  | .none => ⟨r.name, laneKey r.name depth, false⟩
  | .some label => ⟨r.name, label, true⟩

@[simp] theorem laneOf_name (depth : Int) (r : Reference) : (laneOf depth r).name = r.name := by
  unfold laneOf
  split <;> rfl

theorem bound_of_explicit (h : (laneOf depth r).explicit = true) :
    r.bound = .some (laneOf depth r).key := by
  unfold laneOf at h ⊢
  split at h
  · cases h
  · assumption

theorem key_of_not_explicit (h : (laneOf depth r).explicit = false) :
    (laneOf depth r).key = laneKey r.name depth := by
  unfold laneOf at h ⊢
  split at h
  · rfl
  · cases h

/-- A reference opens its own lane, unless its label is taken. -/
theorem laneFor_eq_ok (h : laneFor depth lanes r = .ok l) :
    l = laneOf depth r ∧ ∀ label, r.bound = .some label → taken lanes label r.name = false := by
  unfold laneFor at h
  unfold laneOf
  split at h
  · cases h
    simp [*]
  · next label hl =>
    split at h
    · cases h
    · next ht =>
      cases h
      rw [hl]
      refine ⟨rfl, fun label' he => ?_⟩
      cases he
      simpa using ht

theorem opens_eq_true {name : String} (h : opens lanes labels name = true) :
    (∀ l ∈ lanes, l.name ≠ name) ∧ name ∉ labels := by
  simpa [opens] using h

theorem taken_eq_false {label name : String} (h : taken lanes label name = false) :
    (∀ l ∈ lanes, l.explicit = true → l.key ≠ label) ∧
      (label = name ∨ ∀ l ∈ lanes, l.name ≠ label) := by
  simp only [taken, Bool.or_eq_false_iff, List.any_eq_false, Bool.and_eq_true, beq_iff_eq, not_and,
    Bool.and_eq_false_iff, bne_eq_false_iff_eq] at h
  exact ⟨fun l hl he => h.1 l hl he, h.2⟩

/-- The only thing wrong with lanes can be that a label is taken. -/
theorem planFrom_eq_error {e : RenderError} (h : planFrom depth lanes labels ns = .error e) :
    ∃ label name, e = .clash label name := by
  induction ns generalizing lanes labels with
  | nil => cases h
  | cons n ns ih =>
    rw [planFrom] at h
    split at h
    · exact ih h
    · next r _ =>
      simp only at h
      split at h
      · split at h
        · exact ih h
        · next hl =>
          unfold laneFor at hl
          split at hl
          · cases hl
          · split at hl
            · cases hl
              cases h
              exact ⟨_, _, rfl⟩
            · cases hl
      · exact ih h

/-- What one child adds to a plan: nothing, if it is no reference or its name means something in
the group already, and otherwise the lane it opens. -/
theorem planFrom_cons (h : planFrom depth lanes labels (n :: ns) = .ok lanes') :
    (n.reference? = .none ∧ planFrom depth lanes labels ns = .ok lanes') ∨
    ∃ r, n.reference? = .some r ∧
      ((opens lanes labels r.name = false ∧
          planFrom depth lanes (r.bound.toList ++ labels) ns = .ok lanes') ∨
        (opens lanes labels r.name = true ∧ laneFor depth lanes r = .ok (laneOf depth r) ∧
          planFrom depth (lanes ++ [laneOf depth r]) (r.bound.toList ++ labels) ns =
            .ok lanes')) := by
  rw [planFrom] at h
  split at h
  · next hr => exact .inl ⟨hr, h⟩
  · next r hr =>
    refine .inr ⟨r, hr, ?_⟩
    simp only at h
    split at h
    · next ho =>
      split at h
      · next l hl =>
        obtain ⟨rfl, -⟩ := laneFor_eq_ok hl
        exact .inr ⟨ho, hl, h⟩
      · cases h
    · next ho => exact .inl ⟨by simpa using ho, h⟩

/-- Every lane of a plan was there before or is the lane of a child. -/
theorem mem_of_planFrom (h : planFrom depth lanes labels ns = .ok lanes') (hl : l ∈ lanes') :
    l ∈ lanes ∨ ∃ n ∈ ns, ∃ r, n.reference? = .some r ∧ l = laneOf depth r := by
  induction ns generalizing lanes labels with
  | nil =>
    cases h
    exact .inl hl
  | cons n ns ih =>
    have tail : ∀ {ks bs}, planFrom depth ks bs ns = .ok lanes' →
        l ∈ ks ∨ ∃ m ∈ n :: ns, ∃ r, m.reference? = .some r ∧ l = laneOf depth r := by
      intro ks bs h
      rcases ih h with hk | ⟨m, hm, r, hr⟩
      · exact .inl hk
      · exact .inr ⟨m, List.mem_cons_of_mem _ hm, r, hr⟩
    rcases planFrom_cons h with ⟨-, h⟩ | ⟨r, hr, ⟨-, h⟩ | ⟨-, -, h⟩⟩
    · exact tail h
    · exact tail h
    · rcases tail h with hk | hm
      · rcases List.mem_append.mp hk with hk | hk
        · exact .inl hk
        · exact .inr ⟨n, List.mem_cons_self, r, hr, by simpa using hk⟩
      · exact .inr hm

/-! ## Lanes that are apart -/

/-- Two lanes do not get in each other's way: neither names are shared, nor is a label that is a
key the key or the name of the other. -/
structure Apart (l l' : Lane) : Prop where
  name : l.name ≠ l'.name
  key_name : l.explicit = true → l.key ≠ l'.name
  name_key : l'.explicit = true → l.name ≠ l'.key
  key : l.explicit = true → l'.explicit = true → l.key ≠ l'.key

theorem Apart.symm {l l' : Lane} (h : Apart l l') : Apart l' l :=
  ⟨h.name.symm, fun he => (h.name_key he).symm, fun he => (h.key_name he).symm,
    fun he he' => (h.key he' he).symm⟩

/-- A lane that is opened is apart from those before it, if their labels are known. -/
theorem apart_laneOf (hl : l ∈ lanes) (hlabels : l.explicit = true → l.key ∈ labels)
    (ho : opens lanes labels r.name = true) (hf : laneFor depth lanes r = .ok (laneOf depth r)) :
    Apart l (laneOf depth r) := by
  obtain ⟨hnames, hnew⟩ := opens_eq_true ho
  obtain ⟨-, htaken⟩ := laneFor_eq_ok hf
  rw [← laneOf_name depth r] at hnames hnew htaken
  refine ⟨hnames l hl, fun he hk => hnew (hk ▸ hlabels he), fun he hk => ?_, fun he he' => ?_⟩
  · obtain ⟨-, hsame | hother⟩ := taken_eq_false (htaken _ (bound_of_explicit he))
    · exact hnames l hl (hk.trans hsame)
    · exact hother l hl hk
  · exact (taken_eq_false (htaken _ (bound_of_explicit he'))).1 l hl he

/-- **The lanes of a plan are apart.** The labels of its lanes are among the labels given before,
which no new lane can take for its name. -/
theorem pairwise_of_planFrom (h : planFrom depth lanes labels ns = .ok lanes')
    (hp : lanes.Pairwise Apart) (hlabels : ∀ l ∈ lanes, l.explicit = true → l.key ∈ labels) :
    lanes'.Pairwise Apart := by
  induction ns generalizing lanes labels with
  | nil =>
    cases h
    exact hp
  | cons n ns ih =>
    have more : ∀ r : Reference, ∀ l ∈ lanes, l.explicit = true →
        l.key ∈ r.bound.toList ++ labels :=
      fun r l hl he => List.mem_append_right _ (hlabels l hl he)
    rcases planFrom_cons h with ⟨-, h⟩ | ⟨r, -, ⟨-, h⟩ | ⟨ho, hf, h⟩⟩
    · exact ih h hp hlabels
    · exact ih h hp (more r)
    · refine ih h ?_ ?_
      · rw [List.pairwise_append]
        refine ⟨hp, List.pairwise_singleton _ _, fun l hl l' hl' => ?_⟩
        rw [List.mem_singleton.mp hl']
        exact apart_laneOf hl (hlabels l hl) ho hf
      · intro l hl he
        rcases List.mem_append.mp hl with hl | hl
        · exact more r l hl he
        · rw [List.mem_singleton.mp hl] at he ⊢
          simp [bound_of_explicit he]

theorem apart_of_planLanes {children : List Node} (h : planLanes children depth = .ok lanes) :
    lanes.Pairwise Apart :=
  pairwise_of_planFrom h List.Pairwise.nil (by simp)

theorem exists_of_planLanes {children : List Node} (h : planLanes children depth = .ok lanes)
    (hl : l ∈ lanes) : ∃ n ∈ children, ∃ r, n.reference? = .some r ∧ l = laneOf depth r := by
  rcases mem_of_planFrom h hl with hl | hn
  · cases hl
  · exact hn

/-! ## Lanes of a template that can be spelled -/

/-- A lane as the references of a group make them, with no number sign in its name or label. -/
structure Spelled (depth : Int) (l : Lane) : Prop where
  name : NoHash l.name
  label : l.explicit = true → NoHash l.key
  key : l.explicit = false → l.key = laneKey l.name depth

/-- So is the lane of a reference whose name and label hold none. -/
theorem spelled_laneOf (hr : ∀ name ∈ r.name :: r.bound.toList, NoHash name) :
    Spelled depth (laneOf depth r) := by
  refine ⟨?_, fun he => ?_, fun he => ?_⟩
  · rw [laneOf_name]
    exact hr r.name (by simp)
  · exact hr _ (by simp [bound_of_explicit he])
  · rw [laneOf_name, key_of_not_explicit he]

theorem spelled_of_planLanes {children : List Node} (hf : HashFree children)
    (h : planLanes children depth = .ok lanes) (hl : l ∈ lanes) : Spelled depth l := by
  obtain ⟨n, hn, r, hr, rfl⟩ := exists_of_planLanes h hl
  exact spelled_laneOf (hf r (Node.mem_references_of_mem hn hr))

/-- A key that can be spelled is the label of its lane, and some child binds it. -/
theorem label_of_noHash {children : List Node} (h : planLanes children depth = .ok lanes)
    (hl : l ∈ lanes) (hk : NoHash l.key) :
    l.explicit = true ∧
      ∃ n ∈ children, ∃ r, n.reference? = .some r ∧ r.name = l.name ∧ r.bound = .some l.key := by
  obtain ⟨n, hn, r, hr, rfl⟩ := exists_of_planLanes h hl
  cases he : (laneOf depth r).explicit with
  | true => exact ⟨rfl, n, hn, r, hr, (laneOf_name depth r).symm, bound_of_explicit he⟩
  | false =>
    rw [key_of_not_explicit he] at hk
    exact absurd rfl (laneKey_ne_of_noHash hk _ _)

/-- Lanes that are apart and can be spelled have keys of their own. -/
theorem Apart.key_ne {l l' : Lane} (h : Apart l l') (hl : Spelled depth l)
    (hl' : Spelled depth l') : l.key ≠ l'.key := by
  cases he : l.explicit with
  | true =>
    cases he' : l'.explicit with
    | true => exact h.key he he'
    | false =>
      rw [hl'.key he']
      exact (laneKey_ne_of_noHash (hl.label he) _ _).symm
  | false =>
    cases he' : l'.explicit with
    | true =>
      rw [hl.key he]
      exact laneKey_ne_of_noHash (hl'.label he') _ _
    | false =>
      rw [hl.key he, hl'.key he']
      exact fun hk => h.name (laneKey_inj hk).1

theorem keys_nodup_of_spelled {children : List Node} (h : planLanes children depth = .ok lanes)
    (hs : ∀ l ∈ lanes, Spelled depth l) : (lanes.map (·.key)).Nodup := by
  rw [List.Nodup, List.pairwise_map]
  refine (apart_of_planLanes h).imp_of_mem fun hl hl' ha => ?_
  exact ha.key_ne (hs _ hl) (hs _ hl')

/-- **The lanes of a group have different keys**, if no name in it holds a number sign. -/
theorem keys_nodup {children : List Node} (hf : HashFree children)
    (h : planLanes children depth = .ok lanes) : (lanes.map (·.key)).Nodup :=
  keys_nodup_of_spelled h fun _ hl => spelled_of_planLanes hf h hl

/-! ## Depths -/

/-- The lane at another depth. -/
def atDepth (depth : Int) (l : Lane) : Lane :=
  if l.explicit then l else { l with key := laneKey l.name depth }

@[simp] theorem atDepth_name (depth : Int) (l : Lane) : (atDepth depth l).name = l.name := by
  unfold atDepth
  split <;> rfl

@[simp] theorem atDepth_explicit (depth : Int) (l : Lane) :
    (atDepth depth l).explicit = l.explicit := by
  unfold atDepth
  split <;> rfl

theorem atDepth_key (depth : Int) (he : l.explicit = true) : (atDepth depth l).key = l.key := by
  simp [atDepth, he]

theorem opens_map_atDepth (depth : Int) (lanes : List Lane) (labels : List String)
    (name : String) : opens (lanes.map (atDepth depth)) labels name = opens lanes labels name := by
  simp [opens, List.all_map, Function.comp_def]

theorem taken_map_atDepth (depth : Int) (lanes : List Lane) (label name : String) :
    taken (lanes.map (atDepth depth)) label name = taken lanes label name := by
  have h : ∀ l : Lane, (l.explicit && (atDepth depth l).key == label) =
      (l.explicit && l.key == label) := by
    intro l
    cases he : l.explicit with
    | true => rw [atDepth_key depth he]
    | false => rfl
  simp [taken, List.any_map, Function.comp_def, h]

theorem laneFor_map_atDepth (depth depth' : Int) (lanes : List Lane) (r : Reference) :
    laneFor depth' (lanes.map (atDepth depth')) r =
      (laneFor depth lanes r).map (atDepth depth') := by
  unfold laneFor
  split
  · rfl
  · rw [taken_map_atDepth]
    split <;> rfl

theorem planFrom_map_atDepth (depth depth' : Int) (ns : List Node) (lanes : List Lane)
    (labels : List String) :
    planFrom depth' (lanes.map (atDepth depth')) labels ns =
      (planFrom depth lanes labels ns).map (List.map (atDepth depth')) := by
  induction ns generalizing lanes labels with
  | nil => rfl
  | cons n ns ih =>
    rw [planFrom, planFrom]
    split
    · exact ih lanes labels
    · next r _ =>
      simp only [opens_map_atDepth, laneFor_map_atDepth depth depth']
      split
      · cases laneFor depth lanes r with
        | error e => rfl
        | ok l =>
          have hl := ih (lanes ++ [l]) (r.bound.toList ++ labels)
          rw [List.map_append] at hl
          exact hl
      · exact ih lanes (r.bound.toList ++ labels)

/-- **Plans at different depths are the same plan**, but for the keys of lanes without a label. -/
theorem planLanes_depth (children : List Node) (depth depth' : Int) :
    planLanes children depth' = (planLanes children depth).map (List.map (atDepth depth')) :=
  planFrom_map_atDepth depth depth' children [] []

end Lanes

end Lockstep
