/-
The scope in which a group's children are rendered (`Render.roundScope`). In
each round a lane is meant by its name and by its label, if it has one
(`Lane.Means`); both stand for the lane's key, under which the element at hand
is kept. All other names stand for what they stood for around the group.

So the names of a lane mean its element (`lookup_roundScope_of_means`), and all
others mean what they meant, unless they stand for the key of a lane
(`lookup_roundScope_of_not`). A round of a closed scope is closed, for every lane has
an element in it (`Closed.roundScope`).
-/
import Lockstep.Proofs.Scope.Lookup
import Lockstep.Proofs.Template.Plan
import Lockstep.Render.Basic

namespace Lockstep

/-- The name means the element of the lane inside the group. -/
def Lane.Means (l : Lane) (m : String) : Prop :=
  m = l.name ∨ (l.explicit = true ∧ m = l.key)

instance (l : Lane) (m : String) : Decidable (l.Means m) :=
  inferInstanceAs (Decidable (_ ∨ _))

/-- No name means two lanes that are apart. -/
theorem Lanes.Apart.not_means {l l' : Lane} (h : Lanes.Apart l l') {m : String} (hm : l.Means m) :
    ¬ l'.Means m := by
  rintro (hm' | ⟨he', hm'⟩)
  · rcases hm with hm | ⟨he, hm⟩
    · exact h.name (hm.symm.trans hm')
    · exact h.key_name he (hm.symm.trans hm')
  · rcases hm with hm | ⟨he, hm⟩
    · exact h.name_key he' (hm.symm.trans hm')
    · exact h.key he he' (hm.symm.trans hm')

namespace Render

variable {s : Scope} {lanes : List Lane} {cs : List Column} {l : Lane} {c : Column} {m key : String}
  {v : Value} {i : Nat}

/-! ## Naming the lanes -/

/-- The names that mean a lane stand for its key. -/
def nameLane (s : Scope) (l : Lane) : Scope :=
  let named := s.rename l.name l.key
  if l.explicit then named.rename l.key l.key else named

theorem nameLanes_cons (s : Scope) (l : Lane) (lanes : List Lane) :
    nameLanes s (l :: lanes) = nameLanes (nameLane s l) lanes := rfl

theorem alias?_nameLane (s : Scope) (l : Lane) (m : String) :
    (nameLane s l).alias? m = if l.Means m then .some l.key else s.alias? m := by
  by_cases he : l.explicit = true
  · by_cases hk : m = l.key
    · simp [nameLane, Lane.Means, he, hk]
    · simp [nameLane, Lane.Means, he, hk]
  · simp [nameLane, Lane.Means, he]

theorem stored?_nameLane (s : Scope) (l : Lane) (key : String) :
    (nameLane s l).stored? key = s.stored? key := by
  unfold nameLane
  cases l.explicit <;> rfl

theorem env_nameLane (s : Scope) (l : Lane) : (nameLane s l).env = s.env := by
  unfold nameLane
  cases l.explicit <;> rfl

theorem alias?_nameLanes_of_not (h : ∀ l ∈ lanes, ¬ l.Means m) :
    (nameLanes s lanes).alias? m = s.alias? m := by
  induction lanes generalizing s with
  | nil => rfl
  | cons l lanes ih =>
    rw [nameLanes_cons, ih fun l' hl' => h l' (List.mem_cons_of_mem _ hl'), alias?_nameLane,
      if_neg (h l List.mem_cons_self)]

/-- The lanes being apart, those named later do not take a lane's names from it. -/
theorem alias?_nameLanes_of_means (hp : lanes.Pairwise Lanes.Apart) (hl : l ∈ lanes)
    (hm : l.Means m) : (nameLanes s lanes).alias? m = .some l.key := by
  induction lanes generalizing s with
  | nil => cases hl
  | cons l' lanes ih =>
    rw [List.pairwise_cons] at hp
    rw [nameLanes_cons]
    rcases List.mem_cons.mp hl with rfl | hl
    · rw [alias?_nameLanes_of_not fun l' hl' => (hp.1 l' hl').not_means hm, alias?_nameLane,
        if_pos hm]
    · exact ih hp.2 hl

theorem stored?_nameLanes (s : Scope) (lanes : List Lane) (key : String) :
    (nameLanes s lanes).stored? key = s.stored? key := by
  induction lanes generalizing s with
  | nil => rfl
  | cons l lanes ih => rw [nameLanes_cons, ih, stored?_nameLane]

theorem env_nameLanes (s : Scope) (lanes : List Lane) : (nameLanes s lanes).env = s.env := by
  induction lanes generalizing s with
  | nil => rfl
  | cons l lanes ih => rw [nameLanes_cons, ih, env_nameLane]

/-! ## Setting the elements -/

/-- Keeps the element of one column under the key of its lane. -/
def setElement (i : Nat) (s : Scope) (c : Column) : Scope :=
  match c.2.get? i with
  | .some v => s.set c.1.key v
  | .none => s

theorem setElements_cons (s : Scope) (c : Column) (cs : List Column) (i : Nat) :
    setElements s (c :: cs) i = setElements (setElement i s c) cs i := rfl

theorem alias?_setElement (s : Scope) (c : Column) (i : Nat) (m : String) :
    (setElement i s c).alias? m = s.alias? m := by
  unfold setElement
  split <;> rfl

theorem env_setElement (s : Scope) (c : Column) (i : Nat) : (setElement i s c).env = s.env := by
  unfold setElement
  split <;> rfl

theorem stored?_setElement (s : Scope) (c : Column) (i : Nat) (key : String) :
    (setElement i s c).stored? key =
      if key = c.1.key then (c.2.get? i).or (s.stored? key) else s.stored? key := by
  cases hv : c.2.get? i with
  | none => simp [setElement, hv]
  | some v => simp [setElement, hv]

theorem alias?_setElements (s : Scope) (cs : List Column) (i : Nat) (m : String) :
    (setElements s cs i).alias? m = s.alias? m := by
  induction cs generalizing s with
  | nil => rfl
  | cons c cs ih => rw [setElements_cons, ih, alias?_setElement]

theorem env_setElements (s : Scope) (cs : List Column) (i : Nat) :
    (setElements s cs i).env = s.env := by
  induction cs generalizing s with
  | nil => rfl
  | cons c cs ih => rw [setElements_cons, ih, env_setElement]

theorem stored?_setElements_of_not (h : ∀ c ∈ cs, key ≠ c.1.key) :
    (setElements s cs i).stored? key = s.stored? key := by
  induction cs generalizing s with
  | nil => rfl
  | cons c cs ih =>
    rw [setElements_cons, ih fun c' hc' => h c' (List.mem_cons_of_mem _ hc'), stored?_setElement,
      if_neg (h c List.mem_cons_self)]

/-- The keys being different, the elements set later do not take a lane's element from it. -/
theorem stored?_setElements_of_mem (hk : (cs.map (·.1.key)).Nodup) (hc : c ∈ cs)
    (hv : c.2.get? i = .some v) : (setElements s cs i).stored? c.1.key = .some v := by
  induction cs generalizing s with
  | nil => cases hc
  | cons c' cs ih =>
    rw [List.map_cons, List.nodup_cons] at hk
    rw [setElements_cons]
    rcases List.mem_cons.mp hc with rfl | hc
    · have hne : ∀ c' ∈ cs, c.1.key ≠ c'.1.key := fun c' hc' he =>
        hk.1 (he ▸ List.mem_map_of_mem (f := fun c : Column => c.1.key) hc')
      rw [stored?_setElements_of_not hne, stored?_setElement, if_pos rfl, hv, Option.some_or]
    · exact ih hk.2 hc

/-- What is kept under a key stays kept, be it the same value or another. -/
theorem isSome_stored?_setElements (h : (s.stored? key).isSome = true) :
    ((setElements s cs i).stored? key).isSome = true := by
  induction cs generalizing s with
  | nil => exact h
  | cons c cs ih =>
    rw [setElements_cons]
    apply ih
    rw [stored?_setElement]
    split
    · simp [h]
    · exact h

theorem isSome_stored?_setElements_of_mem (hc : c ∈ cs) (hv : (c.2.get? i).isSome = true) :
    ((setElements s cs i).stored? c.1.key).isSome = true := by
  induction cs generalizing s with
  | nil => cases hc
  | cons c' cs ih =>
    rw [setElements_cons]
    rcases List.mem_cons.mp hc with rfl | hc
    · apply isSome_stored?_setElements
      rw [stored?_setElement, if_pos rfl]
      simp [hv]
    · exact ih hc

/-! ## Rounds -/

/-- The scope in which the children of a group are rendered in round `i`. -/
def roundScope (s : Scope) (lanes : List Lane) (cs : List Column) (i : Nat) : Scope :=
  (setElements (nameLanes s.child lanes) cs i).child

@[simp] theorem env_roundScope (s : Scope) (lanes : List Lane) (cs : List Column) (i : Nat) :
    (roundScope s lanes cs i).env = s.env := by
  rw [roundScope, Scope.env_child, env_setElements, env_nameLanes, Scope.env_child]

theorem alias?_roundScope_of_means (hp : lanes.Pairwise Lanes.Apart) (hl : l ∈ lanes)
    (hm : l.Means m) : (roundScope s lanes cs i).alias? m = .some l.key := by
  rw [roundScope, Scope.alias?_child, alias?_setElements, alias?_nameLanes_of_means hp hl hm]

theorem alias?_roundScope_of_not (h : ∀ l ∈ lanes, ¬ l.Means m) :
    (roundScope s lanes cs i).alias? m = s.alias? m := by
  rw [roundScope, Scope.alias?_child, alias?_setElements, alias?_nameLanes_of_not h,
    Scope.alias?_child]

theorem stored?_roundScope_of_mem (hk : (cs.map (·.1.key)).Nodup) (hc : c ∈ cs)
    (hv : c.2.get? i = .some v) : (roundScope s lanes cs i).stored? c.1.key = .some v := by
  rw [roundScope, Scope.stored?_child, stored?_setElements_of_mem hk hc hv]

theorem stored?_roundScope_of_not (h : ∀ c ∈ cs, key ≠ c.1.key) :
    (roundScope s lanes cs i).stored? key = s.stored? key := by
  rw [roundScope, Scope.stored?_child, stored?_setElements_of_not h, stored?_nameLanes,
    Scope.stored?_child]

/-- The names of a lane stand for its key. -/
theorem keyFor_roundScope_of_means (hp : lanes.Pairwise Lanes.Apart) (hl : l ∈ lanes)
    (hm : l.Means m) : (roundScope s lanes cs i).keyFor m = l.key := by
  rw [Scope.keyFor_eq, alias?_roundScope_of_means hp hl hm, Option.getD_some]

theorem keyFor_roundScope_of_not (h : ∀ l ∈ lanes, ¬ l.Means m) :
    (roundScope s lanes cs i).keyFor m = s.keyFor m := by
  rw [Scope.keyFor_eq, alias?_roundScope_of_not h, ← Scope.keyFor_eq]

/-- Under the key of a lane its element is kept. -/
theorem valueAt_roundScope_of_mem (hk : (cs.map (·.1.key)).Nodup) (hc : c ∈ cs)
    (hv : c.2.get? i = .some v) : (roundScope s lanes cs i).valueAt c.1.key = .some v := by
  rw [Scope.valueAt_eq, stored?_roundScope_of_mem hk hc hv, Option.some_or]

/-- **The names of a lane mean its element.** -/
theorem lookup_roundScope_of_means (hp : lanes.Pairwise Lanes.Apart)
    (hk : (cs.map (·.1.key)).Nodup) (hl : c.1 ∈ lanes) (hc : c ∈ cs) (hm : c.1.Means m)
    (hv : c.2.get? i = .some v) : (roundScope s lanes cs i).lookup m = .some v := by
  rw [Scope.lookup_eq, keyFor_roundScope_of_means hp hl hm, valueAt_roundScope_of_mem hk hc hv]

/-- **All other names mean what they meant around the group**, unless they stand for the key of a
lane. -/
theorem lookup_roundScope_of_not (hm : ∀ l ∈ lanes, ¬ l.Means m)
    (hk : ∀ c ∈ cs, s.keyFor m ≠ c.1.key) : (roundScope s lanes cs i).lookup m = s.lookup m := by
  rw [Scope.lookup_eq, keyFor_roundScope_of_not hm, Scope.lookup_eq, Scope.valueAt_eq,
    Scope.valueAt_eq, stored?_roundScope_of_not hk, env_roundScope]

/-- The names of the lanes stand for keys that are set, if every column has an element, and all
others for what they stood for. -/
theorem ClosedAbove.roundScope {aliases : Table String} (h : s.ClosedAbove aliases)
    (hp : lanes.Pairwise Lanes.Apart) (hcs : cs.map (·.1) = lanes)
    (hi : ∀ c ∈ cs, (c.2.get? i).isSome = true) :
    (roundScope s lanes cs i).ClosedAbove aliases := by
  refine ⟨fun m k ha => ?_, fun m ha => ?_⟩
  · by_cases hm : ∃ l ∈ lanes, l.Means m
    · obtain ⟨l, hl, hm⟩ := hm
      rw [alias?_roundScope_of_means hp hl hm] at ha
      cases ha
      rw [← hcs] at hl
      obtain ⟨c, hc, rfl⟩ := List.mem_map.mp hl
      exact .inl (isSome_stored?_setElements_of_mem hc (hi c hc))
    · have hno : ∀ l ∈ lanes, ¬ l.Means m := fun l hl hlm => hm ⟨l, hl, hlm⟩
      rw [alias?_roundScope_of_not hno] at ha
      refine (h.settled m k ha).imp_left fun hk => ?_
      rw [Render.roundScope, Scope.stored?_child]
      apply isSome_stored?_setElements
      rw [stored?_nameLanes, Scope.stored?_child]
      exact hk
  · by_cases hm : ∃ l ∈ lanes, l.Means m
    · obtain ⟨l, hl, hm⟩ := hm
      rw [alias?_roundScope_of_means hp hl hm] at ha
      cases ha
    · have hno : ∀ l ∈ lanes, ¬ l.Means m := fun l hl hlm => hm ⟨l, hl, hlm⟩
      rw [alias?_roundScope_of_not hno] at ha
      exact h.given m ha

/-- A round of a closed scope is closed. -/
theorem Closed.roundScope (h : s.Closed) (hp : lanes.Pairwise Lanes.Apart)
    (hcs : cs.map (·.1) = lanes) (hi : ∀ c ∈ cs, (c.2.get? i).isSome = true) :
    (roundScope s lanes cs i).Closed :=
  Scope.closed_iff.mpr (ClosedAbove.roundScope (Scope.closed_iff.mp h) hp hcs hi)

end Render

end Lockstep
