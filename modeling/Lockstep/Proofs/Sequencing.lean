/-
Computations that may fail, one after the other: when several of them succeed
or fail, by what the single ones do.
-/

namespace Lockstep

theorem bind_eq_ok {ε α β : Type} {x : Except ε α} {f : α → Except ε β} {b : β} :
    x.bind f = .ok b ↔ ∃ a, x = .ok a ∧ f a = .ok b := by
  cases x <;> simp [Except.bind]

theorem bind_eq_error {ε α β : Type} {x : Except ε α} {f : α → Except ε β} {e : ε} :
    x.bind f = .error e ↔ x = .error e ∨ ∃ a, x = .ok a ∧ f a = .error e := by
  cases x <;> simp [Except.bind]

theorem map_eq_ok {ε α β : Type} {x : Except ε α} {f : α → β} {b : β} :
    x.map f = .ok b ↔ ∃ a, x = .ok a ∧ f a = b := by
  cases x <;> simp [Except.map]

theorem map_eq_error {ε α β : Type} {x : Except ε α} {f : α → β} {e : ε} :
    x.map f = .error e ↔ x = .error e := by
  cases x <;> simp [Except.map]

theorem mapError_eq_ok {ε ε' α : Type} {x : Except ε α} {f : ε → ε'} {a : α} :
    x.mapError f = .ok a ↔ x = .ok a := by
  cases x with
  | error e => exact ⟨nofun, nofun⟩
  | ok b =>
    show Except.ok b = .ok a ↔ Except.ok b = .ok a
    simp

theorem map_map {ε α β γ : Type} (x : Except ε α) (f : α → β) (g : β → γ) :
    (x.map f).map g = x.map fun a => g (f a) := by
  cases x <;> rfl

theorem mapM_cons {ε α β : Type} (f : α → Except ε β) (a : α) (as : List α) :
    (a :: as).mapM f = (f a).bind fun b => (as.mapM f).map (b :: ·) := by
  rw [List.mapM_cons]
  cases f a with
  | error e => rfl
  | ok b => cases as.mapM f <;> rfl

theorem mapM_congr {ε α β : Type} {f g : α → Except ε β} :
    ∀ {as : List α}, (∀ a ∈ as, f a = g a) → as.mapM f = as.mapM g
  | [], _ => rfl
  | a :: as, h => by
    rw [mapM_cons, mapM_cons, h a List.mem_cons_self,
      mapM_congr fun b hb => h b (List.mem_cons_of_mem _ hb)]

theorem mapError_mapM {ε ε' α β : Type} (g : ε → ε') (f : α → Except ε β) (as : List α) :
    (as.mapM f).mapError g = as.mapM fun a => (f a).mapError g := by
  induction as with
  | nil => rfl
  | cons a as ih =>
    rw [mapM_cons, mapM_cons, ← ih]
    cases f a with
    | error e => rfl
    | ok b => cases as.mapM f <;> rfl

/-- Of the numbers up to `n` the first one that fails decides. -/
theorem mapM_range_eq_error {ε β : Type} {f : Nat → Except ε β} {e : ε} {i n : Nat} (hi : i < n)
    (hbefore : ∀ j < i, ∃ b, f j = .ok b) (he : f i = .error e) :
    (List.range n).mapM f = .error e := by
  have hfrom : ∀ k j, j + k = i → ((List.range' j (n - j)).mapM f) = .error e := by
    intro k
    induction k with
    | zero =>
      intro j hj
      obtain rfl : j = i := by omega
      obtain ⟨m, hm⟩ : ∃ m, n - j = m + 1 := ⟨n - j - 1, by omega⟩
      rw [hm, List.range'_succ, mapM_cons, he]
      rfl
    | succ k ih =>
      intro j hj
      obtain ⟨m, hm⟩ : ∃ m, n - j = m + 1 := ⟨n - j - 1, by omega⟩
      obtain ⟨b, hb⟩ := hbefore j (by omega)
      have hrest := ih (j + 1) (by omega)
      rw [show n - (j + 1) = m by omega] at hrest
      rw [hm, List.range'_succ, mapM_cons, hb]
      simp only [Except.bind, hrest, Except.map]
  have h := hfrom i 0 (Nat.zero_add i)
  rw [List.range_eq_range']
  exact h

/-- Where one of the numbers up to `n` fails, there is a first one that does. -/
theorem exists_of_mapM_range_eq_error {ε β : Type} {f : Nat → Except ε β} {e : ε} {n : Nat}
    (h : (List.range n).mapM f = .error e) :
    ∃ i < n, f i = .error e ∧ ∀ j < i, ∃ b, f j = .ok b := by
  have hfrom : ∀ k j, (List.range' j k).mapM f = .error e →
      ∃ i, i < j + k ∧ f i = .error e ∧ ∀ m, j ≤ m → m < i → ∃ b, f m = .ok b := by
    intro k
    induction k with
    | zero =>
      intro j h
      cases h
    | succ k ih =>
      intro j h
      rw [List.range'_succ, mapM_cons] at h
      rcases bind_eq_error.mp h with h | ⟨b, hb, h⟩
      · exact ⟨j, by omega, h, fun m hj hm => absurd hm (by omega)⟩
      · obtain ⟨i, hi, he, hbefore⟩ := ih (j + 1) (map_eq_error.mp h)
        refine ⟨i, by omega, he, fun m hj hm => ?_⟩
        rcases Nat.eq_or_lt_of_le hj with rfl | hj
        · exact ⟨b, hb⟩
        · exact hbefore m hj hm
  rw [List.range_eq_range'] at h
  obtain ⟨i, hi, he, hbefore⟩ := hfrom n 0 h
  exact ⟨i, by omega, he, fun j hj => hbefore j (Nat.zero_le j) hj⟩

theorem mapM_range_eq_ok {ε β : Type} {f : Nat → Except ε β} {bs : List β}
    (h : ∀ i (hi : i < bs.length), f i = .ok bs[i]) :
    (List.range bs.length).mapM f = .ok bs := by
  have hfrom : ∀ (bs : List β) (j : Nat), (∀ i (hi : i < bs.length), f (j + i) = .ok bs[i]) →
      (List.range' j bs.length).mapM f = .ok bs := by
    intro bs
    induction bs with
    | nil =>
      intro j _
      rfl
    | cons b bs ih =>
      intro j h
      have hfirst : f j = .ok b := h 0 (Nat.zero_lt_succ _)
      have hrest := ih (j + 1) fun i hi => by
        rw [Nat.add_assoc, Nat.add_comm 1 i]
        exact h (i + 1) (Nat.succ_lt_succ hi)
      rw [List.length_cons, List.range'_succ, mapM_cons, hfirst]
      simp only [Except.bind, hrest, Except.map]
  rw [List.range_eq_range']
  exact hfrom bs 0 fun i hi => by
    rw [Nat.zero_add]
    exact h i hi

end Lockstep
