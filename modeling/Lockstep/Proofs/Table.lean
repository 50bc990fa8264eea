/-
Tables made of entries one after the other. What a name stands for is what the
last entry for it says (`Table.last?`), or what it stood for before if there is
none. The names of such a table are distinct.
-/
import Lockstep.Table

namespace Lockstep.Table

variable {α β : Type} {name : String} {es : List (String × α)}

/-- What the last of the entries for a name says. -/
def last? (name : String) (es : List (String × α)) : Option α :=
  (es.reverse.find? (·.1 == name)).map (·.2)

@[simp] theorem last?_nil (name : String) : last? name ([] : List (String × α)) = .none := rfl

theorem last?_cons (name : String) (e : String × α) (es : List (String × α)) :
    last? name (e :: es) = (last? name es).or (if e.1 = name then .some e.2 else .none) := by
  rw [last?, last?, List.reverse_cons, List.find?_append]
  cases es.reverse.find? (·.1 == name) with
  | some e' => rfl
  | none =>
    by_cases he : e.1 = name
    · simp [he]
    · simp [he]

/-- **Of several entries for a name the last one counts.** -/
theorem get?_insertAll (t : Table α) (es : List (String × α)) (name : String) :
    (t.insertAll es).get? name = (last? name es).or (t.get? name) := by
  induction es generalizing t with
  | nil => rfl
  | cons e es ih =>
    have hrest := ih (t.insert e.1 e.2)
    rw [get?_insert] at hrest
    rw [show t.insertAll (e :: es) = (t.insert e.1 e.2).insertAll es from rfl, hrest, last?_cons]
    cases last? name es with
    | some a => rfl
    | none =>
      by_cases he : e.1 = name
      · simp [he]
      · simp [he, Ne.symm he]

theorem get?_ofList (es : List (String × α)) (name : String) :
    (ofList es).get? name = last? name es := by
  rw [ofList, get?_insertAll, get?_empty, Option.or_none]

/-- What a name stands for is in the entries. -/
theorem mem_entries_of_get? {t : Table α} {a : α} (h : t.get? name = .some a) :
    (name, a) ∈ t.entries := by
  obtain ⟨e, he, rfl⟩ := Option.map_eq_some_iff.mp h
  obtain rfl : e.1 = name := by simpa using List.find?_some he
  exact List.mem_of_find?_eq_some he

/-! ## Distinct names -/

/-- A name that is there already is not added. -/
theorem map_fst_insertEntry (name : String) (a : α) (es : List (String × α)) :
    (insertEntry name a es).map (·.1) =
      if name ∈ es.map (·.1) then es.map (·.1) else es.map (·.1) ++ [name] := by
  induction es with
  | nil => simp [insertEntry]
  | cons e es ih =>
    rw [insertEntry]
    by_cases he : e.1 = name
    · simp [he]
    · have hne : ¬ name = e.1 := fun h => he h.symm
      rw [if_neg he, List.map_cons, ih]
      by_cases hname : name ∈ es.map (·.1)
      · simp [hname]
      · simp [hname, hne]

theorem nodup_insert (t : Table α) (name : String) (a : α) (h : t.names.Nodup) :
    (t.insert name a).names.Nodup := by
  rw [names, insert, map_fst_insertEntry]
  split
  · exact h
  · next hname =>
    rw [List.nodup_append]
    refine ⟨h, by simp, fun m hm m' hm' => ?_⟩
    rw [List.mem_singleton.mp hm']
    rintro rfl
    exact hname hm

theorem nodup_ofList (es : List (String × α)) : (ofList es).names.Nodup := by
  have hall : ∀ t : Table α, t.names.Nodup → (t.insertAll es).names.Nodup := by
    induction es with
    | nil => exact fun t h => h
    | cons e es ih => exact fun t h => ih (t.insert e.1 e.2) (nodup_insert t e.1 e.2 h)
  exact hall ∅ List.nodup_nil

theorem insertEntry_of_not_mem {a : α} (h : name ∉ es.map (·.1)) :
    insertEntry name a es = es ++ [(name, a)] := by
  induction es with
  | nil => rfl
  | cons e es ih =>
    obtain ⟨hne, hrest⟩ := List.ne_and_not_mem_of_not_mem_cons h
    rw [insertEntry, if_neg hne.symm, ih hrest, List.cons_append]

/-- Entries with distinct names are all kept, in their order. -/
theorem entries_ofList (h : (es.map (·.1)).Nodup) : (ofList es).entries = es := by
  have hall : ∀ t : Table α, (t.names ++ es.map (·.1)).Nodup →
      (t.insertAll es).entries = t.entries ++ es := by
    clear h
    induction es with
    | nil => exact fun t _ => (List.append_nil _).symm
    | cons e es ih =>
      intro t h
      have hnew : e.1 ∉ t.names := fun hm =>
        (List.nodup_append.mp h).2.2 _ hm _ List.mem_cons_self rfl
      have hentries : (t.insert e.1 e.2).entries = t.entries ++ [e] := insertEntry_of_not_mem hnew
      have hnames : (t.insert e.1 e.2).names = t.names ++ [e.1] := by
        rw [names, hentries, List.map_append, names]
        rfl
      have hrest := ih (t.insert e.1 e.2) (by
        rw [hnames, List.append_assoc]
        exact h)
      rw [hentries, List.append_assoc] at hrest
      exact hrest
  exact hall ∅ h

/-- Where names are distinct the only entry for one is the last one too. -/
theorem last?_entries (t : Table α) (h : t.names.Nodup) (name : String) :
    last? name t.entries = t.get? name := by
  obtain ⟨es⟩ := t
  induction es with
  | nil => rfl
  | cons e es ih =>
    obtain ⟨hfresh, hrest⟩ := List.nodup_cons.mp h
    rw [last?_cons, ih hrest]
    by_cases he : e.1 = name
    · have hnone : (⟨es⟩ : Table α).get? name = .none := by
        rw [get?, Option.map_eq_none_iff, List.find?_eq_none]
        intro e' he' heq
        have hsame : e'.1 = e.1 := (beq_iff_eq.mp heq).trans he.symm
        exact hfresh (List.mem_map.mpr ⟨e', he', hsame⟩)
      rw [hnone]
      simp [get?, he]
    · rw [if_neg he, Option.or_none]
      simp [get?, he]

theorem names_map (f : α → β) (t : Table α) :
    (⟨t.entries.map fun e => (e.1, f e.2)⟩ : Table β).names = t.names := by
  simp only [names, List.map_map, Function.comp_def]

/-- The table with what its names stand for changed. -/
theorem get?_map (f : α → β) (t : Table α) (name : String) :
    (⟨t.entries.map fun e => (e.1, f e.2)⟩ : Table β).get? name = (t.get? name).map f := by
  simp only [get?, List.find?_map, Option.map_map, Function.comp_def]

end Lockstep.Table
