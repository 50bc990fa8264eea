/-
Tables from names to what they stand for, in the order in which the names
first came. Inserting a name that is there already changes what it stands for
and not its place.
-/

namespace Lockstep

structure Table (α : Type) where
  entries : List (String × α) := []
  deriving Repr, Inhabited, DecidableEq

namespace Table

variable {α : Type}

instance : EmptyCollection (Table α) := ⟨{}⟩

/-- What a name stands for. -/
def get? (t : Table α) (name : String) : Option α :=
  (t.entries.find? (·.1 == name)).map (·.2)

def insertEntry (name : String) (a : α) : List (String × α) → List (String × α)
  | [] => [(name, a)]
  | e :: es => if e.1 = name then (name, a) :: es else e :: insertEntry name a es

/-- The table in which `name` stands for `a`. -/
def insert (t : Table α) (name : String) (a : α) : Table α :=
  ⟨insertEntry name a t.entries⟩

/-- The entries one after the other; of several for one name the last one counts. -/
def insertAll (t : Table α) (es : List (String × α)) : Table α :=
  es.foldl (fun t e => t.insert e.1 e.2) t

def ofList (es : List (String × α)) : Table α :=
  insertAll ∅ es

/-- The names, in the order in which they first came. -/
def names (t : Table α) : List String :=
  t.entries.map (·.1)

/-- The entries by name, in the order of the names' code points. -/
def sorted (t : Table α) : List (String × α) :=
  t.entries.mergeSort fun a b => a.1 ≤ b.1

/-! ## Looking up what was inserted -/

@[simp] theorem get?_empty (name : String) : (∅ : Table α).get? name = .none := rfl

theorem find?_insertEntry_self (name : String) (a : α) (es : List (String × α)) :
    (insertEntry name a es).find? (·.1 == name) = .some (name, a) := by
  induction es with
  | nil => simp [insertEntry]
  | cons e es ih =>
    rw [insertEntry]
    split
    · simp
    · rename_i h
      rw [List.find?_cons_of_neg (by simpa using h), ih]

theorem find?_insertEntry_other {name other : String} (a : α) (es : List (String × α))
    (h : other ≠ name) :
    (insertEntry name a es).find? (·.1 == other) = es.find? (·.1 == other) := by
  induction es with
  | nil => simp [insertEntry, h.symm]
  | cons e es ih =>
    rw [insertEntry]
    split
    · rename_i he
      simp [he, h.symm]
    · simp only [List.find?_cons, ih]

@[simp] theorem get?_insert_self (t : Table α) (name : String) (a : α) :
    (t.insert name a).get? name = .some a := by
  simp [get?, insert, find?_insertEntry_self]

theorem get?_insert_other (t : Table α) {name other : String} (a : α) (h : other ≠ name) :
    (t.insert name a).get? other = t.get? other := by
  simp [get?, insert, find?_insertEntry_other a t.entries h]

theorem get?_insert (t : Table α) (name other : String) (a : α) :
    (t.insert name a).get? other = if other = name then .some a else t.get? other := by
  split
  · rename_i h; rw [h, get?_insert_self]
  · rename_i h; exact get?_insert_other t a h

end Table

end Lockstep
