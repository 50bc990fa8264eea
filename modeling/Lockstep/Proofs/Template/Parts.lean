/-
The parts of a template: its nodes at all depths, and the references among
them. Names without a `#` are those a template can spell; the keys of lanes
without a label have one, so no such name is such a key
(`laneKey_ne_of_noHash`), and keys of different depths differ
(`laneKey_inj`).

Proofs about whole templates go by `Node.listInduction`: through a list of
nodes from left to right, and into the children of the groups.
-/
import Lockstep.Template.Lanes
import Std.Data.String.ToInt

namespace Lockstep

/-! ## Induction -/

/-- Induction on a list of nodes, by its first node; at a group what is to be shown is known of
the children too. -/
@[elab_as_elim]
theorem Node.listInduction {motive : List Node → Prop} (nil : motive [])
    (literal : ∀ text ns, motive ns → motive (.literal text :: ns))
    (shown : ∀ r ns, motive ns → motive (.shown r :: ns))
    (hidden : ∀ r ns, motive ns → motive (.hidden r :: ns))
    (group : ∀ children sep ns, motive children → motive ns → motive (.group children sep :: ns))
    (foreign : ∀ kind ns, motive ns → motive (.foreign kind :: ns)) : ∀ ns, motive ns
  | [] => nil
  | .literal text :: ns =>
    literal text ns (Node.listInduction nil literal shown hidden group foreign ns)
  | .shown r :: ns =>
    shown r ns (Node.listInduction nil literal shown hidden group foreign ns)
  | .hidden r :: ns =>
    hidden r ns (Node.listInduction nil literal shown hidden group foreign ns)
  | .group children sep :: ns =>
    group children sep ns (Node.listInduction nil literal shown hidden group foreign children)
      (Node.listInduction nil literal shown hidden group foreign ns)
  | .foreign kind :: ns =>
    foreign kind ns (Node.listInduction nil literal shown hidden group foreign ns)

/-! ## Parts -/

mutual
/-- A node, and the nodes at all depths inside it. -/
def Node.parts : Node → List Node
  | .group children sep => .group children sep :: partsList children
  | n => [n]

/-- The nodes of a template at all depths. -/
def Node.partsList : List Node → List Node
  | [] => []
  | n :: ns => n.parts ++ partsList ns
end

namespace Node

@[simp] theorem partsList_nil : partsList [] = [] := by
  simp only [partsList]

@[simp] theorem partsList_cons (n : Node) (ns : List Node) :
    partsList (n :: ns) = n.parts ++ partsList ns := by
  simp only [partsList]

theorem mem_parts_self (n : Node) : n ∈ n.parts := by
  cases n <;> simp [parts]

/-- The nodes of a template themselves are parts of it. -/
theorem mem_partsList_of_mem {n : Node} : ∀ {ns : List Node}, n ∈ ns → n ∈ partsList ns
  | m :: ns, h => by
    rw [partsList_cons, List.mem_append]
    rcases List.mem_cons.mp h with rfl | h
    · exact .inl (mem_parts_self n)
    · exact .inr (mem_partsList_of_mem h)

/-- What lies inside a group is part of it. -/
theorem mem_parts_group {n : Node} {children : List Node} {sep : Option String}
    (h : n ∈ partsList children) : n ∈ (group children sep).parts := by
  rw [parts]
  exact List.mem_cons_of_mem _ h

/-- The references of a template at all depths. -/
def references (ns : List Node) : List Reference :=
  (partsList ns).filterMap reference?

theorem mem_references {r : Reference} {ns : List Node} :
    r ∈ references ns ↔ ∃ n ∈ partsList ns, n.reference? = .some r :=
  List.mem_filterMap

theorem mem_references_of_mem {n : Node} {r : Reference} {ns : List Node} (hn : n ∈ ns)
    (hr : n.reference? = .some r) : r ∈ references ns :=
  mem_references.mpr ⟨n, mem_partsList_of_mem hn, hr⟩

/-! ## Properties of all parts

A template has such a property exactly if its first node and the others have it; a group's
children have it with the group. -/

theorem references_cons (n : Node) (ns : List Node) :
    references (n :: ns) = n.parts.filterMap reference? ++ references ns := by
  simp [references]

theorem references_subset_tail (n : Node) (ns : List Node) :
    references ns ⊆ references (n :: ns) := by
  rw [references_cons]
  exact List.subset_append_right _ _

theorem references_subset_children (children : List Node) (sep : Option String)
    (ns : List Node) : references children ⊆ references (.group children sep :: ns) := by
  intro r hr
  obtain ⟨n, hn, hr⟩ := mem_references.mp hr
  refine mem_references.mpr ⟨n, ?_, hr⟩
  rw [partsList_cons]
  exact List.mem_append_left _ (mem_parts_group hn)

end Node

/-! ## Names without a number sign -/

/-- The name holds no number sign. -/
def NoHash (name : String) : Prop := '#' ∉ name.toList

instance (name : String) : Decidable (NoHash name) :=
  inferInstanceAs (Decidable ('#' ∉ name.toList))

/-- No reference at any depth has a number sign in its name, or in the label it binds. -/
def HashFree (ns : List Node) : Prop :=
  ∀ r ∈ Node.references ns, ∀ name ∈ r.name :: r.bound.toList, NoHash name

instance (ns : List Node) : Decidable (HashFree ns) :=
  inferInstanceAs (Decidable (∀ r ∈ Node.references ns, ∀ name ∈ r.name :: r.bound.toList,
    NoHash name))

namespace HashFree

variable {n : Node} {ns body : List Node} {sep : Option String} {r : Reference}

theorem name (h : HashFree ns) (hr : r ∈ Node.references ns) : NoHash r.name :=
  h r hr r.name (by simp)

theorem bound (h : HashFree ns) (hr : r ∈ Node.references ns) {a : String}
    (ha : r.bound = .some a) : NoHash a :=
  h r hr a (by simp [ha])

theorem tail (h : HashFree (n :: ns)) : HashFree ns :=
  fun r hr => h r (Node.references_subset_tail n ns hr)

theorem children (h : HashFree (.group body sep :: ns)) : HashFree body :=
  fun r hr => h r (Node.references_subset_children body sep ns hr)

end HashFree

/-! ## Keys of lanes without a label -/

theorem toList_laneKey (name : String) (depth : Int) :
    (laneKey name depth).toList = name.toList ++ '#' :: depth.repr.toList := by
  have h : laneKey name depth = name ++ "#" ++ depth.repr := rfl
  rw [h, String.toList_append, String.toList_append, List.append_assoc]
  rfl

/-- No name that a template can spell is the key of a lane without a label. -/
theorem laneKey_ne_of_noHash {m : String} (h : NoHash m) (name : String) (depth : Int) :
    laneKey name depth ≠ m := by
  rintro rfl
  simp [NoHash, toList_laneKey] at h

theorem hash_not_mem_repr (n : Nat) : '#' ∉ n.repr.toList := by
  intro h
  have hd : '#'.isDigit = true := by
    refine Nat.isDigit_of_mem_toDigits (b := 10) (n := n) (by decide) (by decide) ?_
    simpa [Nat.repr] using h
  exact absurd hd (by decide)

theorem hash_not_mem_intRepr : ∀ depth : Int, '#' ∉ depth.repr.toList
  | .ofNat n => hash_not_mem_repr n
  | .negSucc n => by
    have h := hash_not_mem_repr (n + 1)
    have hm : ("-" : String).toList = ['-'] := by decide
    simpa [Int.repr, hm] using h

/-- Texts with one marked character behind which it does not come again fall apart in one way. -/
theorem append_cons_inj {α : Type} {x : α} {as as' bs bs' : List α} (hb : x ∉ bs) (hb' : x ∉ bs')
    (h : as ++ x :: bs = as' ++ x :: bs') : as = as' ∧ bs = bs' := by
  rcases List.append_eq_append_iff.mp h with ⟨cs, rfl, hc⟩ | ⟨cs, rfl, hc⟩
  · cases cs with
    | nil => simpa using hc
    | cons c cs =>
      simp only [List.cons_append, List.cons.injEq] at hc
      exact absurd (by simp [hc.2]) hb
  · cases cs with
    | nil => simpa using hc.symm
    | cons c cs =>
      simp only [List.cons_append, List.cons.injEq] at hc
      exact absurd (by simp [hc.2]) hb'

/-- The key of a lane without a label tells its name and its depth. -/
theorem laneKey_inj {name name' : String} {depth depth' : Int}
    (h : laneKey name depth = laneKey name' depth') : name = name' ∧ depth = depth' := by
  have hl := congrArg String.toList h
  rw [toList_laneKey, toList_laneKey] at hl
  obtain ⟨hn, hd⟩ := append_cons_inj (hash_not_mem_intRepr depth) (hash_not_mem_intRepr depth') hl
  exact ⟨String.toList_inj.mp hn, Int.repr_injective (String.toList_inj.mp hd)⟩

end Lockstep
