/-
Pieces of a text against the lists of the library (`split_eq_splitOn`,
`join_eq_intercalate`). Cutting and joining undo each other (`split_join`), a
text cut at a separator is cut on both sides of it (`split_append_cons`), and
the pieces with their separators are as long as the text
(`length_of_split`).
-/
import Lockstep.Text.Pieces
import Mathlib.Algebra.GroupWithZero.Nat

namespace Lockstep.Text

variable {sep : Char} {p cs ds : List Char} {ps : List (List Char)}

theorem split_cons (sep c : Char) (cs : List Char) :
    split sep (c :: cs) =
      if c = sep then [] :: split sep cs else (split sep cs).modifyHead (c :: ·) := by
  rw [split]
  split
  · rfl
  · cases hs : split sep cs with
    | nil => exact absurd hs (split_ne_nil sep cs)
    | cons p ps => rfl

theorem split_eq_splitOn (sep : Char) (cs : List Char) : split sep cs = cs.splitOn sep := by
  induction cs with
  | nil => rfl
  | cons c cs ih =>
    rw [split_cons, List.splitOn_cons_eq_if_modifyHead, ih]
    simp only [beq_iff_eq]

theorem join_eq_intercalate (sep : Char) (ps : List (List Char)) :
    join sep ps = [sep].intercalate ps := by
  induction ps with
  | nil => rfl
  | cons p ps ih =>
    cases ps with
    | nil => simp [join]
    | cons q ps =>
      rw [join_cons_cons, ih]
      simp

/-- Pieces that hold no separator are what their join is cut into. -/
theorem split_join (hps : ∀ p ∈ ps, sep ∉ p) (hne : ps ≠ []) : split sep (join sep ps) = ps := by
  rw [split_eq_splitOn, join_eq_intercalate, List.splitOn_intercalate sep hps hne]

theorem split_append_cons (sep : Char) (cs ds : List Char) :
    split sep (cs ++ sep :: ds) = split sep cs ++ split sep ds := by
  simp only [split_eq_splitOn, List.splitOn_append_cons_self]

theorem split_of_not_mem (h : sep ∉ cs) : split sep cs = [cs] := by
  rw [split_eq_splitOn, List.splitOn_eq_singleton h]

/-- No piece holds the separator. -/
theorem not_mem_of_mem_split (h : p ∈ split sep cs) : sep ∉ p := by
  induction cs generalizing p with
  | nil =>
    rw [split, List.mem_singleton] at h
    rw [h]
    exact List.not_mem_nil
  | cons c cs ih =>
    rw [split_cons] at h
    split at h
    · rcases List.mem_cons.mp h with rfl | h
      · exact List.not_mem_nil
      · exact ih h
    · next hc =>
      cases hs : split sep cs with
      | nil => exact absurd hs (split_ne_nil sep cs)
      | cons q qs =>
        rw [hs] at h ih
        rcases List.mem_cons.mp h with rfl | h
        · rw [List.mem_cons, not_or]
          exact ⟨fun he => hc he.symm, ih List.mem_cons_self⟩
        · exact ih (List.mem_cons_of_mem q h)

/-- There is one piece more than separators. -/
theorem length_split (sep : Char) (cs : List Char) : (split sep cs).length = cs.count sep + 1 := by
  induction cs with
  | nil => rfl
  | cons c cs ih =>
    rw [split_cons]
    split
    · next hc => simp [hc, ih]
    · next hc => simp [List.count_cons_of_ne hc, ih]

/-- The pieces, each with the separator behind it, are longer than the text by one. -/
theorem length_of_split (sep : Char) (cs : List Char) :
    ((split sep cs).map (·.length + 1)).sum = cs.length + 1 := by
  induction cs with
  | nil => rfl
  | cons c cs ih =>
    rw [split_cons]
    split
    · simp [ih]
      omega
    · cases hs : split sep cs with
      | nil => exact absurd hs (split_ne_nil sep cs)
      | cons p ps =>
        rw [hs] at ih
        simp only [List.map_cons, List.sum_cons, List.modifyHead_cons, List.length_cons] at ih ⊢
        omega

/-- **A piece between two ends is a piece of the text**, behind those of what stands before it: as many
as that holds separators, and as long as that with the separators behind them. -/
theorem split_around {before piece after : List Char} (hpiece : sep ∉ piece)
    (hbefore : before = [] ∨ ∃ cs, before = cs ++ [sep])
    (hafter : after = [] ∨ ∃ cs, after = sep :: cs) :
    ∃ earlier later, split sep (before ++ (piece ++ after)) = earlier ++ piece :: later ∧
      earlier.length = before.count sep ∧ (earlier.map (·.length + 1)).sum = before.length := by
  obtain ⟨later, hlater⟩ : ∃ later, split sep (piece ++ after) = piece :: later := by
    rcases hafter with rfl | ⟨cs, rfl⟩
    · rw [List.append_nil, split_of_not_mem hpiece]
      exact ⟨[], rfl⟩
    · rw [split_append_cons, split_of_not_mem hpiece]
      exact ⟨split sep cs, rfl⟩
  rcases hbefore with rfl | ⟨cs, rfl⟩
  · exact ⟨[], later, hlater, rfl, rfl⟩
  · refine ⟨split sep cs, later, ?_, ?_, ?_⟩
    · rw [List.append_assoc, List.singleton_append, split_append_cons, hlater]
    · rw [length_split, List.count_append, List.count_singleton_self]
    · rw [length_of_split, List.length_append, List.length_singleton]

end Lockstep.Text
