/-
Excerpts show the place they are about (`report_located`): the line they show
is a line of the source, the one that the number says, and the caret stands
under the character at the position, or one past the end of the line.

The position cuts its line in two. What stands before it up to the last line
feed are the lines in front, and what follows up to the next one is the rest
of the line.
-/
import Lockstep.Template.Excerpt
import Lockstep.Proofs.Text.Pieces

namespace Lockstep.Excerpt

open Text (split split_around)

variable {cs : List Char} {p : Nat}

/-- Line and column, counted from one, are those of the position: the lines in front of the line,
each with its line feed, and the columns in front of the column come to the position. The text is
that line, and reaches to the column at least but for its last character. -/
structure Located (cs : List Char) (p line column : Nat) (text : List Char) : Prop where
  line_pos : 1 ≤ line
  column_pos : 1 ≤ column
  text_eq : (split '\n' cs)[line - 1]? = .some text
  position_eq : (((split '\n' cs).take (line - 1)).map (·.length + 1)).sum + (column - 1) = p
  column_le : column - 1 ≤ text.length

theorem dropWhile_cases (cs : List Char) : cs.dropWhile (· != '\n') = [] ∨
    ∃ ds, cs.dropWhile (· != '\n') = '\n' :: ds := by
  have hhead := List.head?_dropWhile_not (· != '\n') cs
  cases hrest : cs.dropWhile (· != '\n') with
  | nil => exact .inl rfl
  | cons c ds =>
    rw [hrest] at hhead
    obtain rfl : c = '\n' := by simpa using hhead
    exact .inr ⟨ds, rfl⟩

theorem not_mem_takeWhile (cs : List Char) : '\n' ∉ cs.takeWhile (· != '\n') := by
  intro h
  have hne := List.all_eq_true.mp List.all_takeWhile '\n' h
  simp at hne

/-- The last line feed parts a text: behind it stands what its last line has so far. -/
theorem exists_lineStart (cs : List Char) : ∃ before tail, cs = before ++ tail ∧
    tail.length = (cs.reverse.takeWhile (· != '\n')).length ∧ '\n' ∉ tail ∧
    (before = [] ∨ ∃ ds, before = ds ++ ['\n']) := by
  refine ⟨(cs.reverse.dropWhile (· != '\n')).reverse, (cs.reverse.takeWhile (· != '\n')).reverse,
    ?_, List.length_reverse, ?_, ?_⟩
  · rw [← List.reverse_append, List.takeWhile_append_dropWhile, List.reverse_reverse]
  · rw [List.mem_reverse]
    exact not_mem_takeWhile cs.reverse
  · rcases dropWhile_cases cs.reverse with hnone | ⟨ds, hds⟩
    · exact .inl (by rw [hnone, List.reverse_nil])
    · exact .inr ⟨ds.reverse, by rw [hds, List.reverse_cons]⟩

/-- **The line and the column of a position are its place.** -/
theorem located (h : p ≤ cs.length) :
    Located cs p (line cs p) (column cs p + 1) (lineText cs p) := by
  obtain ⟨before, tail, htake, htail, hno, hbefore⟩ := exists_lineStart (cs.take p)
  have hlength : before.length + tail.length = p := by
    rw [← List.length_append, ← htake, List.length_take_of_le h]
  have hstart : lineStart cs p = before.length := by
    rw [lineStart, ← htail, List.length_take_of_le h]
    omega
  have hcolumn : column cs p = tail.length := by
    rw [column, hstart]
    omega
  have hcs : cs = before ++ (tail ++ cs.drop p) := by
    rw [← List.append_assoc, ← htake, List.take_append_drop]
  have htext : lineText cs p = tail ++ (cs.drop p).takeWhile (· != '\n') := by
    have hfront : (cs.drop before.length).take tail.length = tail := by
      rw [hcs, List.drop_left, List.take_left]
    have hrest : p - before.length = tail.length := by omega
    rw [lineText, hstart, hrest, hfront]
  have hline : line cs p = before.count '\n' + 1 := by
    rw [line, htake, List.count_append, List.count_eq_zero.mpr hno, Nat.add_zero]
  have hpiece : '\n' ∉ lineText cs p := by
    rw [htext, List.mem_append, not_or]
    exact ⟨hno, not_mem_takeWhile _⟩
  obtain ⟨earlier, later, hsplit, hcount, hsum⟩ :=
    split_around hpiece hbefore (dropWhile_cases (cs.drop p))
  have hpieces : split '\n' cs = earlier ++ lineText cs p :: later := by
    rw [← hsplit, htext, List.append_assoc, List.takeWhile_append_dropWhile, ← hcs]
  have hnumber : line cs p - 1 = earlier.length := by
    rw [hline, hcount, Nat.add_sub_cancel]
  refine ⟨by rw [hline]; exact Nat.succ_pos _, Nat.succ_pos _, ?_, ?_, ?_⟩
  · rw [hnumber, hpieces, List.getElem?_append_right (Nat.le_refl _), Nat.sub_self]
    rfl
  · rw [hnumber, hpieces, List.take_left, hsum, Nat.add_sub_cancel, hcolumn, hlength]
  · rw [Nat.add_sub_cancel, hcolumn, htext, List.length_append]
    exact Nat.le_add_right _ _

/-- **What a complaint tells of a source**: the line and the column of the position, and below them
the line with the caret under the column. -/
theorem report_located {source : String} (hsource : source ≠ "") (hp : p ≤ source.length)
    (reason : String) :
    ∃ line column text, Located source.toList p line column text ∧
      report reason p source = s!"{reason} (line {line}, column {column})\n  " ++
        String.ofList text ++ "\n  " ++ String.ofList (List.replicate (column - 1) ' ') ++ "^" := by
  have hempty : source.isEmpty = false := by
    rw [← Bool.not_eq_true, String.isEmpty_iff]
    exact hsource
  refine ⟨line source.toList p, column source.toList p + 1, lineText source.toList p,
    located (by rwa [String.length_toList]), ?_⟩
  simp only [report, hempty, Nat.add_sub_cancel]
  rfl

end Lockstep.Excerpt
