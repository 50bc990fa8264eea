/-
Stripping takes the common indentation away and nothing else
(`strip_dedents`).

What a line loses is a number of its blanks in front (`take_blank`), and what
is left of a line that holds more than blanks is indented by so much less
(`width_drop`). So the least indentation of what is left is zero
(`common_cut`), and a second stripping finds nothing to do. Blanks put in
front of the lines come away with the others, for they move the least
indentation as far as they move the lines (`common_shift`).
-/
import Lockstep.Text.Indent
import Lockstep.Proofs.Text.Pieces
import Mathlib.Data.List.Forall2

namespace Lockstep.Text.Indent

variable {n : Nat} {w line : List Char} {lines : List (List Char)}

/-! ## Lines -/

/-- The line holds more than blanks. -/
def isSolid (line : List Char) : Bool :=
  line.any fun c => !isBlank c

theorem not_isSolid_iff : isSolid line = false ↔ ∀ c ∈ line, isBlank c = true := by
  simp [isSolid]

theorem isSolid_append (hw : ∀ c ∈ w, isBlank c = true) (line : List Char) :
    isSolid (w ++ line) = isSolid line := by
  have hblank : isSolid w = false := not_isSolid_iff.mpr hw
  rw [isSolid, List.any_append, ← isSolid, ← isSolid, hblank, Bool.false_or]

/-- Blanks in front of a line add to its indentation. -/
theorem width_append (hw : ∀ c ∈ w, isBlank c = true) (line : List Char) :
    width (w ++ line) = w.length + width line := by
  rw [width, List.takeWhile_append_of_pos hw, List.length_append, width]

/-- The blanks a line begins with are blanks, as many of them as are asked for. -/
theorem take_blank (hn : n ≤ width line) : ∀ c ∈ line.take n, isBlank c = true := by
  intro c hc
  have hfront : line.take n = (line.takeWhile isBlank).take n := by
    conv_lhs => rw [← List.takeWhile_append_dropWhile (p := isBlank) (l := line)]
    exact List.take_append_of_le_length hn
  rw [hfront] at hc
  exact List.all_eq_true.mp List.all_takeWhile c (List.mem_of_mem_take hc)

theorem width_le_length (line : List Char) : width line ≤ line.length :=
  (List.takeWhile_sublist isBlank).length_le

theorem width_drop (hn : n ≤ width line) : width (line.drop n) = width line - n := by
  have hle : n ≤ line.length := Nat.le_trans hn (width_le_length line)
  have h := width_append (take_blank hn) (line.drop n)
  rw [List.take_append_drop, List.length_take_of_le hle] at h
  omega

/-- Behind its indentation a line that is solid goes on, with no blank. -/
theorem exists_drop_width (h : isSolid line = true) :
    ∃ c cs, line.drop (width line) = c :: cs ∧ isBlank c = false := by
  induction line with
  | nil => cases h
  | cons c cs ih =>
    cases hc : isBlank c with
    | true =>
      have hwidth : width (c :: cs) = width cs + 1 := by simp [width, hc]
      have hsolid : isSolid cs = true := by simpa [isSolid, hc] using h
      rw [hwidth, List.drop_succ_cons]
      exact ih hsolid
    | false =>
      have hwidth : width (c :: cs) = 0 := by simp [width, hc]
      rw [hwidth]
      exact ⟨c, cs, rfl, hc⟩

/-! ## Cutting -/

theorem cut_of_isSolid (h : isSolid line = true) (hn : n ≤ width line) :
    cut n line = line.drop n := by
  obtain ⟨c, cs, hdrop, -⟩ := exists_drop_width h
  have hlength := congrArg List.length hdrop
  rw [List.length_drop, List.length_cons] at hlength
  rw [cut, if_pos (by omega)]

/-- What the line loses are blanks at its front: a number of them that is the same for all lines
that are solid. -/
def Loses (n : Nat) (line line' : List Char) : Prop :=
  ∃ lost, line = lost ++ line' ∧ (∀ c ∈ lost, isBlank c = true) ∧
    (isSolid line = true → lost.length = n)

theorem loses_cut (hn : isSolid line = true → n ≤ width line) : Loses n line (cut n line) := by
  cases h : isSolid line with
  | true =>
    have hle : n ≤ line.length := Nat.le_trans (hn h) (width_le_length line)
    rw [cut_of_isSolid h (hn h)]
    exact ⟨line.take n, (List.take_append_drop n line).symm, take_blank (hn h),
      fun _ => List.length_take_of_le hle⟩
  | false =>
    have hblank := not_isSolid_iff.mp h
    have hnot : isSolid line = true → ∀ k, k = n := by
      intro hsolid
      rw [h] at hsolid
      cases hsolid
    unfold cut
    split
    · exact ⟨line.take n, (List.take_append_drop n line).symm,
        fun c hc => hblank c (List.mem_of_mem_take hc), fun hsolid => hnot hsolid _⟩
    · exact ⟨[], rfl, by simp, fun hsolid => hnot hsolid _⟩

/-! ## The least indentation -/

theorem common_eq : common lines = ((lines.filter isSolid).map width).min? := rfl

theorem common_eq_some : common lines = .some n ↔
    (∃ line ∈ lines, isSolid line = true ∧ width line = n) ∧
      ∀ line ∈ lines, isSolid line = true → n ≤ width line := by
  rw [common_eq, List.min?_eq_some_iff]
  simp only [List.mem_map, List.mem_filter, forall_exists_index, and_imp]
  refine and_congr ⟨?_, ?_⟩ ⟨?_, ?_⟩
  · rintro ⟨line, ⟨hmem, hsolid⟩, hwidth⟩
    exact ⟨line, hmem, hsolid, hwidth⟩
  · rintro ⟨line, hmem, hsolid, hwidth⟩
    exact ⟨line, ⟨hmem, hsolid⟩, hwidth⟩
  · exact fun h line hmem hsolid => h _ line hmem hsolid rfl
  · rintro h _ line hmem hsolid rfl
    exact h line hmem hsolid

theorem common_eq_none : common lines = .none ↔ ∀ line ∈ lines, isSolid line = false := by
  simp [common_eq, List.filter_eq_nil_iff]

/-- Cutting takes no character that is not blank, if it cuts no deeper than solid lines are
indented. -/
theorem isSolid_cut (hn : isSolid line = true → n ≤ width line) :
    isSolid (cut n line) = isSolid line := by
  obtain ⟨lost, hline, hblank, -⟩ := loses_cut hn
  conv_rhs => rw [hline]
  rw [isSolid_append hblank]

/-- **Cut by their least indentation, lines are not indented any more**: the least indented one
begins with no blank, and the others with none of those that are gone. -/
theorem common_cut (h : common lines = .some n) : common (lines.map (cut n)) = .some 0 := by
  obtain ⟨⟨line, hmem, hsolid, hwidth⟩, hleast⟩ := common_eq_some.mp h
  refine common_eq_some.mpr ⟨⟨cut n line, List.mem_map_of_mem hmem, ?_, ?_⟩, by simp⟩
  · rw [isSolid_cut (hleast line hmem), hsolid]
  · rw [cut_of_isSolid hsolid (Nat.le_of_eq hwidth.symm), width_drop (Nat.le_of_eq hwidth.symm),
      hwidth, Nat.sub_self]

/-! ## Stripping -/

theorem stripLines_of_some (h : common lines = .some n) : stripLines lines = lines.map (cut n) := by
  rw [stripLines, h]

theorem stripLines_of_none (h : common lines = .none) : stripLines lines = lines := by
  rw [stripLines, h]

theorem cut_zero (line : List Char) : cut 0 line = line := by
  unfold cut
  split <;> rfl

/-- Stripping cuts all lines alike, as deep as the least indented solid line is indented, if there is
one. -/
theorem stripLines_eq (lines : List (List Char)) : ∃ n, stripLines lines = lines.map (cut n) ∧
    (∀ line ∈ lines, isSolid line = true → n ≤ width line) ∧
    ((∃ line ∈ lines, isSolid line = true) →
      ∃ line ∈ lines, isSolid line = true ∧ width line = n) := by
  cases h : common lines with
  | none =>
    have hnone := common_eq_none.mp h
    have hno : ∀ line ∈ lines, isSolid line ≠ true := by simpa using hnone
    refine ⟨0, ?_, fun line _ _ => Nat.zero_le _, ?_⟩
    · rw [stripLines_of_none h, List.map_congr_left fun line _ => cut_zero line, List.map_id']
    · rintro ⟨line, hmem, hsolid⟩
      exact absurd hsolid (hno line hmem)
  | some n =>
    obtain ⟨hattained, hleast⟩ := common_eq_some.mp h
    exact ⟨n, stripLines_of_some h, hleast, fun _ => hattained⟩

theorem stripLines_stripLines (lines : List (List Char)) :
    stripLines (stripLines lines) = stripLines lines := by
  cases h : common lines with
  | none => rw [stripLines_of_none h, stripLines_of_none h]
  | some n =>
    rw [stripLines_of_some h, stripLines_of_some (common_cut h), List.map_congr_left
      fun line _ => cut_zero line, List.map_id']

/-- Stripped lines are the lines of the stripped text, for nothing that is stripped ends a line. -/
theorem split_strip (raw : String) :
    split '\n' (strip raw).toList = stripLines (split '\n' raw.toList) := by
  obtain ⟨n, hn, -⟩ := stripLines_eq (split '\n' raw.toList)
  rw [strip, String.toList_ofList, hn]
  refine split_join ?_ (by simp [split_ne_nil])
  intro _ hcut
  obtain ⟨line, hmem, rfl⟩ := List.mem_map.mp hcut
  have hline := not_mem_of_mem_split hmem
  unfold cut
  split
  · exact fun hdrop => hline (List.mem_of_mem_drop hdrop)
  · exact hline

theorem strip_eq_of_lines {raw raw' : String}
    (h : stripLines (split '\n' raw.toList) = stripLines (split '\n' raw'.toList)) :
    strip raw = strip raw' := by
  rw [strip, strip, h]

/-! ## Indenting -/

/-- The line with `w` in front of it, unless it is empty. -/
def shift (w line : List Char) : List Char :=
  if line.isEmpty then line else w ++ line

/-- The text with `w` in front of every line that is not empty. -/
def indent (w : List Char) (raw : String) : String :=
  String.ofList (join '\n' ((split '\n' raw.toList).map (shift w)))

theorem shift_of_isSolid (h : isSolid line = true) (w : List Char) : shift w line = w ++ line := by
  cases line with
  | nil => cases h
  | cons c cs => rfl

theorem isSolid_shift (hw : ∀ c ∈ w, isBlank c = true) (line : List Char) :
    isSolid (shift w line) = isSolid line := by
  unfold shift
  split
  · rfl
  · exact isSolid_append hw line

/-- **The least indentation moves with the lines.** -/
theorem common_shift (hw : ∀ c ∈ w, isBlank c = true) (h : common lines = .some n) :
    common (lines.map (shift w)) = .some (w.length + n) := by
  obtain ⟨⟨line, hmem, hsolid, hwidth⟩, hleast⟩ := common_eq_some.mp h
  refine common_eq_some.mpr ⟨⟨shift w line, List.mem_map_of_mem hmem, ?_, ?_⟩, ?_⟩
  · rw [isSolid_shift hw, hsolid]
  · rw [shift_of_isSolid hsolid, width_append hw, hwidth]
  · intro _ hshifted hsolid'
    obtain ⟨line', hmem', rfl⟩ := List.mem_map.mp hshifted
    rw [isSolid_shift hw] at hsolid'
    rw [shift_of_isSolid hsolid', width_append hw]
    exact Nat.add_le_add_left (hleast line' hmem' hsolid') _

/-- What was put in front of a line is cut away with its indentation. -/
theorem cut_shift (hw : ∀ c ∈ w, isBlank c = true) (hempty : isSolid line = false → line = [])
    (hn : isSolid line = true → n ≤ width line) :
    cut (w.length + n) (shift w line) = cut n line := by
  cases hsolid : isSolid line with
  | false =>
    rw [hempty hsolid]
    rfl
  | true =>
    have hsolid' : isSolid (w ++ line) = true := by rw [isSolid_append hw, hsolid]
    have hwidth : w.length + n ≤ width (w ++ line) := by
      rw [width_append hw]
      exact Nat.add_le_add_left (hn hsolid) _
    rw [shift_of_isSolid hsolid, cut_of_isSolid hsolid' hwidth, cut_of_isSolid hsolid (hn hsolid),
      ← List.drop_drop, List.drop_left]

theorem stripLines_shift (hw : ∀ c ∈ w, isBlank c = true)
    (hempty : ∀ line ∈ lines, isSolid line = false → line = []) :
    stripLines (lines.map (shift w)) = stripLines lines := by
  cases h : common lines with
  | none =>
    -- Where no line is solid all are empty, and stay so.
    have hsame : ∀ line ∈ lines, shift w line = line := by
      intro line hmem
      rw [hempty line hmem (common_eq_none.mp h line hmem)]
      rfl
    rw [List.map_congr_left hsame, List.map_id']
  | some n =>
    rw [stripLines_of_some h, stripLines_of_some (common_shift hw h), List.map_map]
    refine List.map_congr_left fun line hmem => ?_
    exact cut_shift hw (hempty line hmem) ((common_eq_some.mp h).2 line hmem)

theorem split_indent (hw : '\n' ∉ w) (raw : String) :
    split '\n' (indent w raw).toList = (split '\n' raw.toList).map (shift w) := by
  rw [indent, String.toList_ofList]
  refine split_join ?_ (by simp [split_ne_nil])
  intro _ hshifted
  obtain ⟨line, hmem, rfl⟩ := List.mem_map.mp hshifted
  have hline := not_mem_of_mem_split hmem
  unfold shift
  split
  · exact hline
  · simp [hw, hline]

end Lockstep.Text.Indent

namespace Lockstep.Text

open Indent

/-- **Stripping removes exactly the common indentation.** As many lines are left as there were, each
without some of the blanks at its front: all solid lines lose the same number of them, and then one
of those begins with no blank. A second stripping changes nothing. In a text in which all lines that
are not solid are empty, blanks put in front of the other lines make no difference. -/
theorem strip_dedents (raw : String) :
    let lines := split '\n' raw.toList
    let lines' := split '\n' (strip raw).toList
    lines'.length = lines.length ∧
    (∃ n, List.Forall₂ (Loses n) lines lines') ∧
    ((∃ line ∈ lines, isSolid line = true) → ∃ (i : Nat) (line cs : List Char) (c : Char),
      lines[i]? = .some line ∧ isSolid line = true ∧ lines'[i]? = .some (c :: cs) ∧
        isBlank c = false) ∧
    strip (strip raw) = strip raw ∧
    ∀ w, (∀ c ∈ w, isBlank c = true ∧ c ≠ '\n') →
      (∀ line ∈ lines, isSolid line = false → line = []) → strip (indent w raw) = strip raw := by
  intro lines lines'
  obtain ⟨n, hn, hleast, hattained⟩ := stripLines_eq lines
  have hlines : lines' = lines.map (cut n) := (split_strip raw).trans hn
  refine ⟨by rw [hlines, List.length_map], ⟨n, ?_⟩, fun hsome => ?_, ?_, ?_⟩
  · rw [hlines, List.forall₂_map_right_iff, List.forall₂_same]
    exact fun line hmem => loses_cut (hleast line hmem)
  · obtain ⟨line, hmem, hsolid, rfl⟩ := hattained hsome
    obtain ⟨i, hi⟩ := List.mem_iff_getElem?.mp hmem
    obtain ⟨c, cs, hdrop, hc⟩ := exists_drop_width hsolid
    refine ⟨i, line, cs, c, hi, hsolid, ?_, hc⟩
    rw [hlines, List.getElem?_map, hi, Option.map_some, cut_of_isSolid hsolid (Nat.le_refl _), hdrop]
  · refine strip_eq_of_lines ?_
    rw [split_strip, stripLines_stripLines]
  · intro w hw hempty
    refine strip_eq_of_lines ?_
    rw [split_indent (fun hmem => (hw '\n' hmem).2 rfl),
      stripLines_shift (fun c hc => (hw c hc).1) hempty]

/-- A block under a wide blank, with an empty line: two blanks come away from each line, and the two
that are put in front of them besides. -/
theorem strip_dedents_block :
    let raw := "  a:\n\n    b\n\u3000 c"
    let w := ['\t', '\u3000']
    (∃ line ∈ split '\n' raw.toList, isSolid line = true) ∧
      (∀ line ∈ split '\n' raw.toList, isSolid line = false → line = []) ∧
      (∀ c ∈ w, isBlank c = true ∧ c ≠ '\n') ∧ strip raw = "a:\n\n  b\nc" ∧
      (∃ (i : Nat) (line cs : List Char) (c : Char),
        (split '\n' raw.toList)[i]? = .some line ∧ isSolid line = true ∧
          (split '\n' (strip raw).toList)[i]? = .some (c :: cs) ∧ isBlank c = false) ∧
      strip (indent w raw) = "a:\n\n  b\nc" := by
  intro raw w
  have hsolid : ∃ line ∈ split '\n' raw.toList, isSolid line = true := by decide
  have hempty : ∀ line ∈ split '\n' raw.toList, isSolid line = false → line = [] := by decide
  have hw : ∀ c ∈ w, isBlank c = true ∧ c ≠ '\n' :=
    List.forall_mem_cons.mpr ⟨by decide, List.forall_mem_singleton.mpr (by decide)⟩
  have hstrip : strip raw = "a:\n\n  b\nc" := by decide
  obtain ⟨-, -, hbegins, -, hindent⟩ := strip_dedents raw
  exact ⟨hsolid, hempty, hw, hstrip, hbegins hsolid, (hindent w hw hempty).trans hstrip⟩

end Lockstep.Text
