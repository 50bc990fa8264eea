/-
Errors are found as early as they can be (`read_error_earliest`): what stands
before the character that an error is found at can be gone on with to a source
that is read, and no source that begins with what stands up to that character
can.

Every state of the reader has a way to the end (`run_reaches_end`): the part it
is in the middle of can be completed, and then the groups around it can be
closed one after another, by induction on the bodies that are open. So a text
in which no error is found has none.
-/
import Lockstep.Proofs.Template.Reads

namespace Lockstep

/-- Something that was begun is missing its end. Such an error lies where it was begun. -/
def Malformation.isUnfinished : Malformation → Bool
  | .danglingEscape | .groupUnterminated | .separatorUnterminated => true
  | _ => false

/-- The text can be gone on with to a source that is read. -/
def Viable (limit : Nat) (text : String) : Prop :=
  ∃ rest ns, readTemplate limit (text ++ rest) = .ok ns

namespace Reader

open Grammar

variable {limit p : Nat} {st st' st'' : State} {b b' : Body} {es es' : List Enclosing}
  {mode mode' : Mode} {c : Char} {cs ds : List Char} {e : ReadError}

/-! ## Every state has a way to the end -/

/-- From one state the reader comes to another, if the source goes on so. -/
def Leads (limit : Nat) (st st' : State) : Prop :=
  ∃ written, ∀ cs, run limit st (written ++ cs) = run limit st' cs

namespace Leads

theorem refl (st : State) : Leads limit st st :=
  ⟨[], fun _ => rfl⟩

theorem trans (h : Leads limit st st') (h' : Leads limit st' st'') : Leads limit st st'' := by
  obtain ⟨written, hr⟩ := h
  obtain ⟨more, hr'⟩ := h'
  refine ⟨written ++ more, fun cs => ?_⟩
  rw [List.append_assoc, hr, hr']

theorem step (h : stepMode limit ⟨b, es, mode, p⟩ c = .ok ⟨b', es', mode', p⟩) :
    Leads limit ⟨b, es, mode, p⟩ ⟨b', es', mode', p + 1⟩ :=
  ⟨[c], fun _ => run_of_step h⟩

end Leads

/-- An underscore goes on with every name, and may also begin one. -/
theorem continues_underscore (name : String) : continues name '_' = true := by
  unfold continues
  split <;> decide

theorem continues_push_brace (name : String) (c : Char) : continues (name.push c) '}' = false := by
  have hpush : (name.push c).isEmpty = false := by
    rw [← Bool.not_eq_true, String.isEmpty_iff, ← String.toList_inj]
    simp
  simp only [continues, hpush]
  decide

/-- A name without braces ends where a space is. -/
theorem leads_bare (limit : Nat) (b : Body) (es : List Enclosing) (s : Sigil) (name : String)
    (p : Nat) : ∃ b' p', Leads limit ⟨b, es, .bare s name, p⟩ ⟨b', es, .text, p'⟩ := by
  have hstop : isNamePart ' ' = false := by decide
  have hspace : stepMode limit ⟨b, es, .bare s name, p⟩ ' ' =
      .ok ⟨(b.add (s.node ⟨name, .none⟩)).push ' ', es, .text, p⟩ := by
    simp [stepMode, stepText, hstop, State.add, State.push]
  exact ⟨_, _, .step hspace⟩

theorem leads_braced (limit : Nat) (b : Body) (es : List Enclosing) (s : Sigil) (name : String)
    (p : Nat) : ∃ b' p', Leads limit ⟨b, es, .braced s name, p⟩ ⟨b', es, .text, p'⟩ := by
  have hclose : stepMode limit ⟨b, es, .braced s (name.push '_'), p + 1⟩ '}' =
      .ok ⟨b.add (s.node ⟨name.push '_', .none⟩), es, .text, p + 1⟩ := by
    simp [stepMode, continues_push_brace, State.add]
  have hname := (scans_braced limit b es s).step name '_' p (continues_underscore name)
  exact ⟨_, _, (Leads.step hname).trans (.step hclose)⟩

theorem leads_labelled (limit : Nat) (b : Body) (es : List Enclosing) (s : Sigil)
    (name label : String) (p : Nat) :
    ∃ b' p', Leads limit ⟨b, es, .labelled s name label, p⟩ ⟨b', es, .text, p'⟩ := by
  have hclose : stepMode limit ⟨b, es, .labelled s name (label.push '_'), p + 1⟩ '}' =
      .ok ⟨b.add (s.node ⟨name, .some (label.push '_')⟩), es, .text, p + 1⟩ := by
    simp [stepMode, continues_push_brace, State.add]
  have hlabel := (scans_labelled limit b es s name).step label '_' p (continues_underscore label)
  exact ⟨_, _, (Leads.step hlabel).trans (.step hclose)⟩

/-- **The part that the reader is in the middle of can be completed**: a name by one character more
and what ends it, a group by a star. -/
theorem leads_text (limit : Nat) (b : Body) (es : List Enclosing) (mode : Mode) (p : Nat) :
    ∃ b' p', Leads limit ⟨b, es, mode, p⟩ ⟨b', es, .text, p'⟩ := by
  cases mode with
  | text => exact ⟨b, p, .refl _⟩
  | escape => exact ⟨_, _, .step (step_escaped b es '_' p)⟩
  | sigil s =>
    obtain ⟨b', p', hname⟩ := leads_bare limit b es s (String.singleton '_') (p + 1)
    exact ⟨b', p', (Leads.step (step_name b es s p (by decide))).trans hname⟩
  | bare s name => exact leads_bare limit b es s name p
  | braced s name => exact leads_braced limit b es s name p
  | labelled s name label => exact leads_labelled limit b es s name label p
  | closed children => exact ⟨_, _, .step (step_closed_star b es children p)⟩
  | separator children opened text =>
    exact ⟨_, _, (Leads.step (step_separator_close b es children opened text p)).trans
      (.step (step_separated_star b es children text (p + 1)))⟩
  | separated children text => exact ⟨_, _, .step (step_separated_star b es children text p)⟩

/-- A body is closed behind the parentheses that are open in it, and its group by a star. -/
theorem leads_out (limit : Nat) (b : Body) (e : Enclosing) (es : List Enclosing) (p : Nat) :
    ∃ b' p', Leads limit ⟨b, e :: es, .text, p⟩ ⟨b', es, .text, p'⟩ := by
  induction hq : b.parens generalizing b p with
  | zero =>
    exact ⟨_, _, (Leads.step (step_close b e es p hq)).trans
      (.step (step_closed_star e.body es b.toNodes (p + 1)))⟩
  | succ q ih =>
    -- Where a parenthesis is open, a closing one is text and leaves one fewer.
    have hs : Stands (.body (q + 1)) b (e :: es) := ⟨by simp, hq⟩
    have hplace : (Place.body (q + 1)).after? ')' = .some (.body q) := rfl
    have hclose : stepMode limit ⟨b, e :: es, .text, p⟩ ')' =
        .ok ⟨{ b.push ')' with parens := q }, e :: es, .text, p⟩ :=
      step_char hs (by decide) hplace p
    obtain ⟨b', p', hrest⟩ := ih { b.push ')' with parens := q } (p + 1) rfl
    exact ⟨b', p', (Leads.step hclose).trans hrest⟩

/-- The groups that are open can be closed, by induction on the bodies set aside for them. -/
theorem leads_top (limit : Nat) (b : Body) (es : List Enclosing) (p : Nat) :
    ∃ b' p', Leads limit ⟨b, es, .text, p⟩ ⟨b', [], .text, p'⟩ := by
  induction es generalizing b p with
  | nil => exact ⟨b, p, .refl _⟩
  | cons e es ih =>
    obtain ⟨b', p', hout⟩ := leads_out limit b e es p
    obtain ⟨b'', p'', htop⟩ := ih b' p'
    exact ⟨b'', p'', hout.trans htop⟩

/-- **Every state has a way to the end.** -/
theorem run_reaches_end (limit : Nat) (st : State) : ∃ cs ns, run limit st cs = .ok ns := by
  obtain ⟨b, p, hpart⟩ := leads_text limit st.body st.outer st.mode st.position
  obtain ⟨b', p', htop⟩ := leads_top limit b st.outer p
  obtain ⟨written, hr⟩ := hpart.trans htop
  exact ⟨written ++ [], b'.toNodes, hr []⟩

/-! ## Where errors lie -/

/-- An error of a step lies at the character that is read; or it is that groups nest too deep. -/
theorem stepMode_eq_error (h : stepMode limit st c = .error e) :
    e = .tooDeep limit ∨ ∃ what, e = .malformed what st.position ∧ what.isUnfinished = false := by
  obtain ⟨b, es, mode, p⟩ := st
  cases mode with
  | text | escape => cases h
  | sigil s =>
    simp only [stepMode] at h
    split at h
    · cases h
    · split at h
      -- Only the parenthesis that opens a group looks at the limit.
      · split at h
        · cases h
          exact .inl rfl
        · cases h
      · split at h
        · cases h
        · cases h
          exact .inr ⟨_, rfl, rfl⟩
  | bare s name =>
    simp only [stepMode] at h
    split at h <;> cases h
  | braced s name =>
    simp only [stepMode] at h
    split at h
    · cases h
    · split at h
      · cases h
        exact .inr ⟨_, rfl, rfl⟩
      · split at h
        · cases h
        · split at h
          · cases h
          · cases h
            exact .inr ⟨_, rfl, rfl⟩
  | labelled s name label =>
    simp only [stepMode] at h
    split at h
    · cases h
    · split at h
      · cases h
        exact .inr ⟨_, rfl, rfl⟩
      · split at h
        · cases h
        · cases h
          exact .inr ⟨_, rfl, rfl⟩
  | closed children =>
    simp only [stepMode] at h
    split at h
    · cases h
    · split at h <;> cases h
  | separator children opened text =>
    simp only [stepMode] at h
    split at h <;> cases h
  | separated children text =>
    simp only [stepMode] at h
    split at h
    · cases h
    · cases h
      exact .inr ⟨_, rfl, rfl⟩

theorem close_eq_error (h : st.close = .error e) :
    ∃ p, e = .malformed .groupUnterminated p := by
  obtain ⟨b, es, mode, p⟩ := st
  cases es with
  | nil => cases h
  | cons e es =>
    cases h
    exact ⟨_, rfl⟩

/-- An error at the end of the source lies there; or it is that something is unfinished. -/
theorem finish_eq_error (h : finish st = .error e) :
    ∃ what p, e = .malformed what p ∧ (what.isUnfinished = true ∨ p = st.position) := by
  obtain ⟨b, es, mode, p⟩ := st
  cases mode with
  | text | bare =>
    obtain ⟨p, rfl⟩ := close_eq_error h
    exact ⟨_, _, rfl, .inl rfl⟩
  | escape | separator =>
    cases h
    exact ⟨_, _, rfl, .inl rfl⟩
  | sigil | braced | labelled | closed | separated =>
    cases h
    exact ⟨_, _, rfl, .inr rfl⟩

theorem step_position (h : step limit st c = .ok st') : st'.position = st.position + 1 := by
  rw [step] at h
  cases hmode : stepMode limit st c with
  | error e =>
    rw [hmode] at h
    cases h
  | ok next =>
    rw [hmode] at h
    cases h
    rfl

theorem step_eq_error : step limit st c = .error e ↔ stepMode limit st c = .error e := by
  rw [step]
  cases stepMode limit st c <;> simp [Except.map]

/-- What every step keeps of a state and of the text that has been read, a run keeps, by induction
on what is read. -/
theorem readFrom_keeps {P : State → List Char → Prop}
    (hP : ∀ st st' cs c, P st cs → step limit st c = .ok st' → P st' (cs ++ [c])) (h : P st cs)
    (hread : readFrom limit st ds = .ok st') : P st' (cs ++ ds) := by
  induction ds generalizing st cs with
  | nil =>
    cases hread
    rwa [List.append_nil]
  | cons c ds ih =>
    rw [readFrom] at hread
    cases hstep : step limit st c with
    | error e =>
      rw [hstep] at hread
      cases hread
    | ok next =>
      rw [hstep] at hread
      have hall := ih (hP st next cs c h hstep) hread
      rwa [List.append_assoc] at hall

/-- A state knows how many characters have been read. -/
theorem readFrom_position (h : readFrom limit st cs = .ok st') :
    st'.position = st.position + cs.length := by
  have hP : ∀ mid mid' cs c, mid.position = st.position + cs.length →
      step limit mid c = .ok mid' → mid'.position = st.position + (cs ++ [c]).length := by
    intro mid mid' cs c hmid hstep
    rw [step_position hstep, hmid, List.length_append, List.length_singleton, Nat.add_assoc]
  have hstart : st.position = st.position + ([] : List Char).length := rfl
  exact readFrom_keeps hP hstart h

/-- Where reading stops, a character was read that it could not go on with. -/
theorem readFrom_eq_error (h : readFrom limit st cs = .error e) :
    ∃ before c after mid, cs = before ++ c :: after ∧ readFrom limit st before = .ok mid ∧
      stepMode limit mid c = .error e := by
  induction cs generalizing st with
  | nil => cases h
  | cons c cs ih =>
    rw [readFrom] at h
    cases hstep : step limit st c with
    | error e' =>
      rw [hstep] at h
      cases h
      exact ⟨[], c, cs, st, rfl, rfl, step_eq_error.mp hstep⟩
    | ok next =>
      rw [hstep] at h
      obtain ⟨before, d, after, mid, rfl, hbefore, hd⟩ := ih h
      refine ⟨c :: before, d, after, mid, rfl, ?_, hd⟩
      rw [readFrom, hstep]
      exact hbefore

/-! ## Sources -/

/-- Reading a source stops at one of its characters, where an error lies or groups nest too deep; or
it goes to the end, where an error lies or something is unfinished. -/
theorem readTemplate_eq_error {source : String} (h : readTemplate limit source = .error e) :
    (∃ before c after mid, source.toList = before ++ c :: after ∧
      readFrom limit {} before = .ok mid ∧ stepMode limit mid c = .error e ∧
      (e = .tooDeep limit ∨
        ∃ what, e = .malformed what before.length ∧ what.isUnfinished = false)) ∨
    (∃ mid what p, readFrom limit {} source.toList = .ok mid ∧ e = .malformed what p ∧
      (what.isUnfinished = true ∨ p = source.length)) := by
  have hposition : ∀ {cs mid}, readFrom limit {} cs = .ok mid → mid.position = cs.length := by
    intro cs mid hmid
    rw [readFrom_position hmid]
    exact Nat.zero_add _
  cases hread : readFrom limit {} source.toList with
  | error e' =>
    rw [readTemplate, readChars, hread] at h
    cases h
    obtain ⟨before, c, after, mid, hcs, hmid, hstep⟩ := readFrom_eq_error hread
    have hcase := stepMode_eq_error hstep
    rw [hposition hmid] at hcase
    exact .inl ⟨before, c, after, mid, hcs, hmid, hstep, hcase⟩
  | ok mid =>
    rw [readTemplate, readChars, hread] at h
    obtain ⟨what, p, he, hcase⟩ := finish_eq_error h
    rw [hposition hread, String.length_toList] at hcase
    exact .inr ⟨mid, what, p, rfl, he, hcase⟩

/-- A text in which reading does not stop can be gone on with. -/
theorem viable_of_readFrom {text : String} {mid : State}
    (h : readFrom limit {} text.toList = .ok mid) : Viable limit text := by
  obtain ⟨cs, ns, hr⟩ := run_reaches_end limit mid
  refine ⟨String.ofList cs, ns, ?_⟩
  rw [readTemplate, readChars, String.toList_append, String.toList_ofList, readFrom_append, h]
  exact hr

/-- Where reading stops it does so whatever follows. -/
theorem readTemplate_of_stops {text : String} {before : List Char} {mid : State}
    (htext : text.toList = before ++ [c]) (hmid : readFrom limit {} before = .ok mid)
    (hstep : stepMode limit mid c = .error e) (rest : String) :
    readTemplate limit (text ++ rest) = .error e := by
  rw [readTemplate, readChars, String.toList_append, htext, List.append_assoc, readFrom_append,
    hmid]
  exact run_of_error hstep

end Reader

open Reader

/-- **Errors are found as early as they can be.** Where a source is malformed at one of its
characters, and not for the lack of an end, the text before that character can still be gone on
with to a source that is read, and no text that goes on with the character can: the error is the
same. Where it is malformed otherwise, it can be gone on with itself. That groups nest too deep is
an error of all that goes on. -/
theorem read_error_earliest (limit : Nat) (source : String) :
    (∀ what p, readTemplate limit source = .error (.malformed what p) →
      p < source.length → what.isUnfinished = false →
      Viable limit (String.ofList (source.toList.take p)) ∧
      ∀ rest, readTemplate limit (String.ofList (source.toList.take (p + 1)) ++ rest) =
        .error (.malformed what p)) ∧
    (∀ what p, readTemplate limit source = .error (.malformed what p) →
      ¬ (p < source.length ∧ what.isUnfinished = false) → Viable limit source) ∧
    (∀ l, readTemplate limit source = .error (.tooDeep l) →
      ∀ rest, readTemplate limit (source ++ rest) = .error (.tooDeep l)) := by
  refine ⟨fun what p h hp hwhat => ?_, fun what p h hend => ?_, fun l h rest => ?_⟩
  · rcases readTemplate_eq_error h with
      ⟨before, c, after, mid, hcs, hmid, hstep, hcase⟩ | ⟨mid, what', p', -, he, hcase⟩
    · obtain rfl : p = before.length := by
        rcases hcase with hdeep | ⟨what', he, -⟩
        · cases hdeep
        · cases he
          rfl
      have hbefore : readFrom limit {} (String.ofList (source.toList.take before.length)).toList =
          .ok mid := by
        rw [String.toList_ofList, hcs, List.take_left, hmid]
      have hthrough : source.toList.take (before.length + 1) = before ++ [c] := by
        rw [hcs, List.take_length_add_append]
        rfl
      refine ⟨viable_of_readFrom hbefore, readTemplate_of_stops ?_ hmid hstep⟩
      rw [String.toList_ofList, hthrough]
    · cases he
      rcases hcase with hunfinished | hlast
      · rw [hwhat] at hunfinished
        cases hunfinished
      · exact absurd hlast (Nat.ne_of_lt hp)
  · rcases readTemplate_eq_error h with
      ⟨before, c, after, mid, hcs, -, -, hcase⟩ | ⟨mid, -, -, hmid, -, -⟩
    · have hlength : source.length = before.length + (after.length + 1) := by
        rw [← String.length_toList, hcs, List.length_append, List.length_cons]
      rcases hcase with hdeep | ⟨what', he, hnot⟩
      · cases hdeep
      · cases he
        exact absurd ⟨by omega, hnot⟩ hend
    · exact viable_of_readFrom hmid
  · rcases readTemplate_eq_error h with
      ⟨before, c, after, mid, hcs, hmid, hstep, -⟩ | ⟨mid, what, p, -, he, -⟩
    · have hsplit : source ++ rest =
          String.ofList (before ++ [c]) ++ (String.ofList after ++ rest) := by
        rw [← String.toList_inj]
        simp [hcs]
      rw [hsplit]
      exact readTemplate_of_stops String.toList_ofList hmid hstep _
    · cases he

/-- An error at a character, behind a name between braces; a group without its end; groups that nest
too deep. -/
theorem read_error_earliest_group :
    (Viable 1 "a$($\x7bx" ∧
      ∀ rest, readTemplate 1 ("a$($\x7bx " ++ rest) = .error (.malformed .bindingUnfinished 6)) ∧
    Viable 1 "a$(b" ∧
    ∀ rest, readTemplate 1 ("$($(" ++ rest) = .error (.tooDeep 1) := by
  refine ⟨?_, ?_, ?_⟩
  · exact (read_error_earliest 1 "a$($\x7bx y").1 .bindingUnfinished 6 rfl (by decide) rfl
  · exact (read_error_earliest 1 "a$(b").2.1 .groupUnterminated 1 rfl (by decide)
  · exact (read_error_earliest 1 "$($(").2.2 1 rfl

end Lockstep
