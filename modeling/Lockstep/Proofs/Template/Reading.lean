/-
How the reader goes through a text: what it makes of a reference and of a
separator, the two things it is in the middle of for more than one character.
Each has two lemmas: a text of that form is read as what it spells
(`run_refers`, `run_separates`), and where reading comes to an end without an
error the text has that form (`refers_of_run`, `separates_of_run`).

Positions are told apart from the rest of a state, for they matter to errors
alone.
-/
import Lockstep.Proofs.Template.Grammar

namespace Lockstep.Reader

open Grammar (sigilChar Refers Separates)

variable {limit p : Nat} {st : State} {b b' : Body} {es es' : List Enclosing} {mode mode' : Mode}
  {c : Char} {cs rest : List Char} {ns children : List Node} {r : Reference} {name text : String}
  {s : Sigil} {e : ReadError}

/-- What comes of reading on from a state to the end of the source. -/
def run (limit : Nat) (st : State) (cs : List Char) : Except ReadError (List Node) :=
  (readFrom limit st cs).bind finish

theorem run_nil (limit : Nat) (st : State) : run limit st [] = finish st := rfl

theorem run_of_step (h : stepMode limit ⟨b, es, mode, p⟩ c = .ok ⟨b', es', mode', p⟩) :
    run limit ⟨b, es, mode, p⟩ (c :: cs) = run limit ⟨b', es', mode', p + 1⟩ cs := by
  rw [run, readFrom, step, h]
  rfl

theorem run_of_error (h : stepMode limit st c = .error e) : run limit st (c :: cs) = .error e := by
  rw [run, readFrom, step, h]
  rfl

/-! ## Names -/

/-- A name is begun by a character that may begin one, and gone on with by any part of a name. -/
theorem isIdentifier_push (h : name = "" ∨ isIdentifier name = true) :
    isIdentifier (name.push c) = continues name c := by
  have hpush : (name.push c).toList = name.toList ++ [c] := String.toList_push c
  unfold isIdentifier at h ⊢
  rw [hpush]
  cases hn : name.toList with
  | nil =>
    have hempty : name.isEmpty = true := by
      rw [String.isEmpty_iff, ← String.toList_inj, hn]
      rfl
    simp [continues, hempty]
  | cons d ds =>
    have hempty : name.isEmpty = false := by
      rw [← Bool.not_eq_true, String.isEmpty_iff]
      rintro rfl
      cases hn
    rw [hn] at h
    have h := h.resolve_left (by rintro rfl; cases hn)
    simp only [Bool.and_eq_true] at h
    simp [continues, hempty, h.1, h.2]

theorem ne_empty_of_isIdentifier (h : isIdentifier name = true) : name ≠ "" := by
  rintro rfl
  cases h

theorem continues_of_isIdentifier (h : isIdentifier name = true) (c : Char) :
    continues name c = isNamePart c := by
  simp [continues, ne_empty_of_isIdentifier h]

theorem empty_append_ofList (cs : List Char) : "" ++ String.ofList cs = String.ofList cs := by
  rw [← String.toList_inj]
  simp

/-- The modes in the middle of a name between braces. -/
structure Scans (limit : Nat) (b : Body) (es : List Enclosing) (mode : String → Mode) : Prop where
  step : ∀ name c p, continues name c = true →
    stepMode limit ⟨b, es, mode name, p⟩ c = .ok ⟨b, es, mode (name.push c), p⟩
  start : ∀ c p, continues "" c = false → ∃ e, stepMode limit ⟨b, es, mode "", p⟩ c = .error e
  finish : ∀ name p, ∃ e, finish ⟨b, es, mode name, p⟩ = .error e

theorem scans_braced (limit : Nat) (b : Body) (es : List Enclosing) (s : Sigil) :
    Scans limit b es (.braced s) where
  step name c p h := by simp [stepMode, h]
  start c p h := by simp [stepMode, h]
  finish name p := by simp [Reader.finish]

theorem scans_labelled (limit : Nat) (b : Body) (es : List Enclosing) (s : Sigil) (name : String) :
    Scans limit b es (.labelled s name) where
  step label c p h := by simp [stepMode, h]
  start c p h := by simp [stepMode, h]
  finish label p := by simp [Reader.finish]

theorem push_append_ofList (name : String) (c : Char) (cs : List Char) :
    name.push c ++ String.ofList cs = name ++ String.ofList (c :: cs) := by
  rw [← String.toList_inj]
  simp

theorem append_ofList_nil (name : String) : name ++ String.ofList [] = name := by
  rw [← String.toList_inj]
  simp

/-- If a name that goes on is an identifier, the first character it goes on with may do so, and
what it has become is an identifier. -/
theorem isIdentifier_of_append (h : name = "" ∨ isIdentifier name = true)
    (hall : isIdentifier (name ++ String.ofList (c :: cs)) = true) :
    continues name c = true ∧ isIdentifier (name.push c) = true := by
  have hpush : isIdentifier (name.push c) = true := by
    unfold isIdentifier at hall ⊢
    rw [String.toList_push]
    rw [String.toList_append, String.toList_ofList] at hall
    cases hn : name.toList with
    | nil =>
      rw [hn] at hall
      simp only [List.nil_append, Bool.and_eq_true] at hall
      simp [hall.1]
    | cons d ds =>
      rw [hn] at hall
      simp only [List.cons_append, List.all_append, List.all_cons, Bool.and_eq_true] at hall
      simp [hall.1, hall.2.1, hall.2.2.1]
  rw [isIdentifier_push h] at hpush
  exact ⟨hpush, isIdentifier_push h ▸ hpush⟩

namespace Scans

variable {scan : String → Mode}

/-- A name is read to its end. -/
theorem run_more (h : Scans limit b es scan) {more : List Char}
    (hname : name = "" ∨ isIdentifier name = true)
    (hall : isIdentifier (name ++ String.ofList more) = true) (p : Nat) (cs : List Char) :
    ∃ p', run limit ⟨b, es, scan name, p⟩ (more ++ cs) =
      run limit ⟨b, es, scan (name ++ String.ofList more), p'⟩ cs := by
  induction more generalizing name p with
  | nil =>
    rw [append_ofList_nil]
    exact ⟨p, rfl⟩
  | cons c more ih =>
    obtain ⟨hcont, hpush⟩ := isIdentifier_of_append hname hall
    rw [← push_append_ofList] at hall ⊢
    obtain ⟨p', hp'⟩ := ih (.inr hpush) hall (p + 1)
    exact ⟨p', (run_of_step (h.step name c p hcont)).trans hp'⟩

/-- Where reading comes to an end, a name has one, and is an identifier. -/
theorem more_of_run (h : Scans limit b es scan) (hname : name = "" ∨ isIdentifier name = true)
    (hr : run limit ⟨b, es, scan name, p⟩ cs = .ok ns) :
    ∃ more c rest p', cs = more ++ c :: rest ∧ isIdentifier (name ++ String.ofList more) = true ∧
      continues (name ++ String.ofList more) c = false ∧
      run limit ⟨b, es, scan (name ++ String.ofList more), p'⟩ (c :: rest) = .ok ns := by
  induction cs generalizing name p with
  | nil =>
    obtain ⟨e, he⟩ := h.finish name p
    rw [run_nil, he] at hr
    cases hr
  | cons c cs ih =>
    cases hcont : continues name c with
    | true =>
      rw [run_of_step (h.step name c p hcont)] at hr
      have hpush : isIdentifier (name.push c) = true := isIdentifier_push hname ▸ hcont
      obtain ⟨more, d, rest, p', rfl, hall, hstop, hr⟩ := ih (.inr hpush) hr
      rw [push_append_ofList] at hall hstop hr
      exact ⟨c :: more, d, rest, p', rfl, hall, hstop, hr⟩
    | false =>
      rcases hname with rfl | hname
      · obtain ⟨e, he⟩ := h.start c p hcont
        rw [run_of_error he] at hr
        cases hr
      · refine ⟨[], c, cs, p, rfl, ?_, ?_, ?_⟩
        · rw [append_ofList_nil]
          exact hname
        · rw [append_ofList_nil]
          exact hcont
        · rw [append_ofList_nil]
          exact hr

/-- A name between braces is read, from its first character to its last. -/
theorem run_name (h : Scans limit b es scan) (hname : isIdentifier name = true) (p : Nat)
    (cs : List Char) :
    ∃ p', run limit ⟨b, es, scan "", p⟩ (name.toList ++ cs) =
      run limit ⟨b, es, scan name, p'⟩ cs := by
  have hall : isIdentifier ("" ++ String.ofList name.toList) = true := by
    rw [empty_append_ofList, String.ofList_toList]
    exact hname
  obtain ⟨p', hp'⟩ := h.run_more (.inl rfl) hall p cs
  rw [empty_append_ofList, String.ofList_toList] at hp'
  exact ⟨p', hp'⟩

theorem name_of_run (h : Scans limit b es scan)
    (hr : run limit ⟨b, es, scan "", p⟩ cs = .ok ns) :
    ∃ name c rest p', cs = name.toList ++ c :: rest ∧ isIdentifier name = true ∧
      isNamePart c = false ∧ run limit ⟨b, es, scan name, p'⟩ (c :: rest) = .ok ns := by
  obtain ⟨more, c, rest, p', hcs, hname, hstop, hr⟩ := h.more_of_run (.inl rfl) hr
  rw [empty_append_ofList] at hname hstop hr
  rw [continues_of_isIdentifier hname] at hstop
  exact ⟨String.ofList more, c, rest, p', by rw [String.toList_ofList, hcs], hname, hstop, hr⟩

end Scans

/-! ## References -/

/-- A name without braces goes as far as it can. -/
theorem run_bare (limit : Nat) (b : Body) (es : List Enclosing) (s : Sigil) (name : String)
    (p : Nat) (cs : List Char) :
    ∃ p', run limit ⟨b, es, .bare s name, p⟩ cs =
      run limit ⟨b.add (s.node ⟨name ++ String.ofList (cs.takeWhile isNamePart), .none⟩), es, .text,
        p'⟩ (cs.dropWhile isNamePart) := by
  induction cs generalizing name p with
  | nil =>
    refine ⟨p, ?_⟩
    rw [List.takeWhile_nil, append_ofList_nil]
    rfl
  | cons c cs ih =>
    by_cases hc : isNamePart c = true
    · have hstep : stepMode limit ⟨b, es, .bare s name, p⟩ c =
          .ok ⟨b, es, .bare s (name.push c), p⟩ := by
        simp [stepMode, hc]
      obtain ⟨p', hp'⟩ := ih (name.push c) (p + 1)
      rw [run_of_step hstep, List.takeWhile_cons_of_pos hc, List.dropWhile_cons_of_pos hc]
      rw [push_append_ofList] at hp'
      exact ⟨p', hp'⟩
    · refine ⟨p, ?_⟩
      rw [List.takeWhile_cons_of_neg hc, List.dropWhile_cons_of_neg hc, append_ofList_nil, run, run,
        readFrom, readFrom, step, step]
      have hstep : stepMode limit ⟨b, es, .bare s name, p⟩ c =
          stepMode limit ⟨b.add (s.node ⟨name, .none⟩), es, .text, p⟩ c := by
        simp [stepMode, hc, State.add]
      rw [hstep]

theorem step_dollar (b : Body) (es : List Enclosing) (s : Sigil) (p : Nat) :
    stepMode limit ⟨b, es, .text, p⟩ (sigilChar s) = .ok ⟨b, es, .sigil s, p⟩ := by
  cases s <;> rfl

theorem step_brace (b : Body) (es : List Enclosing) (s : Sigil) (p : Nat) :
    stepMode limit ⟨b, es, .sigil s, p⟩ '{' = .ok ⟨b, es, .braced s "", p⟩ := by
  simp [stepMode]

theorem step_name (b : Body) (es : List Enclosing) (s : Sigil) (p : Nat)
    (hc : isNameStart c = true) :
    stepMode limit ⟨b, es, .sigil s, p⟩ c = .ok ⟨b, es, .bare s (String.singleton c), p⟩ := by
  have hbrace : c ≠ '{' := by
    rintro rfl
    exact absurd hc (by decide)
  have hparen : c ≠ '(' := by
    rintro rfl
    exact absurd hc (by decide)
  simp [stepMode, hbrace, hparen, hc]

/-- What stands behind a name between braces, and behind a label. -/
theorem step_braced_close (b : Body) (es : List Enclosing) (s : Sigil) (p : Nat)
    (hname : isIdentifier name = true) :
    stepMode limit ⟨b, es, .braced s name, p⟩ '}' =
      .ok ⟨b.add (s.node ⟨name, .none⟩), es, .text, p⟩ := by
  have hstop : continues name '}' = false := by
    rw [continues_of_isIdentifier hname]
    decide
  have hempty := ne_empty_of_isIdentifier hname
  simp [stepMode, hstop, hempty, State.add]

theorem step_braced_colon (b : Body) (es : List Enclosing) (s : Sigil) (p : Nat)
    (hname : isIdentifier name = true) :
    stepMode limit ⟨b, es, .braced s name, p⟩ ':' = .ok ⟨b, es, .labelled s name "", p⟩ := by
  have hstop : continues name ':' = false := by
    rw [continues_of_isIdentifier hname]
    decide
  have hempty := ne_empty_of_isIdentifier hname
  simp [stepMode, hstop, hempty]

theorem step_labelled_close (b : Body) (es : List Enclosing) (s : Sigil) (p : Nat) (name : String)
    {label : String} (hlabel : isIdentifier label = true) :
    stepMode limit ⟨b, es, .labelled s name label, p⟩ '}' =
      .ok ⟨b.add (s.node ⟨name, .some label⟩), es, .text, p⟩ := by
  have hstop : continues label '}' = false := by
    rw [continues_of_isIdentifier hlabel]
    decide
  have hempty := ne_empty_of_isIdentifier hlabel
  simp [stepMode, hstop, hempty, State.add]

/-- **The text of a reference is read as the reference.** -/
theorem run_refers {written : List Char} (h : Refers r written rest) (b : Body)
    (es : List Enclosing) (s : Sigil) (p : Nat) :
    ∃ p', run limit ⟨b, es, .sigil s, p⟩ (written ++ rest) =
      run limit ⟨b.add (s.node r), es, .text, p'⟩ rest := by
  cases h with
  | @bare name rest hname hrest =>
    obtain ⟨c, more, hcs⟩ : ∃ c more, name.toList = c :: more := by
      cases hn : name.toList with
      | nil =>
        rw [isIdentifier, hn] at hname
        cases hname
      | cons c more => exact ⟨c, more, rfl⟩
    obtain ⟨hc, hmore⟩ : isNameStart c = true ∧ ∀ d ∈ more, isNamePart d = true := by
      simpa [isIdentifier, hcs] using hname
    have htake : (more ++ rest).takeWhile isNamePart = more := by
      rw [List.takeWhile_append_of_pos hmore]
      cases rest with
      | nil => simp
      | cons d rest => simp [hrest d rfl]
    have hdrop : (more ++ rest).dropWhile isNamePart = rest := by
      rw [List.dropWhile_append_of_pos hmore]
      cases rest with
      | nil => rfl
      | cons d rest => simp [hrest d rfl]
    have hnode : String.singleton c ++ String.ofList more = name := by
      rw [← String.toList_inj, hcs]
      simp
    obtain ⟨p', hp'⟩ := run_bare limit b es s (String.singleton c) (p + 1) (more ++ rest)
    rw [htake, hdrop, hnode] at hp'
    refine ⟨p', ?_⟩
    rw [hcs, List.cons_append, run_of_step (step_name b es s p hc)]
    exact hp'
  | @braced name rest hname =>
    obtain ⟨p', hp'⟩ := (scans_braced limit b es s).run_name hname (p + 1) ('}' :: rest)
    rw [run_of_step (step_braced_close b es s p' hname)] at hp'
    refine ⟨p' + 1, ?_⟩
    rw [List.cons_append, List.append_assoc, run_of_step (step_brace b es s p)]
    exact hp'
  | @labelled name label rest hname hlabel =>
    obtain ⟨p', hp'⟩ := (scans_braced limit b es s).run_name hname (p + 1)
      (':' :: (label.toList ++ '}' :: rest))
    rw [run_of_step (step_braced_colon b es s p' hname)] at hp'
    obtain ⟨p'', hp''⟩ := (scans_labelled limit b es s name).run_name hlabel (p' + 1) ('}' :: rest)
    rw [run_of_step (step_labelled_close b es s p'' name hlabel)] at hp''
    refine ⟨p'' + 1, ?_⟩
    rw [List.cons_append, List.append_assoc, run_of_step (step_brace b es s p), List.cons_append,
      List.append_assoc]
    exact hp'.trans hp''

/-- A name between braces is followed by a closing brace or by a colon, and a label by a brace. -/
theorem step_braced_other (b : Body) (es : List Enclosing) (s : Sigil) (p : Nat)
    (hname : isIdentifier name = true) (hstop : isNamePart c = false) (hclose : c ≠ '}')
    (hcolon : c ≠ ':') :
    stepMode limit ⟨b, es, .braced s name, p⟩ c = .error (.malformed .bindingUnfinished p) := by
  rw [← continues_of_isIdentifier hname] at hstop
  have hempty := ne_empty_of_isIdentifier hname
  simp [stepMode, hstop, hempty, hclose, hcolon]

theorem step_labelled_other (b : Body) (es : List Enclosing) (s : Sigil) (p : Nat) (name : String)
    {label : String} (hlabel : isIdentifier label = true) (hstop : isNamePart c = false)
    (hclose : c ≠ '}') :
    stepMode limit ⟨b, es, .labelled s name label, p⟩ c =
      .error (.malformed .bindingUnclosed p) := by
  rw [← continues_of_isIdentifier hlabel] at hstop
  have hempty := ne_empty_of_isIdentifier hlabel
  simp [stepMode, hstop, hempty, hclose]

theorem label_of_run (hname : isIdentifier name = true)
    (hr : run limit ⟨b, es, .labelled s name "", p⟩ cs = .ok ns) :
    ∃ r written rest p', cs = written ++ rest ∧
      Refers r ('{' :: (name.toList ++ ':' :: written)) rest ∧
      run limit ⟨b.add (s.node r), es, .text, p'⟩ rest = .ok ns := by
  obtain ⟨label, c, rest, p', rfl, hlabel, hstop, hr⟩ :=
    (scans_labelled limit b es s name).name_of_run hr
  by_cases hclose : c = '}'
  · subst hclose
    rw [run_of_step (step_labelled_close b es s p' name hlabel)] at hr
    exact ⟨_, label.toList ++ ['}'], rest, p' + 1, by simp, .labelled hname hlabel, hr⟩
  · rw [run_of_error (step_labelled_other b es s p' name hlabel hstop hclose)] at hr
    cases hr

theorem braced_of_run (hr : run limit ⟨b, es, .braced s "", p⟩ cs = .ok ns) :
    ∃ r written rest p', cs = written ++ rest ∧ Refers r ('{' :: written) rest ∧
      run limit ⟨b.add (s.node r), es, .text, p'⟩ rest = .ok ns := by
  obtain ⟨name, c, rest, p', rfl, hname, hstop, hr⟩ := (scans_braced limit b es s).name_of_run hr
  by_cases hclose : c = '}'
  · subst hclose
    rw [run_of_step (step_braced_close b es s p' hname)] at hr
    exact ⟨_, name.toList ++ ['}'], rest, p' + 1, by simp, .braced hname, hr⟩
  · by_cases hcolon : c = ':'
    · subst hcolon
      rw [run_of_step (step_braced_colon b es s p' hname)] at hr
      obtain ⟨r, written, rest', p'', rfl, href, hr⟩ := label_of_run hname hr
      exact ⟨r, name.toList ++ ':' :: written, rest', p'', by simp, href, hr⟩
    · rw [run_of_error (step_braced_other b es s p' hname hstop hclose hcolon)] at hr
      cases hr

theorem bare_of_run (hc : isNameStart c = true)
    (hr : run limit ⟨b, es, .bare s (String.singleton c), p⟩ cs = .ok ns) :
    ∃ r written rest p', cs = written ++ rest ∧ Refers r (c :: written) rest ∧
      run limit ⟨b.add (s.node r), es, .text, p'⟩ rest = .ok ns := by
  obtain ⟨p', hp'⟩ := run_bare limit b es s (String.singleton c) p cs
  rw [hp'] at hr
  have htext : (String.singleton c ++ String.ofList (cs.takeWhile isNamePart)).toList =
      c :: cs.takeWhile isNamePart := by
    simp
  have hname : isIdentifier (String.singleton c ++ String.ofList (cs.takeWhile isNamePart)) =
      true := by
    rw [isIdentifier, htext]
    simp [hc]
  refine ⟨_, cs.takeWhile isNamePart, cs.dropWhile isNamePart, p',
    List.takeWhile_append_dropWhile.symm, ?_, hr⟩
  rw [← htext]
  refine .bare hname fun d hd => ?_
  have hnot := List.head?_dropWhile_not isNamePart cs
  rw [hd] at hnot
  exact hnot

/-- **Where reading comes to an end, there is a reference behind its first character**, unless that
opens a group. -/
theorem refers_of_run (hno : ∀ rest, ¬ (s = .dollar ∧ cs = '(' :: rest))
    (hr : run limit ⟨b, es, .sigil s, p⟩ cs = .ok ns) :
    ∃ r written rest p', cs = written ++ rest ∧ Refers r written rest ∧
      run limit ⟨b.add (s.node r), es, .text, p'⟩ rest = .ok ns := by
  cases cs with
  | nil => cases hr
  | cons c cs =>
    by_cases hbrace : c = '{'
    · subst hbrace
      rw [run_of_step (step_brace b es s p)] at hr
      obtain ⟨r, written, rest, p', rfl, href, hr⟩ := braced_of_run hr
      exact ⟨r, '{' :: written, rest, p', rfl, href, hr⟩
    · by_cases hstart : isNameStart c = true
      · rw [run_of_step (step_name b es s p hstart)] at hr
        obtain ⟨r, written, rest, p', rfl, href, hr⟩ := bare_of_run hstart hr
        exact ⟨r, c :: written, rest, p', rfl, href, hr⟩
      · have hopen : ¬ (c = '(' ∧ s = .dollar) := by
          rintro ⟨rfl, rfl⟩
          exact hno cs ⟨rfl, rfl⟩
        rw [run_of_error (e := .malformed .identifierExpected p)
          (by simp [stepMode, hbrace, hopen, hstart])] at hr
        cases hr

/-! ## Separators -/

theorem step_separator_close (b : Body) (es : List Enclosing) (children : List Node) (opened : Nat)
    (text : String) (p : Nat) :
    stepMode limit ⟨b, es, .separator children opened text, p⟩ ')' =
      .ok ⟨b, es, .separated children text, p⟩ := by
  simp [stepMode]

theorem step_separator_char (b : Body) (es : List Enclosing) (children : List Node) (opened : Nat)
    (text : String) (p : Nat) (hc : c ≠ ')') :
    stepMode limit ⟨b, es, .separator children opened text, p⟩ c =
      .ok ⟨b, es, .separator children opened (text.push c), p⟩ := by
  simp [stepMode, hc]

/-- A separator between parentheses ends with the first closing one. -/
theorem run_separator (hclose : ')' ∉ cs) (b : Body) (es : List Enclosing) (children : List Node)
    (opened : Nat) (text : String) (p : Nat) (rest : List Char) :
    ∃ p', run limit ⟨b, es, .separator children opened text, p⟩ (cs ++ ')' :: rest) =
      run limit ⟨b, es, .separated children (text ++ String.ofList cs), p'⟩ rest := by
  induction cs generalizing text p with
  | nil =>
    rw [append_ofList_nil]
    exact ⟨p + 1, run_of_step (step_separator_close b es children opened text p)⟩
  | cons c cs ih =>
    rw [List.mem_cons, not_or] at hclose
    have hne : c ≠ ')' := fun h => hclose.1 h.symm
    obtain ⟨p', hp'⟩ := ih hclose.2 (text.push c) (p + 1)
    rw [push_append_ofList] at hp'
    exact ⟨p', (run_of_step (step_separator_char b es children opened text p hne)).trans hp'⟩

theorem separator_of_run {opened : Nat}
    (hr : run limit ⟨b, es, .separator children opened text, p⟩ cs = .ok ns) :
    ∃ more rest p', cs = more ++ ')' :: rest ∧ ')' ∉ more ∧
      run limit ⟨b, es, .separated children (text ++ String.ofList more), p'⟩ rest = .ok ns := by
  induction cs generalizing text p with
  | nil => cases hr
  | cons c cs ih =>
    by_cases hc : c = ')'
    · subst hc
      rw [run_of_step (step_separator_close b es children opened text p)] at hr
      refine ⟨[], cs, p + 1, rfl, List.not_mem_nil, ?_⟩
      rw [append_ofList_nil]
      exact hr
    · rw [run_of_step (step_separator_char b es children opened text p hc)] at hr
      obtain ⟨more, rest, p', rfl, hclose, hr⟩ := ih hr
      rw [push_append_ofList] at hr
      refine ⟨c :: more, rest, p', rfl, ?_, hr⟩
      rw [List.mem_cons, not_or]
      exact ⟨fun h => hc h.symm, hclose⟩

theorem step_separated_star (b : Body) (es : List Enclosing) (children : List Node) (text : String)
    (p : Nat) :
    stepMode limit ⟨b, es, .separated children text, p⟩ '*' =
      .ok ⟨b.add (.group children (.some text)), es, .text, p⟩ := by
  simp [stepMode, State.add]

/-- Behind a separator stands a star, or it is an error. -/
theorem separated_of_run (hr : run limit ⟨b, es, .separated children text, p⟩ cs = .ok ns) :
    ∃ rest, cs = '*' :: rest ∧
      run limit ⟨b.add (.group children (.some text)), es, .text, p + 1⟩ rest = .ok ns := by
  cases cs with
  | nil => cases hr
  | cons c cs =>
    by_cases hc : c = '*'
    · subst hc
      rw [run_of_step (step_separated_star b es children text p)] at hr
      exact ⟨cs, rfl, hr⟩
    · rw [run_of_error (e := .malformed .repeatExpected p) (by simp [stepMode, hc])] at hr
      cases hr

theorem step_closed_star (b : Body) (es : List Enclosing) (children : List Node) (p : Nat) :
    stepMode limit ⟨b, es, .closed children, p⟩ '*' =
      .ok ⟨b.add (.group children .none), es, .text, p⟩ := by
  simp [stepMode, State.add]

theorem step_closed_open (b : Body) (es : List Enclosing) (children : List Node) (p : Nat) :
    stepMode limit ⟨b, es, .closed children, p⟩ '(' =
      .ok ⟨b, es, .separator children p "", p⟩ := by
  simp [stepMode]

theorem step_closed_char (b : Body) (es : List Enclosing) (children : List Node) (p : Nat)
    (hstar : c ≠ '*') (hopen : c ≠ '(') :
    stepMode limit ⟨b, es, .closed children, p⟩ c =
      .ok ⟨b, es, .separated children (String.singleton c), p⟩ := by
  simp [stepMode, hstar, hopen]

/-- **The text behind the body of a group is read as its separator**, and the group is there. -/
theorem run_separates {sep : Option String} {mark : List Char} (h : Separates sep mark) (b : Body)
    (es : List Enclosing) (children : List Node) (p : Nat) (rest : List Char) :
    ∃ p', run limit ⟨b, es, .closed children, p⟩ (mark ++ rest) =
      run limit ⟨b.add (.group children sep), es, .text, p'⟩ rest := by
  cases h with
  | without => exact ⟨p + 1, run_of_step (step_closed_star b es children p)⟩
  | @char c hstar hopen =>
    refine ⟨p + 1 + 1, ?_⟩
    rw [List.cons_append, run_of_step (step_closed_char b es children p hstar hopen)]
    exact run_of_step (step_separated_star b es children _ (p + 1))
  | @text text hclose =>
    obtain ⟨p', hp'⟩ := run_separator hclose b es children p "" (p + 1) ('*' :: rest)
    rw [empty_append_ofList, String.ofList_toList,
      run_of_step (step_separated_star b es children text p')] at hp'
    refine ⟨p' + 1, ?_⟩
    rw [List.cons_append, List.append_assoc, run_of_step (step_closed_open b es children p)]
    exact hp'

theorem separates_of_run (hr : run limit ⟨b, es, .closed children, p⟩ cs = .ok ns) :
    ∃ sep mark rest p', cs = mark ++ rest ∧ Separates sep mark ∧
      run limit ⟨b.add (.group children sep), es, .text, p'⟩ rest = .ok ns := by
  cases cs with
  | nil => cases hr
  | cons c cs =>
    by_cases hstar : c = '*'
    · subst hstar
      rw [run_of_step (step_closed_star b es children p)] at hr
      exact ⟨.none, ['*'], cs, p + 1, rfl, .without, hr⟩
    · by_cases hopen : c = '('
      · subst hopen
        rw [run_of_step (step_closed_open b es children p)] at hr
        obtain ⟨more, rest, p', rfl, hclose, hr⟩ := separator_of_run hr
        rw [empty_append_ofList] at hr
        obtain ⟨rest, rfl, hr⟩ := separated_of_run hr
        have hmore : ')' ∉ (String.ofList more).toList := by
          rw [String.toList_ofList]
          exact hclose
        have hmark := Separates.text hmore
        rw [String.toList_ofList] at hmark
        exact ⟨.some (String.ofList more), _, rest, p' + 1, by simp, hmark, hr⟩
      · rw [run_of_step (step_closed_char b es children p hstar hopen)] at hr
        obtain ⟨rest, rfl, hr⟩ := separated_of_run hr
        exact ⟨.some (String.singleton c), [c, '*'], rest, p + 1 + 1, rfl, .char hstar hopen, hr⟩

end Lockstep.Reader
