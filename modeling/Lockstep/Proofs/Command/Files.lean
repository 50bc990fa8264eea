/-
What becomes of files that cannot be read (`unreadable_files_told`), whatever
reads them. A template that the system does not open is told, with the reason,
and the command exits with two; so is a file of bindings that cannot be opened
or is malformed. Whatever else a reader raises is another matter. Bytes that are
no text, and values that cannot be, are told as if an item of the command line
were wrong, and anything else breaks the command off, as a template does that is
no text.
-/
import Lockstep.Proofs.Bindings.Loading
import Lockstep.Proofs.Command.Stages

namespace Lockstep.Command

open Text.ControlSequence (strip)

variable {i : Inputs} {inv : Invocation} {path : String} {bytes : List UInt8} {e : BindingsError}

/-! ## Bindings -/

theorem unbound_of_isOfLoading (path : String) (h : e.isOfLoading = true) :
    Report.unbound path e =
      { exit := 2, error := .some ("Error: " ++ strip (e.message path)) } := by
  rw [← Report.failure_eq]
  cases e with
  | unreadable | notMapping => rfl
  | unread fault =>
    cases fault with
    | malformed reason => rfl
    | notText | badValue | other => cases h

/-! ## Templates -/

/-- A template that is not opened leaves the command with two, unless it has been broken off. -/
theorem perform_of_fault {fault : FileFault} (hpath : inv.template? = .some path)
    (hfile : path ≠ "-") (h : i.file path = .error fault) :
    ((∀ kind, ¬ inv.Derails i kind) →
      (perform i inv).exit = 2 ∧ (perform i inv).crash = .none) ∧
    (inv.IsReady i → perform i inv =
      .failure 2 s!"Could not read template {Path.normal path}: {fault.reason}") := by
  have hready (hready : inv.IsReady i) :=
    perform_of_templateText_error hready hpath (templateText_of_fault hfile h)
  refine ⟨fun hderails => ?_, hready⟩
  by_cases hr : inv.IsReady i
  · rw [hready hr]
    exact ⟨rfl, rfl⟩
  · rcases perform_of_not_isReady hr with hexit | ⟨kind, hkind⟩
    · exact hexit
    · exact absurd hkind (hderails kind)

theorem perform_of_not_text (hready : inv.IsReady i) (hpath : inv.template? = .some path)
    (hfile : path ≠ "-") (h : i.file path = .ok bytes) (htext : Text.Utf8.text? bytes = .none) :
    perform i inv = .broken .notText :=
  perform_of_templateText_error hready hpath
    ((templateText_of_bytes hfile h).trans (textOf_of_not_text htext))

/-- **A template that is no text breaks the command off**, once all that comes before is there. -/
theorem crash_eq_notText_iff (hpath : inv.template? = .some path) (hfile : path ≠ "-")
    (h : i.file path = .ok bytes) :
    (perform i inv).crash = .some .notText ↔
      inv.IsReady i ∧ Text.Utf8.text? bytes = .none := by
  refine ⟨fun hcrash => ?_, fun ⟨hready, htext⟩ => ?_⟩
  · rcases crash_eq_some hpath hcrash with ⟨kind, hkind, -⟩ | ⟨-, hready, hbroken⟩
    · cases hkind
    · refine ⟨hready, ?_⟩
      rw [templateText_of_bytes hfile h] at hbroken
      cases htext : Text.Utf8.text? bytes with
      | none => rfl
      | some s =>
        rw [textOf_of_text htext] at hbroken
        cases hbroken
  · rw [perform_of_not_text hready hpath hfile h htext]
    rfl

/-! ## The command -/

/-- **What becomes of files that cannot be read.** Whatever a file of bindings holds, it gives the
entries of a mapping or cannot be loaded, unless its reader raises something else than that it is
malformed; what the reader raises is always the error of the file. If the reader decodes, a file
that is not text throughout gives no entries, and of no other is it said that it is no text. A file
that cannot be loaded is told, and the command exits with two; of bytes that are no text, and of
values that cannot be, it says that an item is wrong; anything else breaks the command off. A
template that is not opened is told, and the command exits with two. One that is not text breaks it
off, once all that comes before is there, and nothing else does. -/
theorem unreadable_files_told (i : Inputs) :
    (∀ path contents,
      (∃ entries, Bindings.ofContents path contents i.readers = .ok entries) ∨
      (∃ e, Bindings.ofContents path contents i.readers = .error e ∧ e.isOfLoading = true) ∨
      (∃ bytes fault, contents = .ok bytes ∧
        Bindings.reader i.readers path bytes = .error fault ∧
        Bindings.ofContents path contents i.readers = .error (.unread fault) ∧
        (BindingsError.unread fault).isOfLoading = false)) ∧
    (∀ path bytes fault, Bindings.reader i.readers path bytes = .error fault →
      Bindings.ofContents path (.ok bytes) i.readers = .error (.unread fault)) ∧
    (∀ path contents, Decodes (Bindings.reader i.readers path) →
      (∀ entries, Bindings.ofContents path contents i.readers = .ok entries →
        ∃ bytes s, contents = .ok bytes ∧ Text.Utf8.text? bytes = .some s) ∧
      (∀ reason, Bindings.ofContents path contents i.readers = .error (.unread (.notText reason)) →
        ∃ bytes, contents = .ok bytes ∧ Text.Utf8.text? bytes = .none)) ∧
    (∀ args r path o e, Invocation.ofArgs args i.integer? = .ok (.render r) →
      r.bindings = .some path → options i r = .ok o →
      Bindings.ofContents path (i.file path) i.readers = .error e →
      (e.isOfLoading = true →
        run i args = { exit := 2, error := .some ("Error: " ++ strip (e.message path)) }) ∧
      (∀ reason, e = .unread (.notText reason) ∨ e = .unread (.badValue reason) →
        run i args = { exit := 2, usage := .some (.badBindings reason) }) ∧
      (∀ kind, e = .unread (.other kind) →
        run i args = { exit := 1, crash := .some (.raised kind) })) ∧
    (∀ args inv path, Invocation.ofArgs args i.integer? = .ok inv → inv.template? = .some path →
      path ≠ "-" →
      (∀ c, (run i args).crash = .some c → c = .notText ∨ ∃ kind, c = .raised kind) ∧
      (∀ kind, (run i args).crash = .some (.raised kind) ↔ inv.Derails i kind) ∧
      (∀ fault, i.file path = .error fault →
        ((∀ kind, ¬ inv.Derails i kind) → (run i args).exit = 2 ∧ (run i args).crash = .none) ∧
        (inv.IsReady i → run i args = { exit := 2, error := .some ("Error: " ++
          strip s!"Could not read template {Path.normal path}: {fault.reason}") })) ∧
      (∀ bytes, i.file path = .ok bytes →
        ((run i args).crash = .some .notText ↔
          inv.IsReady i ∧ Text.Utf8.text? bytes = .none) ∧
        (inv.IsReady i → Text.Utf8.text? bytes = .none →
          run i args = { exit := 1, crash := .some .notText }))) := by
  refine ⟨Bindings.ofContents_cases i.readers,
    fun path bytes fault => Bindings.ofContents_of_reader_error,
    fun path contents hdecodes => ⟨fun entries => Bindings.text_of_ofContents hdecodes,
      fun reason => Bindings.not_text_of_ofContents hdecodes⟩,
    fun args r path o e hargs hpath ho h => ?_, fun args inv path hargs hpath hfile => ?_⟩
  · rw [run_eq_perform hargs, perform_of_bindings_error hpath ho h]
    refine ⟨unbound_of_isOfLoading path, fun reason he => ?_, fun kind he => ?_⟩
    · rcases he with rfl | rfl <;> rfl
    · rw [he]
      rfl
  · rw [run_eq_perform hargs]
    refine ⟨fun c hcrash => ?_, fun kind => crash_eq_raised_iff hpath, fun fault h => ?_,
      fun bytes h => ⟨crash_eq_notText_iff hpath hfile h, fun hready => ?_⟩⟩
    · rcases crash_eq_some hpath hcrash with ⟨kind, hkind, -⟩ | ⟨hkind, -⟩
      · exact .inr ⟨kind, hkind⟩
      · exact .inl hkind
    · rw [← Report.failure_eq]
      exact perform_of_fault hpath hfile h
    · exact perform_of_not_text hready hpath hfile h

/-- A byte that begins no character, in a template and in bindings, a folder in the place of a
template, and `!!bool foo`, a tag on a text that it does not go with. -/
theorem unreadable_files_told_byte :
    let tagged : List UInt8 := [0x21, 0x21, 0x62, 0x6f, 0x6f, 0x6c, 0x20, 0x66, 0x6f, 0x6f]
    let reason := "'utf-8' codec can't decode byte 0xff in position 0: invalid start byte"
    let i : Inputs :=
      { file := fun path =>
          if path = "folder" then .error .isDirectory
          else if path = "tagged" then .ok tagged else .ok [0xff]
        readers :=
          { Readers.standard with
            yaml := fun bytes =>
              if bytes = tagged then .error (.other "KeyError") else .error (.notText reason) } }
    Bindings.ofContents "b.yaml" (.ok [0xff]) i.readers = .error (.unread (.notText reason)) ∧
    (∀ entries, Bindings.ofContents "b.json" (.ok [0xff]) i.readers ≠ .ok entries) ∧
    run i ["render", "folder", "-b", "b.yaml"] =
      { exit := 2, usage := .some (.badBindings reason) } ∧
    run i ["render", "folder", "-b", "tagged"] = { exit := 1, crash := .some (.raised "KeyError") } ∧
    run i ["vars", "folder"] =
      { exit := 2, error := .some "Error: Could not read template folder: Is a directory" } ∧
    run i ["parse", "t"] = { exit := 1, crash := .some .notText } := by
  intro tagged reason i
  obtain ⟨-, hraised, hdecoded, hbindings, htemplate⟩ := unreadable_files_told i
  have htext : Text.Utf8.text? [0xff] = .none := by decide
  have hyaml : Bindings.ofContents "b.yaml" (.ok [0xff]) i.readers =
      .error (.unread (.notText reason)) := by
    refine hraised _ _ _ ?_
    have hformat : Bindings.isJson "b.yaml" = false := by decide
    have hother : [0xff] ≠ tagged := by decide
    simp only [Bindings.reader, hformat, Bool.false_eq_true, if_false, i, if_neg hother]
  have htagged : Bindings.ofContents "tagged" (.ok tagged) i.readers =
      .error (.unread (.other "KeyError")) := by
    refine hraised _ _ _ ?_
    have hformat : Bindings.isJson "tagged" = false := by decide
    simp only [Bindings.reader, hformat, Bool.false_eq_true, if_false, i, if_true]
  have hjson : Decodes (Bindings.reader i.readers "b.json") := by
    have hformat : Bindings.isJson "b.json" = true := by decide
    have hsame := Bindings.decodes_standard "b.json"
    simp only [Bindings.reader, hformat, if_true] at hsame ⊢
    exact hsame
  refine ⟨hyaml, fun entries hentries => ?_, ?_, ?_, ?_, ?_⟩
  · obtain ⟨bytes, s, hbytes, hs⟩ := (hdecoded "b.json" _ hjson).1 entries hentries
    cases hbytes
    rw [htext] at hs
    cases hs
  · exact (hbindings _ { template := "folder", bindings := .some "b.yaml" } "b.yaml" {} _ rfl rfl rfl
      hyaml).2.1 _ (.inl rfl)
  · exact (hbindings _ { template := "folder", bindings := .some "tagged" } "tagged" {} _ rfl rfl rfl
      htagged).2.2 _ rfl
  · obtain ⟨-, -, hfault, -⟩ :=
      htemplate ["vars", "folder"] (.vars "folder" false) "folder" rfl rfl (by decide)
    rw [(hfault .isDirectory rfl).2 trivial, Report.mk.injEq, Option.some.injEq]
    exact ⟨rfl, rfl, by decide, rfl, rfl, rfl⟩
  · obtain ⟨-, -, -, hbytes⟩ := htemplate ["parse", "t"] (.parse "t" false) "t" rfl rfl (by decide)
    exact (hbytes [0xff] rfl).2 trivial htext

end Lockstep.Command
