/-
What the command makes of a request to render. It finds outside what it needs
(`Finds`): a template that is text, bindings that can be loaded, proper items
and options that are allowed. Then it does with it what formatting does
(`render_agrees`), whatever reads the bindings and the numbers in arguments:
the text goes to the file, or to standard output without its control sequences;
an error is told, and nothing is written.
-/
import Lockstep.Proofs.Bindings
import Lockstep.Proofs.Command.Arguments
import Lockstep.Proofs.Command.Settings
import Lockstep.Proofs.Command.Stages
import Lockstep.Proofs.Folder
import Lockstep.Proofs.Format.Literal

namespace Lockstep.Command

open Text.ControlSequence (Holds strip strip_eq_self_iff)

/-! ## What a request finds -/

/-- What a request to render needs is found: the text `raw` as its template, the entries of its
file of bindings if it names one, items that are proper, and options that are allowed. -/
structure Finds (i : Inputs) (r : RenderRequest) (raw : String) (entries : List (Value × Value))
    (defines : List (String × String)) (o : Options) : Prop where
  template :
    (if r.template = "-" then .ok i.stdin else i.file r.template) = .ok raw.toUTF8.toList
  bindings :
    match r.bindings with
    | .some path => Bindings.ofContents path (i.file path) i.readers = .ok entries
    | .none => entries = []
  proper : ∀ d ∈ defines, Defines.IsProper d
  defines : r.defines = defines.map Defines.written
  options : Governs i.environment r o

/-- All that names are bound to: by the last item for a name, or else by the last entry. -/
def boundBy (entries : List (Value × Value)) (defines : List (String × String)) : Env := fun name =>
  ((Table.last? name (defines.map Defines.binding)).map .text).or
    (Table.last? name (Bindings.named entries))

section Found

variable {i : Inputs} {r : RenderRequest} {raw : String} {entries : List (Value × Value)}
  {defines : List (String × String)} {o : Options}

/-- The table of all bindings. -/
theorem Finds.bindings_eq (h : Finds i r raw entries defines o) :
    ∃ t, Command.bindings i r = .ok t ∧ t.get? = boundBy entries defines := by
  have hfile : fileBindings i r = .ok (Bindings.table entries) := by
    have hbindings := h.bindings
    unfold fileBindings
    cases hpath : r.bindings with
    | none =>
      rw [hpath] at hbindings
      rw [hbindings]
      rfl
    | some path =>
      rw [hpath] at hbindings
      simp only [hbindings]
  have hdefined : Defines.table r.defines = .ok (Table.ofList (defines.map Defines.binding)) := by
    rw [h.defines, Defines.table_written h.proper]
  let texts : Table Value :=
    ⟨(Table.ofList (defines.map Defines.binding)).entries.map fun e => (e.1, .text e.2)⟩
  have hnames : texts.names.Nodup := by
    rw [Table.names_map]
    exact Table.nodup_ofList _
  refine ⟨mergeBindings (Bindings.table entries) texts, ?_, ?_⟩
  · simp only [Command.bindings, hfile, hdefined]
    rfl
  · funext name
    rw [get?_mergeBindings _ hnames, Table.get?_map, Table.get?_ofList, Bindings.table_eq,
      Table.get?_ofList]
    rfl

/-! ## What is done with it -/

/-- Once all is found the request comes to what formatting comes to. -/
theorem Finds.perform_eq (h : Finds i r raw entries defines o) :
    perform i (.render r) = .rendered r.output
      (format (String.ofList (Text.unifyLineEnds raw.toList)) (boundBy entries defines)
        r.unindent o) := by
  obtain ⟨t, henv, ht⟩ := h.bindings_eq
  have ho : Command.options i r = .ok o := options_eq_ok_iff.mpr h.options
  have htext := templateText_of_encoded h.template
  cases hread : Template.ofRaw (String.ofList (Text.unifyLineEnds raw.toList)) r.unindent o with
  | error e =>
    rw [perform_render_of_template_error ho henv (template_eq_error htext hread)]
    simp only [format, hread, Report.rendered]
  | ok read =>
    rw [perform_render_of_template ho henv (template_eq_ok htext hread), ht]
    simp only [format, hread]

end Found

/-- **Rendering on the command line is formatting.** Let the arguments ask for a request that finds
what it needs. If formatting the template with its line ends unified, under all bindings and the
options allowed, gives a text, the command exits with zero. Without an output file it prints the
text without its control sequences, which is the text itself just if it holds none; with a file
that can be written, it prints nothing, and the path leads to exactly the text afterwards. If
formatting fails, the error is told, the command exits with one, and no file is written. -/
theorem render_agrees (i : Inputs) (args : List String) (r : RenderRequest) (raw : String)
    (entries : List (Value × Value)) (defines : List (String × String)) (o : Options)
    (hargs : Invocation.ofArgs args i.integer? = .ok (.render r))
    (hfound : Finds i r raw entries defines o) :
    let formatted := format (String.ofList (Text.unifyLineEnds raw.toList))
      (boundBy entries defines) r.unindent o
    (∀ text f, formatted = .ok text → r.output = .none →
      saveIn f (run i args) = ({ stdout := strip text }, .none) ∧
        (strip text = text ↔ ¬ Holds text.toList)) ∧
    (∀ text path f f' place, formatted = .ok text → r.output = .some path →
      f.write path text.toUTF8.toList = .ok (f', place) →
      f'.read path = .ok text.toUTF8.toList ∧
      ∃ written, saveIn f (run i args) = ({ save := .some (path, text) }, written) ∧
        (written = .some ⟨place, text⟩ ∨
          written = .none ∧ f.read place = .ok text.toUTF8.toList)) ∧
    (∀ e f, formatted = .error e →
      saveIn f (run i args) =
        ({ exit := 1, error := .some ("Error: " ++ strip e.message) }, .none)) := by
  intro formatted
  have hrun : run i args = .rendered r.output formatted :=
    (run_eq_perform hargs).trans hfound.perform_eq
  refine ⟨fun text f htext houtput => ?_, fun text path f f' place htext houtput hwrite => ?_,
    fun e f he => ?_⟩
  · rw [htext, houtput] at hrun
    rw [hrun]
    exact ⟨rfl, strip_eq_self_iff⟩
  · rw [htext, houtput] at hrun
    refine ⟨Folder.read_of_write hwrite, ?_⟩
    rw [hrun]
    simp only [Report.rendered, saveIn, hwrite]
    cases hread : f.read place with
    | error fault => exact ⟨_, rfl, .inl rfl⟩
    | ok before =>
      refine ⟨_, rfl, ?_⟩
      by_cases hsame : before = text.toUTF8.toList
      · exact .inr ⟨if_pos hsame, by rw [hsame]⟩
      · exact .inl (if_neg hsame)
  · rw [he] at hrun
    rw [hrun, Report.rendered, Report.failure_eq]
    rfl

/-- A template with a line end of two characters and a file of bindings, one of which an item with
blanks and a control sequence replaces: the sequence is not printed, and is written to the file.
Where a name is not bound the error is told, and the file that would be written stays as it is. The
number is read in one way and in the other. -/
theorem render_agrees_bold :
    let document : Json := .object [("x", .string "1"), ("y", .array [.string "2"])]
    let f : Folder :=
      { entries := [(["home", "t"], .file "$x\r\n$($y)*".toUTF8.toList),
          (["home", "b.json"], .file document.compact.toUTF8.toList)]
        work? := .some ["home"] }
    let environment (name : String) : Option String :=
      if name = "EXTFMT_LENGTH_POLICY" then .some " Strict " else .none
    let request (template : String) (output : Option String) : RenderRequest :=
      { template, output, bindings := .some "b.json", defines := [" x =\x1b[1m2=3"],
        maxDepth := .some { groups := 1 } }
    let inputs (stdin : List UInt8) (integer? : String → Option Int) : Inputs :=
      { file := f.read, stdin, environment, integer? }
    (saveIn f (run (inputs [] Decimal.ofScript?) (request "t" .none).arguments) =
        ({ stdout := "2=3\n2" }, .none) ∧
      Holds "\x1b[1m2=3\n2".toList) ∧
    saveIn f (run (inputs [] Decimal.integer?) (request "t" (.some "/out/t")).arguments) =
      ({ save := .some ("/out/t", "\x1b[1m2=3\n2") }, .some ⟨"/out/t", "\x1b[1m2=3\n2"⟩) ∧
    saveIn f (run (inputs "$z".toUTF8.toList Decimal.integer?)
        (request "-" (.some "t")).arguments) =
      ({ exit := 1, error := .some "Error: No binding for 'z'" }, .none) := by
  intro document f environment request inputs
  let entries : List (Value × Value) :=
    [(.text "x", .text "1"), (.text "y", .list [.text "2"])]
  let options : Options := { lengthPolicy := .strict, maxDepth := { groups := 1 } }
  have hparts : Path.parts "t" = ["t"] ∧ Path.parts "b.json" = ["b.json"] ∧
      Path.parts "/out/t" = ["out", "t"] := by decide
  have hstarts : f.start? "t" = .some ["home"] ∧ f.start? "b.json" = .some ["home"] ∧
      f.start? "/out/t" = .some [] := by decide
  have htemplate : f.read "t" = .ok "$x\r\n$($y)*".toUTF8.toList := by
    rw [Folder.read, Folder.walk, hstarts.1, hparts.1]
    rfl
  have hmissing : f.read "/out/t" = .error .missing := by
    rw [Folder.read, Folder.walk, hstarts.2.2, hparts.2.2]
    rfl
  have hwrite (bytes : List UInt8) : ∃ f', f.write "/out/t" bytes = .ok (f', "/out/t") := by
    rw [Folder.write, hstarts.2.2, hparts.2.2]
    exact ⟨_, rfl⟩
  have hentries : Bindings.ofContents "b.json" (f.read "b.json") = .ok entries := by
    have hread : f.read "b.json" = .ok document.compact.toUTF8.toList := by
      rw [Folder.read, Folder.walk, hstarts.2.1, hparts.2.1]
      rfl
    rw [hread]
    exact Bindings.ofContents_compact (by decide) (by decide) rfl
  have hfound (stdin : List UInt8) (integer? : String → Option Int) (template : String)
      (output : Option String) (raw : String)
      (h : (if template = "-" then .ok stdin else f.read template) = .ok raw.toUTF8.toList) :
      Finds (inputs stdin integer?) (request template output) raw entries
        [(" x ", "\x1b[1m2=3")] options := by
    have hproper : Defines.IsProper (" x ", "\x1b[1m2=3") := ⟨by decide, by decide⟩
    have hpolicy : String.ofList ((Text.trim " Strict ").toList.map Char.toLower) = "strict" := by
      decide
    exact ⟨h, hentries, List.forall_mem_singleton.mpr hproper, rfl, hpolicy, rfl⟩
  have hbinding : [(" x ", "\x1b[1m2=3")].map Defines.binding = [("x", "\x1b[1m2=3")] := by decide
  have hbound : boundBy entries [(" x ", "\x1b[1m2=3")] = fun name =>
      ((Table.last? name [("x", "\x1b[1m2=3")]).map .text).or
        (Table.last? name [("x", .text "1"), ("y", .list [.text "2"])]) := by
    funext name
    rw [boundBy, hbinding]
    rfl
  have htext : format (String.ofList (Text.unifyLineEnds "$x\r\n$($y)*".toList))
      (boundBy entries [(" x ", "\x1b[1m2=3")]) false options = .ok "\x1b[1m2=3\n2" := by
    have hsource : prepare (String.ofList (Text.unifyLineEnds "$x\r\n$($y)*".toList)) false =
      "$x\n$($y)*" := by decide
    have hread : readTemplate 1 "$x\n$($y)*" = .ok [.shown ⟨"x", .none⟩, .literal "\n",
      .group [.shown ⟨"y", .none⟩] .none] := by rfl
    rw [format_of_read hsource hread, hbound]
    rfl
  have herror : format (String.ofList (Text.unifyLineEnds "$z".toList))
      (boundBy entries [(" x ", "\x1b[1m2=3")]) false options =
        .error (.render (.missing ["z"])) := by
    have hsource : prepare (String.ofList (Text.unifyLineEnds "$z".toList)) false = "$z" := by decide
    have hread : readTemplate 1 "$z" = .ok [.shown ⟨"z", .none⟩] := by rfl
    rw [format_of_read hsource hread, hbound]
    rfl
  have hstripped : strip "\x1b[1m2=3\n2" = "2=3\n2" := by decide
  have hholds : Holds "\x1b[1m2=3\n2".toList :=
    ⟨[], "[1m2=3\n2".toList, rfl, ['1'], 'm', "2=3\n2".toList, rfl,
      List.forall_mem_singleton.mpr rfl, rfl⟩
  obtain ⟨hprint, -⟩ := render_agrees (inputs [] Decimal.ofScript?) _ _ _ entries _ options
    (Invocation.ofArgs_arguments readsLimits_ofScript? _) (hfound _ _ "t" .none _ htemplate)
  obtain ⟨-, hsave, -⟩ := render_agrees (inputs [] Decimal.integer?) _ _ _ entries _ options
    (Invocation.ofArgs_arguments readsLimits_integer? _)
    (hfound _ _ "t" (.some "/out/t") _ htemplate)
  obtain ⟨-, -, hfail⟩ := render_agrees (inputs "$z".toUTF8.toList Decimal.integer?) _ _ _ entries _
    options (Invocation.ofArgs_arguments readsLimits_integer? _)
    (hfound _ _ "-" (.some "t") "$z" rfl)
  refine ⟨⟨?_, hholds⟩, ?_, hfail _ f herror⟩
  · rw [← hstripped]
    exact (hprint _ f htext rfl).1
  · obtain ⟨f', hf'⟩ := hwrite "\x1b[1m2=3\n2".toUTF8.toList
    obtain ⟨-, written, hrun, rfl | ⟨-, hread⟩⟩ := hsave _ "/out/t" f f' "/out/t" htext rfl hf'
    · exact hrun
    · rw [hmissing] at hread
      cases hread

end Lockstep.Command
