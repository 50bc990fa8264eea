/-
The stages of a subcommand: what comes before its template, which for rendering
are the options and the bindings, the text of the template, and the template
that is read from it. What goes wrong at a stage is what the subcommand comes
to (`perform_of_bindings_error`, `perform_of_templateText_error`), and little
breaks it off (`crash_eq_some`).
-/
import Lockstep.Command.Run
import Lockstep.Proofs.Text.ControlSequence
import Lockstep.Proofs.Text.Utf8

namespace Lockstep.Command

open Text.ControlSequence (strip strip_append)

variable {i : Inputs} {inv : Invocation} {r : RenderRequest} {path raw : String} {unindent : Bool}
  {args : List String} {bytes : List UInt8} {o : Options} {report : Report} {t : Template}
  {env : Table Value}

/-! ## Reports -/

theorem Report.failure_eq (exit : Nat) (message : String) :
    Report.failure exit message = { exit, error := .some ("Error: " ++ strip message) } := by
  rw [failure, strip_append (by decide)]

/-- What goes wrong at a stage is what comes of it all. -/
theorem settle_bind_of_error {α : Type} {x : Except Report α} (h : x = .error report)
    (f : α → Except Report Report) : settle (x >>= f) = report := by
  rw [h]
  rfl

theorem settle_bind_of_ok {α : Type} {x : Except Report α} {a : α} (h : x = .ok a)
    (f : α → Except Report Report) : settle (x >>= f) = settle (f a) := by
  rw [h]
  rfl

/-! ## Templates -/

/-- The path that an invocation takes its template from. -/
def Invocation.template? : Invocation → Option String
  | .version | .help => .none
  | .render r => .some r.template
  | .parse path _ | .vars path _ => .some path

theorem templateText_of_fault {fault : FileFault} (hpath : path ≠ "-")
    (h : i.file path = .error fault) :
    templateText i path =
      .error (.failure 2 s!"Could not read template {Path.normal path}: {fault.reason}") := by
  simp only [templateText, if_neg hpath, h]

theorem templateText_of_bytes (hpath : path ≠ "-") (h : i.file path = .ok bytes) :
    templateText i path = textOf bytes := by
  simp only [templateText, if_neg hpath, h]

theorem textOf_of_not_text (h : Text.Utf8.text? bytes = .none) :
    textOf bytes = .error (.broken .notText) := by
  simp only [textOf, h]

theorem textOf_of_text {s : String} (h : Text.Utf8.text? bytes = .some s) :
    textOf bytes = .ok (String.ofList (Text.unifyLineEnds s.toList)) := by
  simp only [textOf, h]

/-- A file of text gives it with its line ends unified, and so does standard input. -/
theorem templateText_of_encoded
    (h : (if path = "-" then .ok i.stdin else i.file path) = .ok raw.toUTF8.toList) :
    templateText i path = .ok (String.ofList (Text.unifyLineEnds raw.toList)) := by
  have hraw := textOf_of_text (Text.Utf8.text?_encode raw)
  unfold templateText
  split at h
  · next hdash => rw [if_pos hdash, Except.ok.inj h, hraw]
  · next hdash =>
    rw [if_neg hdash]
    simp only [h, hraw]

theorem template_of_text_error (h : templateText i path = .error report) (unindent : Bool)
    (o : Options) : template i path unindent o = .error report := by
  rw [template, h]

theorem template_eq_ok (h : templateText i path = .ok raw)
    (hread : Template.ofRaw raw unindent o = .ok t) : template i path unindent o = .ok t := by
  simp only [template, h, hread]

theorem template_eq_error {e : FormatError} (h : templateText i path = .ok raw)
    (hread : Template.ofRaw raw unindent o = .error e) :
    template i path unindent o = .error (.failure 1 e.message) := by
  simp only [template, h, hread]

theorem ofRaw_of_read {ns : List Node}
    (h : readTemplate o.maxDepth.groups (prepare raw unindent) = .ok ns) :
    Template.ofRaw raw unindent o = .ok ⟨raw, o, prepare raw unindent, ns⟩ := by
  simp only [Template.ofRaw, compile, h]

theorem ofRaw_of_read_error {e : ReadError}
    (h : readTemplate o.maxDepth.groups (prepare raw unindent) = .error e) :
    Template.ofRaw raw unindent o = .error (.read (prepare raw unindent) e) := by
  simp only [Template.ofRaw, compile, h]

/-! ## Subcommands -/

theorem run_eq_perform (h : Invocation.ofArgs args i.integer? = .ok inv) :
    run i args = perform i inv := by
  rw [run, h]

/-- What comes before the template is there: the options and the bindings, if it is rendered. -/
def Invocation.IsReady (i : Inputs) : Invocation → Prop
  | .render r => ∃ o env, options i r = .ok o ∧ bindings i r = .ok env
  | _ => True

theorem perform_parse_of_template (h : template i path unindent = .ok t) :
    perform i (.parse path unindent) = .printed ((Codec.toDocument t.nodes).pretty ++ "\n") :=
  settle_bind_of_ok h _

theorem perform_parse_of_template_error (h : template i path unindent = .error report) :
    perform i (.parse path unindent) = report :=
  settle_bind_of_error h _

theorem perform_vars_of_template (h : template i path unindent = .ok t) :
    perform i (.vars path unindent) =
      match t.names with
      | .ok names => { stdout := Listing.text names }
      | .error e => .failure 1 e.message := by
  refine (settle_bind_of_ok h _).trans ?_
  cases t.names <;> rfl

theorem perform_vars_of_template_error (h : template i path unindent = .error report) :
    perform i (.vars path unindent) = report :=
  settle_bind_of_error h _

/-- What becomes of what rendering comes to: a text is saved in the file, if there is one. -/
def Report.rendered (output : Option String) : Except FormatError String → Report
  | .error e => .failure 1 e.message
  | .ok text =>
    match output with
    | .none => .printed text
    | .some path => { save := .some (path, text) }

theorem perform_render_of_template (ho : options i r = .ok o) (henv : bindings i r = .ok env)
    (h : template i r.template r.unindent o = .ok t) :
    perform i (.render r) = .rendered r.output (t.render env.get?) := by
  refine (settle_bind_of_ok ho _).trans ((settle_bind_of_ok henv _).trans
    ((settle_bind_of_ok h _).trans ?_))
  cases t.render env.get? with
  | error e => rfl
  | ok text => cases r.output <;> rfl

theorem perform_render_of_template_error (ho : options i r = .ok o)
    (henv : bindings i r = .ok env) (h : template i r.template r.unindent o = .error report) :
    perform i (.render r) = report :=
  (settle_bind_of_ok ho _).trans ((settle_bind_of_ok henv _).trans (settle_bind_of_error h _))

/-- **Without a text to read, an invocation comes to what is wrong with its template**, once all
that comes before is there. -/
theorem perform_of_templateText_error (hready : inv.IsReady i) (hpath : inv.template? = .some path)
    (h : templateText i path = .error report) : perform i inv = report := by
  cases inv with
  | version | help => cases hpath
  | render r =>
    obtain ⟨o, env, ho, henv⟩ := hready
    cases hpath
    exact perform_render_of_template_error ho henv (template_of_text_error h r.unindent o)
  | parse p unindent =>
    cases hpath
    exact perform_parse_of_template_error (template_of_text_error h unindent {})
  | vars p unindent =>
    cases hpath
    exact perform_vars_of_template_error (template_of_text_error h unindent {})

theorem perform_render_of_options_error (h : options i r = .error report) :
    perform i (.render r) = report :=
  settle_bind_of_error h _

theorem perform_render_of_bindings_error (ho : options i r = .ok o)
    (h : bindings i r = .error report) : perform i (.render r) = report :=
  (settle_bind_of_ok ho _).trans (settle_bind_of_error h _)

theorem options_eq_error (h : options i r = .error report) : ∃ message, report = .failure 2 message := by
  unfold options at h
  dsimp only at h
  split at h
  · cases h
  · next complaints _ =>
    cases h
    exact ⟨_, rfl⟩

/-! ## Bindings -/

/-- What a file of bindings has wrong is told before anything is said of the template. -/
theorem perform_of_bindings_error {e : BindingsError} (hpath : r.bindings = .some path)
    (ho : options i r = .ok o)
    (h : Bindings.ofContents path (i.file path) i.readers = .error e) :
    perform i (.render r) = .unbound path e := by
  refine perform_render_of_bindings_error ho ?_
  simp only [bindings, fileBindings, hpath, h]

/-- Bindings are missing because of the file or because of an item. -/
theorem bindings_eq_error (h : bindings i r = .error report) :
    (∃ path e, r.bindings = .some path ∧
      Bindings.ofContents path (i.file path) i.readers = .error e ∧ report = .unbound path e) ∨
    ∃ e, report = .misuse e := by
  unfold bindings fileBindings at h
  split at h
  · next hfile =>
    cases h
    split at hfile
    · cases hfile
    · next path hpath =>
      split at hfile
      · cases hfile
      · next e he =>
        cases hfile
        exact .inl ⟨path, e, hpath, he, rfl⟩
  · split at h
    · cases h
      exact .inr ⟨_, rfl⟩
    · cases h

/-- The reader of its file of bindings raises something of this kind, and no one expects it. -/
def Invocation.Derails (i : Inputs) (kind : String) : Invocation → Prop
  | .render r => (∃ o, options i r = .ok o) ∧ ∃ path, r.bindings = .some path ∧
      Bindings.ofContents path (i.file path) i.readers = .error (.unread (.other kind))
  | _ => False

variable {kind : String}

theorem perform_of_derails (h : inv.Derails i kind) : perform i inv = .broken (.raised kind) := by
  cases inv with
  | version | help | parse | vars => exact absurd h id
  | render r =>
    obtain ⟨⟨o, ho⟩, path, hpath, hfile⟩ := h
    exact perform_of_bindings_error hpath ho hfile

/-- Any other file without bindings is told, and the command exits with two. -/
theorem unbound_cases (path : String) (e : BindingsError) :
    (∃ kind, e = .unread (.other kind)) ∨
      ((Report.unbound path e).exit = 2 ∧ (Report.unbound path e).crash = .none) := by
  unfold Report.unbound
  split
  · exact .inr ⟨rfl, rfl⟩
  · exact .inr ⟨rfl, rfl⟩
  · exact .inl ⟨_, rfl⟩
  · exact .inr ⟨rfl, rfl⟩

/-- Where not all is there that comes before the template, the arguments or the environment are to
blame, unless a reader is. -/
theorem perform_of_not_isReady (h : ¬ inv.IsReady i) :
    ((perform i inv).exit = 2 ∧ (perform i inv).crash = .none) ∨ ∃ kind, inv.Derails i kind := by
  cases inv with
  | version | help | parse | vars => exact absurd trivial h
  | render r =>
    cases ho : options i r with
    | error report =>
      obtain ⟨message, rfl⟩ := options_eq_error ho
      rw [perform_render_of_options_error ho]
      exact .inl ⟨rfl, rfl⟩
    | ok o =>
      cases henv : bindings i r with
      | ok env => exact absurd ⟨o, env, ho, henv⟩ h
      | error report =>
        rw [perform_render_of_bindings_error ho henv]
        rcases bindings_eq_error henv with ⟨path, e, hpath, he, rfl⟩ | ⟨e, rfl⟩
        · rcases unbound_cases path e with ⟨kind, rfl⟩ | hexit
          · exact .inr ⟨kind, ⟨o, ho⟩, path, hpath, he⟩
          · exact .inl hexit
        · exact .inl ⟨rfl, rfl⟩

/-! ## Breaking off -/

/-- **With a text to read, nothing breaks an invocation off** for which all is there. -/
theorem crash_of_templateText (hready : inv.IsReady i) (hpath : inv.template? = .some path)
    (h : templateText i path = .ok raw) : (perform i inv).crash = .none := by
  have htemplate (unindent : Bool) (o : Options) : (∃ t, template i path unindent o = .ok t) ∨
      ∃ e : FormatError, template i path unindent o = .error (.failure 1 e.message) := by
    cases hread : Template.ofRaw raw unindent o with
    | ok t => exact .inl ⟨t, template_eq_ok h hread⟩
    | error e => exact .inr ⟨e, template_eq_error h hread⟩
  cases inv with
  | version | help => cases hpath
  | parse p unindent =>
    cases hpath
    rcases htemplate unindent {} with ⟨t, ht⟩ | ⟨e, he⟩
    · rw [perform_parse_of_template ht]
      rfl
    · rw [perform_parse_of_template_error he]
      rfl
  | vars p unindent =>
    cases hpath
    rcases htemplate unindent {} with ⟨t, ht⟩ | ⟨e, he⟩
    · rw [perform_vars_of_template ht]
      cases t.names <;> rfl
    · rw [perform_vars_of_template_error he]
      rfl
  | render r =>
    cases hpath
    obtain ⟨o, env, ho, henv⟩ := hready
    rcases htemplate r.unindent o with ⟨t, ht⟩ | ⟨e, he⟩
    · rw [perform_render_of_template ho henv ht]
      cases t.render env.get? with
      | error e => rfl
      | ok text => cases r.output <;> rfl
    · rw [perform_render_of_template_error ho henv he]
      rfl

theorem templateText_eq_error (h : templateText i path = .error report) :
    (∃ message, report = .failure 2 message) ∨ report = .broken .notText := by
  have htext {bytes : List UInt8} (h : textOf bytes = .error report) : report = .broken .notText := by
    unfold textOf at h
    split at h
    · cases h
    · cases h
      rfl
  unfold templateText at h
  split at h
  · exact .inr (htext h)
  · split at h
    · exact .inr (htext h)
    · cases h
      exact .inl ⟨_, rfl⟩

/-- **What breaks an invocation off** is a reader that raises what no one expects, or a template
that is no text, once all that comes before is there. -/
theorem crash_eq_some {c : Crash} (hpath : inv.template? = .some path)
    (h : (perform i inv).crash = .some c) :
    (∃ kind, c = .raised kind ∧ inv.Derails i kind) ∨
      (c = .notText ∧ inv.IsReady i ∧ templateText i path = .error (.broken .notText)) := by
  by_cases hready : inv.IsReady i
  · right
    cases htext : templateText i path with
    | ok raw =>
      rw [crash_of_templateText hready hpath htext] at h
      cases h
    | error report =>
      rw [perform_of_templateText_error hready hpath htext] at h
      rcases templateText_eq_error htext with ⟨message, rfl⟩ | rfl
      · cases h
      · cases h
        exact ⟨rfl, hready, rfl⟩
  · left
    rcases perform_of_not_isReady hready with ⟨-, hcrash⟩ | ⟨kind, hderails⟩
    · rw [hcrash] at h
      cases h
    · rw [perform_of_derails hderails] at h
      cases h
      exact ⟨kind, rfl, hderails⟩

theorem crash_eq_raised_iff (hpath : inv.template? = .some path) :
    (perform i inv).crash = .some (.raised kind) ↔ inv.Derails i kind := by
  refine ⟨fun h => ?_, fun h => ?_⟩
  · rcases crash_eq_some hpath h with ⟨kind', hkind, hderails⟩ | ⟨hkind, -⟩
    · cases hkind
      exact hderails
    · cases hkind
  · rw [perform_of_derails h]
    rfl

end Lockstep.Command
