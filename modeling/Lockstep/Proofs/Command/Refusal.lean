/-
Which templates the subcommands refuse (`refusals_agree_iff`). Each reads the
template under a limit on nesting and tells what reading comes to (`Tells`), and
none takes for it what else goes wrong. But showing and listing read under the
standard limit, and only rendering looks at what the environment says of it. So
they refuse the same templates if the two limits are the same, and otherwise
disagree about each template that is too deep for the lower one
(`Tells.agree_iff`).
-/
import Lockstep.Proofs.Command.Settings
import Lockstep.Proofs.Command.Stages
import Lockstep.Proofs.Render.Messages
import Lockstep.Proofs.Render.Nesting
import Lockstep.Proofs.Template.FreeNames
import Lockstep.Proofs.Template.Viable
import Lockstep.Proofs.Text.Utf8

namespace Lockstep

open Text.ControlSequence (strip)

theorem readTemplate_eq_tooDeep {limit l : Nat} {source : String}
    (h : readTemplate limit source = .error (.tooDeep l)) : l = limit := by
  rcases Reader.readTemplate_eq_error h with
    ⟨before, c, after, mid, -, -, -, he | ⟨what, he, -⟩⟩ | ⟨mid, what, p, -, he, -⟩
  · cases he
    rfl
  · cases he
  · cases he

namespace Command

variable {i : Inputs} {r : RenderRequest} {raw source : String} {report report' : Report}
  {d d' : DepthLimit} {limit : Nat} {t : Template} {o : Options} {env : Table Value}

/-! ## Refusals -/

/-- What is told of a source that cannot be read. -/
def refusal (source : String) (e : ReadError) : Report :=
  .failure 1 (e.message source)

/-- **A report tells what reading a source under a limit comes to**: the error, if there is one, and
otherwise none that reading could come to. -/
structure Tells (report : Report) (limit : Nat) (source : String) : Prop where
  of_error : ∀ {e}, readTemplate limit source = .error e → report = refusal source e
  of_ok : ∀ {ns}, readTemplate limit source = .ok ns → ∀ e, report ≠ refusal source e

theorem refusal_eq (source : String) (e : ReadError) :
    refusal source e = { exit := 1, error := .some ("Error: " ++ strip (e.message source)) } :=
  Report.failure_eq 1 _

theorem ne_refusal_of_exit (h : report.exit = 0) (e : ReadError) : report ≠ refusal source e := by
  rintro rfl
  rw [refusal_eq] at h
  cases h

/-- That groups nest too deep is told like nothing else. -/
theorem eq_tooDeep_of_refusal {e : ReadError} {l : Nat}
    (h : refusal source e = refusal source (.tooDeep l)) : e = .tooDeep l := by
  rw [refusal_eq, refusal_eq] at h
  simp only [Report.mk.injEq, Option.some.injEq, String.append_right_inj, true_and, and_true] at h
  exact eq_tooDeep_of_strip h

/-- No error of rendering is told like one of reading, unless groups nest too deep. -/
theorem failure_ne_refusal {e' : RenderError} (h : ∀ l, e' ≠ .tooDeep l) (e : ReadError) :
    Report.failure 1 e'.message ≠ refusal source e := by
  intro hsame
  rw [Report.failure_eq, refusal_eq] at hsame
  simp only [Report.mk.injEq, Option.some.injEq, String.append_right_inj, true_and, and_true]
    at hsame
  exact strip_message_ne e source h hsame.symm

/-! ## Two limits -/

/-- Reports that tell what the same reading comes to refuse the same. -/
theorem Tells.agree {limit' : Nat} (h : Tells report limit source) (h' : Tells report' limit' source)
    (hread : readTemplate limit' source = readTemplate limit source) (e : ReadError) :
    report = refusal source e ↔ report' = refusal source e := by
  cases hsource : readTemplate limit source with
  | error e' => rw [h.of_error hsource, h'.of_error (hread.trans hsource)]
  | ok ns => exact iff_of_false (h.of_ok hsource e) (h'.of_ok (hread.trans hsource) e)

/-- **Under two limits the same is refused**, just if they are equal or the lower is not exceeded. -/
theorem Tells.agree_iff (hd : d.groups ≤ d'.groups) (h : Tells report d.groups source)
    (h' : Tells report' d'.groups source) :
    (∀ e, report = refusal source e ↔ report' = refusal source e) ↔
      d = d' ∨ ∀ l, readTemplate d.groups source ≠ .error (.tooDeep l) := by
  refine ⟨fun hagree => ?_, fun hcase => ?_⟩
  · by_cases hdeep : ∃ l, readTemplate d.groups source = .error (.tooDeep l)
    · left
      obtain ⟨l, hread⟩ := hdeep
      have hrefused := (hagree (.tooDeep l)).mp (h.of_error hread)
      have hlower := readTemplate_eq_tooDeep hread
      cases hread' : readTemplate d'.groups source with
      | ok ns => exact absurd hrefused (h'.of_ok hread' _)
      | error e =>
        rw [eq_tooDeep_of_refusal ((h'.of_error hread').symm.trans hrefused)] at hread'
        have hgroups : d.groups = d'.groups := hlower.symm.trans (readTemplate_eq_tooDeep hread')
        cases d
        cases d'
        cases hgroups
        rfl
    · exact .inr fun l hread => hdeep ⟨l, hread⟩
  · rcases hcase with rfl | hdeep
    · exact h.agree h' rfl
    · exact h.agree h' (readTemplate_of_le hd hdeep)

/-! ## The subcommands -/

section Subcommands

variable {path : String} {unindent : Bool}

theorem template_refused {e : ReadError} (htext : templateText i path = .ok raw)
    (hread : readTemplate o.maxDepth.groups (prepare raw unindent) = .error e) :
    template i path unindent o = .error (refusal (prepare raw unindent) e) := by
  rw [template_eq_error htext (ofRaw_of_read_error hread)]
  rfl

theorem tells_parse (htext : templateText i path = .ok raw) :
    Tells (perform i (.parse path unindent)) DepthLimit.standard.groups (prepare raw unindent) := by
  refine ⟨fun hread => ?_, fun hread e => ?_⟩
  · exact perform_parse_of_template_error (template_refused htext hread)
  · obtain ⟨t, ht⟩ : ∃ t, Template.ofRaw raw unindent = .ok t := ⟨_, ofRaw_of_read hread⟩
    rw [perform_parse_of_template (template_eq_ok htext ht)]
    exact ne_refusal_of_exit rfl e

/-- The names that a template needs can be listed, or a label is taken. -/
theorem tells_vars (htext : templateText i path = .ok raw) :
    Tells (perform i (.vars path unindent)) DepthLimit.standard.groups (prepare raw unindent) := by
  refine ⟨fun hread => ?_, fun hread e => ?_⟩
  · exact perform_vars_of_template_error (template_refused htext hread)
  · obtain ⟨t, ht⟩ : ∃ t, Template.ofRaw raw unindent = .ok t := ⟨_, ofRaw_of_read hread⟩
    rw [perform_vars_of_template (template_eq_ok htext ht)]
    cases hnames : t.names with
    | ok names => exact ne_refusal_of_exit rfl e
    | error e' =>
      obtain ⟨label, name, rfl⟩ := FreeNames.nodes_eq_error hnames
      exact failure_ne_refusal (fun l h => by cases h) e

/-- What has been read under the limit is not too deep to be rendered under it. -/
theorem tells_render (htext : templateText i r.template = .ok raw) (ho : options i r = .ok o)
    (henv : bindings i r = .ok env) :
    Tells (perform i (.render r)) o.maxDepth.groups (prepare raw r.unindent) := by
  refine ⟨fun hread => ?_, fun hread e => ?_⟩
  · exact perform_render_of_template_error ho henv (template_refused htext hread)
  · obtain ⟨t, ht⟩ : ∃ t, Template.ofRaw raw r.unindent o = .ok t := ⟨_, ofRaw_of_read hread⟩
    obtain ⟨hoptions, hnesting⟩ := Template.nesting_of_ofRaw ht
    rw [perform_render_of_template ho henv (template_eq_ok htext ht)]
    cases hrender : t.render env.get? with
    | error e' =>
      obtain ⟨e', rfl, he⟩ := Template.render_eq_error hrender
      refine failure_ne_refusal (fun l hl => ?_) e
      rw [hl, hoptions] at he
      exact render_ne_tooDeep hnesting _ _ l he
    | ok text => cases r.output <;> exact ne_refusal_of_exit rfl e

end Subcommands

/-- **Which templates the subcommands refuse.** Let a request find the text of its template, its
bindings and its options. Showing the template and listing its names refuse what is malformed or
nests deeper than the standard limit, whatever the environment says; rendering refuses what is
malformed or nests deeper than the limit of the options, and none of them tells in the same words
that something else is wrong. So showing and listing refuse the same; they refuse what rendering
refuses just if its limit is the standard one, or the source is not too deep for the lower of the
two; and so they do if neither a switch nor the environment says otherwise. -/
theorem refusals_agree_iff (htext : templateText i r.template = .ok raw)
    (ho : Governs i.environment r o) (henv : bindings i r = .ok env) :
    let source := prepare raw r.unindent
    let showing := perform i (.parse r.template r.unindent)
    let listing := perform i (.vars r.template r.unindent)
    let rendering := perform i (.render r)
    Tells showing DepthLimit.standard.groups source ∧
    Tells listing DepthLimit.standard.groups source ∧
    Tells rendering o.maxDepth.groups source ∧
    (∀ e, showing = refusal source e ↔ listing = refusal source e) ∧
    ((∀ e, showing = refusal source e ↔ rendering = refusal source e) ↔
      o.maxDepth = .standard ∨
        ∀ l, readTemplate (min o.maxDepth.groups DepthLimit.standard.groups) source ≠
          .error (.tooDeep l)) ∧
    (r.maxDepth = .none → environmentValue? i.environment "EXTFMT_MAX_DEPTH" = .none →
      ∀ e, showing = refusal source e ↔ rendering = refusal source e) := by
  intro source showing listing rendering
  have hshowing : Tells showing DepthLimit.standard.groups source := tells_parse htext
  have hlisting : Tells listing DepthLimit.standard.groups source := tells_vars htext
  have hrendering : Tells rendering o.maxDepth.groups source :=
    tells_render htext (options_eq_ok_iff.mpr ho) henv
  refine ⟨hshowing, hlisting, hrendering, hshowing.agree hlisting rfl, ?_, fun hswitch hvariable => ?_⟩
  · rcases Nat.le_total o.maxDepth.groups DepthLimit.standard.groups with hd | hd
    · rw [Nat.min_eq_left hd, ← hrendering.agree_iff hd hshowing]
      exact forall_congr' fun e => Iff.comm
    · rw [Nat.min_eq_right hd, eq_comm (a := o.maxDepth)]
      exact hshowing.agree_iff hd hrendering
  · have hlimit := ho.limit
    simp only [hswitch, hvariable] at hlimit
    rw [hlimit] at hrendering
    exact hshowing.agree hrendering rfl

/-- A group in a group, where the environment allows one: it is shown and listed, and too deep to be
rendered. -/
theorem refusals_agree_iff_one :
    let i : Inputs :=
      { file := fun _ => .ok "$($($x)*)*".toUTF8.toList,
        environment := fun name => if name = "EXTFMT_MAX_DEPTH" then .some "1" else .none }
    run i ["render", "t"] = refusal "$($($x)*)*" (.tooDeep 1) ∧
      (∀ e, run i ["parse", "t"] ≠ refusal "$($($x)*)*" e) ∧
      ∀ e, run i ["vars", "t"] ≠ refusal "$($($x)*)*" e := by
  intro i
  have htext : templateText i "t" = .ok "$($($x)*)*" := by
    rw [templateText_of_bytes (by decide) rfl, textOf_of_text (Text.Utf8.text?_encode _)]
    rfl
  have hsource : prepare "$($($x)*)*" = "$($($x)*)*" := by decide
  have hone : readTemplate 1 "$($($x)*)*" = .error (.tooDeep 1) := by rfl
  have htwo : readTemplate 64 "$($($x)*)*" =
      .ok [.group [.group [.shown ⟨"x", .none⟩] .none] .none] := by rfl
  obtain ⟨hshowing, hlisting, hrendering, -⟩ := refusals_agree_iff (r := { template := "t" })
    (o := { maxDepth := { groups := 1 } }) htext ⟨rfl, rfl⟩ rfl
  rw [hsource] at hshowing hlisting hrendering
  exact ⟨hrendering.of_error hone, hshowing.of_ok htwo, hlisting.of_ok htwo⟩

end Command

end Lockstep
