/-
What is printed of a template is its tree (`parse_prints_tree`): the text on
standard output is JSON that loads as the tree again, and is its dump but for
white space. A template that cannot be read is told, and nothing is printed.

The tree that comes of reading a text holds nothing foreign, and the document
of a tree holds neither numbers nor faults, so what is known of documents on
many lines applies.
-/
import Lockstep.Proofs.Command.Stages
import Lockstep.Proofs.Json.Layout
import Lockstep.Proofs.Template.Canonical
import Lockstep.Proofs.Template.Documents

namespace Lockstep

open Text.ControlSequence (strip strip_eq_self)

/-! ## Trees on many lines -/

/-- What is canonical holds nothing foreign, by induction on the template. -/
theorem areProper_of_areCanonical {ns : List Node} (h : Node.areCanonical ns = true) :
    Node.areProper ns = true := by
  induction ns using Node.listInduction with
  | nil => rfl
  | literal text ns ih | shown r ns ih | hidden r ns ih =>
    simpa using ih ((Node.areCanonical_cons _ ns).mp h).2.2
  | group children sep ns ihc ih =>
    obtain ⟨hgroup, -, hns⟩ := (Node.areCanonical_cons _ ns).mp h
    rw [Node.areProper_group, ihc ((Node.isCanonical_group children sep).mp hgroup).2, ih hns]
    rfl
  | foreign kind ns ih =>
    obtain ⟨hforeign, -⟩ := (Node.areCanonical_cons _ ns).mp h
    rw [Node.isCanonical_foreign] at hforeign
    cases hforeign

theorem Template.areProper_of_ofRaw {raw : String} {unindented : Bool} {options : Options}
    {t : Template} (h : Template.ofRaw raw unindented options = .ok t) :
    Node.areProper t.nodes = true := by
  simp only [Template.ofRaw, compile] at h
  cases hread : readTemplate options.maxDepth.groups (prepare raw unindented) with
  | error e =>
    rw [hread] at h
    cases h
  | ok ns =>
    rw [hread] at h
    cases h
    exact areProper_of_areCanonical (areCanonical_of_spells (Reader.spells_of_readTemplate hread).1)

namespace Codec

/-- A template on many lines, with a line end behind the last. -/
def layout (ns : List Node) : String :=
  (toDocument ns).pretty ++ "\n"

theorem isPlain_toDocument (ns : List Node) : (toDocument ns).isPlain = true := by
  rw [toDocument, Json.isPlain]
  exact arePlain_nodeDocuments ns

theorem layout_eq (ns : List Node) :
    layout ns = String.ofList ((toDocument ns).pretty.toList ++ ['\n']) := by
  rw [layout, ← String.toList_inj, String.toList_append, String.toList_ofList,
    String.toList_ofList]

theorem isBlank_lineEnd : Json.IsBlank ['\n'] :=
  List.forall_mem_singleton.mpr rfl

theorem load_layout {ns : List Node} (h : Node.areProper ns = true) : load (layout ns) = .ok ns := by
  have hread : Json.read ((layout ns).toList.map .some) = .ok (toDocument ns) := by
    rw [layout_eq, String.toList_ofList]
    exact Json.read_pretty (isPlain_toDocument ns) isBlank_lineEnd
  rw [load, loadChars, hread]
  simp only [toDocument, ofDocument, nodeArray, nodes_nodeDocuments ns h]

theorem tight_layout (ns : List Node) : Json.tight (layout ns) = dump ns := by
  rw [layout_eq, Json.tight_pretty (isPlain_toDocument ns) isBlank_lineEnd, dump]

/-- There is nothing in it that is not printed. -/
theorem strip_layout (ns : List Node) : strip (layout ns) = layout ns := by
  refine strip_eq_self fun h => ?_
  have hpretty := Json.escape_not_mem_prettyText 0 _ (isPlain_toDocument ns)
  rw [layout_eq, String.toList_ofList, Json.pretty, String.toList_ofList, List.mem_append] at h
  exact h.elim hpretty (by decide)

end Codec

/-! ## The subcommand -/

namespace Command

/-- **What is printed of a template is its tree.** Let the arguments ask for the tree of a template
that is text. If the text, with its line ends unified, is read as a template, the command exits with
zero and tells nothing; what it prints loads as the tree of the template, from the text and from its
bytes, and without the white space outside of strings it is the dump of the tree. If the text is no
template, the error is told, the command exits with one, and nothing is printed. -/
theorem parse_prints_tree (i : Inputs) (args : List String) (path raw : String) (unindent : Bool)
    (hargs : Invocation.ofArgs args i.integer? = .ok (.parse path unindent))
    (hraw : (if path = "-" then .ok i.stdin else i.file path) = .ok raw.toUTF8.toList) :
    let text := String.ofList (Text.unifyLineEnds raw.toList)
    (∀ t, Template.ofRaw text unindent = .ok t →
      ∃ printed, run i args = { stdout := printed } ∧
        Codec.load printed = .ok t.nodes ∧
        Codec.loadChars (Text.Utf8.decode printed.toUTF8.toList) = .ok t.nodes ∧
        Json.tight printed = Codec.dump t.nodes) ∧
    (∀ e, Template.ofRaw text unindent = .error e →
      run i args = { exit := 1, error := .some ("Error: " ++ strip e.message) }) := by
  intro text
  have htext : templateText i path = .ok text := templateText_of_encoded hraw
  rw [run_eq_perform hargs]
  refine ⟨fun t ht => ⟨Codec.layout t.nodes, ?_, ?_, ?_, ?_⟩, fun e he => ?_⟩
  · have hprinted := perform_parse_of_template (template_eq_ok htext ht)
    rwa [Report.printed, ← Codec.layout, Codec.strip_layout] at hprinted
  · exact Codec.load_layout (Template.areProper_of_ofRaw ht)
  · rw [Text.Utf8.decode_encode]
    exact Codec.load_layout (Template.areProper_of_ofRaw ht)
  · exact Codec.tight_layout t.nodes
  · rw [perform_parse_of_template_error (template_eq_error htext he), Report.failure_eq]

/-- A line end of two characters, a brace, a quote and a backslash in literal text, in front of a
group inside a group that has no children; and a group that does not end. -/
theorem parse_prints_tree_braces :
    let i : Inputs :=
      { file := fun _ => .ok "\r\n\x7b\"\\\\\\\\[$(,$()*)*".toUTF8.toList,
        stdin := "$(".toUTF8.toList }
    let tree : List Node :=
      [.literal "\n\x7b\"\\[", .group [.literal ",", .group [] .none] .none]
    (∃ printed, run i ["parse", "t"] = { stdout := printed } ∧
      Codec.load printed = .ok tree ∧ Json.tight printed = Codec.dump tree) ∧
    (run i ["parse", "--unindent", "-"]).exit = 1 ∧
    (run i ["parse", "--unindent", "-"]).stdout = "" := by
  intro i tree
  have hsource : prepare (String.ofList (Text.unifyLineEnds "\r\n\x7b\"\\\\\\\\[$(,$()*)*".toList)) =
      "\n\x7b\"\\\\[$(,$()*)*" := by decide
  have hunclosed : prepare (String.ofList (Text.unifyLineEnds "$(".toList)) true = "$(" := by decide
  have hread : readTemplate 64 "\n\x7b\"\\\\[$(,$()*)*" = .ok tree := by rfl
  have herror : readTemplate 64 "$(" = .error (.malformed .groupUnterminated 0) := by rfl
  obtain ⟨hprinted, -⟩ := parse_prints_tree i ["parse", "t"] "t" _ false rfl rfl
  obtain ⟨-, htold⟩ := parse_prints_tree i ["parse", "--unindent", "-"] "-" _ true rfl rfl
  rw [← hsource] at hread
  rw [← hunclosed] at herror
  obtain ⟨printed, hrun, hload, -, htight⟩ := hprinted _ (ofRaw_of_read hread)
  rw [htold _ (ofRaw_of_read_error herror)]
  exact ⟨⟨printed, hrun, hload, htight⟩, rfl, rfl⟩

end Command

end Lockstep
