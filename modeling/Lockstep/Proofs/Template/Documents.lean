/-
A template that is written as JSON is loaded as it was (`load_dump`), as text
and as bytes.

The document of a template is read as a document by what is known of JSON
texts; that the document stands for the template again is shown by induction on
the template (`nodes_nodeDocuments`). What is loaded, from whatever text, holds
nothing foreign (`areProper_of_nodes`), so writing it and loading it again
changes nothing.
-/
import Lockstep.Proofs.Json.Reading
import Lockstep.Proofs.Sequencing
import Lockstep.Proofs.Template.Parts
import Lockstep.Proofs.Text.Utf8
import Lockstep.Template.Codec

namespace Lockstep

/-! ## Templates with nothing foreign in them -/

namespace Node

def isForeign : Node → Bool
  | .foreign _ => true
  | _ => false

/-- At no depth stands something that is no part of a template. -/
def areProper (ns : List Node) : Bool :=
  (partsList ns).all fun n => !n.isForeign

@[simp] theorem areProper_nil : areProper [] = true := rfl

theorem areProper_cons (n : Node) (ns : List Node) :
    areProper (n :: ns) = (n.parts.all (fun m => !m.isForeign) && areProper ns) := by
  rw [areProper, areProper, partsList_cons, List.all_append]

@[simp] theorem areProper_literal (text : String) (ns : List Node) :
    areProper (.literal text :: ns) = areProper ns := by
  simp [areProper_cons, parts, isForeign]

@[simp] theorem areProper_shown (r : Reference) (ns : List Node) :
    areProper (.shown r :: ns) = areProper ns := by
  simp [areProper_cons, parts, isForeign]

@[simp] theorem areProper_hidden (r : Reference) (ns : List Node) :
    areProper (.hidden r :: ns) = areProper ns := by
  simp [areProper_cons, parts, isForeign]

@[simp] theorem areProper_group (children : List Node) (sep : Option String) (ns : List Node) :
    areProper (.group children sep :: ns) = (areProper children && areProper ns) := by
  simp [parts, isForeign, areProper]

@[simp] theorem areProper_foreign (kind : String) (ns : List Node) :
    areProper (.foreign kind :: ns) = false := by
  simp [areProper_cons, parts, isForeign]

end Node

namespace Codec

open Node (areProper)

/-! ## Documents of templates -/

theorem isPlain_optional (s : Option String) : (optional s).isPlain = true := by
  cases s <;> rfl

/-- The document of a template holds neither numbers nor faults. -/
theorem arePlain_nodeDocuments (ns : List Node) :
    Json.arePlain (nodeDocuments ns) = true := by
  induction ns using Node.listInduction with
  | nil => rfl
  | literal text ns ih | foreign kind ns ih =>
    simp [nodeDocuments, nodeDocument, Json.arePlain, Json.isPlain, Json.membersArePlain, tag, ih]
  | shown r ns ih | hidden r ns ih =>
    simp [nodeDocuments, nodeDocument, Json.arePlain, Json.isPlain, Json.membersArePlain, tag,
      isPlain_optional, ih]
  | group children sep ns ihc ih =>
    simp [nodeDocuments, nodeDocument, Json.arePlain, Json.isPlain, Json.membersArePlain, tag,
      isPlain_optional, ihc, ih]

/-! ## Reading them -/

theorem node_literal (text : String) :
    node (nodeDocument (.literal text)) = .ok (.literal text) := by
  rw [nodeDocument, node]
  rfl

theorem node_shown (r : Reference) : node (nodeDocument (.shown r)) = .ok (.shown r) := by
  obtain ⟨name, label⟩ := r
  rw [nodeDocument, node]
  cases label <;> rfl

theorem node_hidden (r : Reference) : node (nodeDocument (.hidden r)) = .ok (.hidden r) := by
  obtain ⟨name, label⟩ := r
  rw [nodeDocument, node]
  cases label <;> rfl

/-- The members of a group are read one after the other: its children, then its separator. -/
theorem node_group {children : List Node} (h : nodes (nodeDocuments children) = .ok children)
    (sep : Option String) :
    node (nodeDocument (.group children sep)) = .ok (.group children sep) := by
  have hchildren : nodeArray (.array (nodeDocuments children)) = .ok children := by
    rw [nodeArray, h]
  have hparts : parts .group {} [tag "group", ("children", .array (nodeDocuments children)),
      ("separator", optional sep)] = .ok { children, separator := sep } := by
    have htype : Kind.part? .group "type" = .none := rfl
    have hfirst : Kind.part? .group "children" = .some .children := rfl
    have hsecond : Kind.part? .group "separator" = .some .separator := rfl
    have hsep : optionalText (optional sep) = .ok sep := by cases sep <;> rfl
    simp only [parts, tag, htype, hfirst, hsecond, hchildren, hsep]
    rfl
  have hkind : kind [tag "group", ("children", .array (nodeDocuments children)),
      ("separator", optional sep)] = .ok .group := rfl
  rw [nodeDocument, node, hkind]
  exact bind_eq_ok.mpr ⟨.group, rfl, bind_eq_ok.mpr ⟨_, hparts, rfl⟩⟩

theorem nodes_cons {n : Node} {ns : List Node} (hn : node (nodeDocument n) = .ok n)
    (hns : nodes (nodeDocuments ns) = .ok ns) : nodes (nodeDocuments (n :: ns)) = .ok (n :: ns) := by
  rw [nodeDocuments, nodes, hn, hns]
  rfl

/-- **The documents of nodes stand for them**, by induction on the template. -/
theorem nodes_nodeDocuments (ns : List Node) (h : areProper ns = true) :
    nodes (nodeDocuments ns) = .ok ns := by
  induction ns using Node.listInduction with
  | nil => rfl
  | literal text ns ih =>
    rw [Node.areProper_literal] at h
    exact nodes_cons (node_literal text) (ih h)
  | shown r ns ih =>
    rw [Node.areProper_shown] at h
    exact nodes_cons (node_shown r) (ih h)
  | hidden r ns ih =>
    rw [Node.areProper_hidden] at h
    exact nodes_cons (node_hidden r) (ih h)
  | group children sep ns ihc ih =>
    rw [Node.areProper_group, Bool.and_eq_true] at h
    exact nodes_cons (node_group (ihc h.1) sep) (ih h.2)
  | foreign kind ns ih =>
    rw [Node.areProper_foreign] at h
    cases h

theorem load_dump_of_areProper {ns : List Node} (h : areProper ns = true) :
    load (dump ns) = .ok ns := by
  have hplain : (toDocument ns).isPlain = true := by
    rw [toDocument, Json.isPlain]
    exact arePlain_nodeDocuments ns
  rw [load, loadChars, dump, Json.read_compact hplain]
  simp only [toDocument, ofDocument, nodeArray, nodes_nodeDocuments ns h]

/-! ## What is loaded -/

/-- The children among parts of a node are nothing foreign. -/
def Parts.AreProper (p : Parts) : Prop := areProper p.children = true

theorem areProper_node? {p : Parts} {k : Kind} {n : Node} (hp : p.AreProper)
    (h : p.node? k = .some n) (ns : List Node) : areProper (n :: ns) = areProper ns := by
  cases k with
  | literal =>
    obtain ⟨text, -, rfl⟩ := Option.map_eq_some_iff.mp h
    rw [Node.areProper_literal]
  | shown =>
    obtain ⟨name, -, rfl⟩ := Option.map_eq_some_iff.mp h
    rw [Node.areProper_shown]
  | hidden =>
    obtain ⟨name, -, rfl⟩ := Option.map_eq_some_iff.mp h
    rw [Node.areProper_hidden]
  | group =>
    cases h
    rw [Node.areProper_group, hp, Bool.true_and]

mutual
theorem areProper_of_node : ∀ {j : Json} {n : Node}, node j = .ok n → ∀ ns : List Node,
    areProper (n :: ns) = areProper ns
  | .object members, n, h, ns => by
    rw [node] at h
    obtain ⟨k, -, h⟩ := bind_eq_ok.mp h
    obtain ⟨p, hp, h⟩ := bind_eq_ok.mp h
    have hproper := areProper_of_parts hp rfl
    split at h
    · next m hm =>
      cases h
      exact areProper_node? hproper hm ns
    · cases h
  | .null, n, h, _ | .bool _, n, h, _ | .int _, n, h, _ | .float _, n, h, _ | .string _, n, h, _
  | .array _, n, h, _ | .faulty _, n, h, _ => by cases h

theorem areProper_of_nodes : ∀ {js : List Json} {ns : List Node}, nodes js = .ok ns →
    areProper ns = true
  | [], ns, h => by
    cases h
    rfl
  | j :: js, ns, h => by
    rw [nodes] at h
    obtain ⟨n, hn, h⟩ := bind_eq_ok.mp h
    obtain ⟨ns', hns, h⟩ := bind_eq_ok.mp h
    cases h
    rw [areProper_of_node hn]
    exact areProper_of_nodes hns

theorem areProper_of_nodeArray : ∀ {j : Json} {ns : List Node}, nodeArray j = .ok ns →
    areProper ns = true
  | .array items, ns, h => by
    rw [nodeArray] at h
    exact areProper_of_nodes h
  | .null, n, h | .bool _, n, h | .int _, n, h | .float _, n, h | .string _, n, h
  | .object _, n, h | .faulty _, n, h => by cases h

theorem areProper_of_parts : ∀ {ms : List (String × Json)} {k : Kind} {p p' : Parts},
    parts k p ms = .ok p' → p.AreProper → p'.AreProper
  | [], k, p, p', h, hp => by
    cases h
    exact hp
  | (name, j) :: ms, k, p, p', h, hp => by
    rw [parts] at h
    -- No member but the children changes them.
    split at h
    case h_4 =>
      obtain ⟨q, hq, h⟩ := bind_eq_ok.mp h
      obtain ⟨ns, hns, rfl⟩ := map_eq_ok.mp hq
      exact areProper_of_parts h (areProper_of_nodeArray hns)
    all_goals
      obtain ⟨q, hq, h⟩ := bind_eq_ok.mp h
      obtain ⟨s, -, rfl⟩ := map_eq_ok.mp hq
      exact areProper_of_parts h hp
end

theorem areProper_of_loadChars {text : List (Option Char)} {ns : List Node}
    (h : loadChars text = .ok ns) : areProper ns = true := by
  unfold loadChars at h
  split at h
  · exact areProper_of_nodeArray h
  · obtain ⟨ms, -, h⟩ := bind_eq_ok.mp h
    cases h

/-! ## The law -/

/-- **A template that is written as JSON is loaded as it was**, from the text and from its bytes, if
nothing foreign stands in it. So no two such templates are written alike. Whatever text a template
is loaded from, nothing foreign stands in it: written and loaded again it is the same, and what is
written then is what was written before. -/
theorem load_dump :
    (∀ ns, areProper ns = true →
      load (dump ns) = .ok ns ∧ loadChars (Text.Utf8.decode (dump ns).toUTF8.toList) = .ok ns) ∧
    (∀ ns ms, areProper ns = true → areProper ms = true → dump ns = dump ms → ns = ms) ∧
    (∀ text ns, loadChars text = .ok ns → areProper ns = true ∧ load (dump ns) = .ok ns ∧
      ∀ ms, load (dump ns) = .ok ms → dump ms = dump ns) := by
  refine ⟨fun ns h => ⟨load_dump_of_areProper h, ?_⟩, fun ns ms hns hms hsame => ?_,
    fun text ns h => ?_⟩
  · rw [Text.Utf8.decode_encode]
    exact load_dump_of_areProper h
  · have hback := load_dump_of_areProper hns
    rw [hsame, load_dump_of_areProper hms] at hback
    cases hback
    rfl
  · have hproper := areProper_of_loadChars h
    have hback := load_dump_of_areProper hproper
    refine ⟨hproper, hback, fun ms hms => ?_⟩
    rw [hback] at hms
    cases hms
    rfl

/-- A quote, a backslash, a control character and a character beyond the first plane, in a group
inside a group whose label and separator are empty; and members in another order, given twice or
unknown. -/
theorem load_dump_nested :
    let nested : List Node := [.literal "\\\"\x01\x7f😀", .group [.hidden ⟨"", .some ""⟩,
      .group [] (.some "")] .none]
    let text := Json.compact (.array [.object [("name", .string "a"), ("type", .string "hidden"),
      ("more", .array []), ("name", .string "b")]])
    let last : List Node := [.hidden ⟨"b", .none⟩]
    load (dump nested) = .ok nested ∧
      loadChars (Text.Utf8.decode (dump nested).toUTF8.toList) = .ok nested ∧
      load text = .ok last ∧ load (dump last) = .ok last ∧
      dump last ≠ dump [.hidden ⟨"b", .some ""⟩] := by
  intro nested text last
  obtain ⟨hback, hinj, hloaded⟩ := load_dump
  obtain ⟨htext, hbytes⟩ := hback nested (by decide)
  have hlast : load text = .ok last := by
    rw [load, loadChars, Json.read_compact (by decide)]
    rfl
  refine ⟨htext, hbytes, hlast, (hloaded _ last hlast).2.1, fun hsame => ?_⟩
  have hlabel := hinj last _ (by decide) (by decide) hsame
  simp [last] at hlabel

end Codec

end Lockstep
