/-
Templates as JSON documents. `toDocument` writes a template as an array with
one object for each node, tagged by its type; `ofDocument` reads such an
array. What it reads may leave out labels, separators and children, and may
give a member again, of which the last one counts. A member that the type of
its node does not have may be there and be anything, faults and all.
-/
import Lockstep.Json.Printer
import Lockstep.Json.Reader
import Lockstep.Template.Node

namespace Lockstep

namespace Codec

def tag (type : String) : String × Json :=
  ("type", .string type)

/-- A text that may be missing. -/
def optional : Option String → Json
  | .some s => .string s
  | .none => .null

/-! ## Writing -/

mutual
/-- The document of a node. What is no part of a template has no document of its own. -/
def nodeDocument : Node → Json
  | .literal text => .object [tag "literal", ("text", .string text)]
  | .shown r => .object [tag "variable", ("name", .string r.name), ("alias", optional r.label)]
  | .hidden r => .object [tag "hidden", ("name", .string r.name), ("alias", optional r.label)]
  | .group children separator =>
    .object [tag "group", ("children", .array (nodeDocuments children)),
      ("separator", optional separator)]
  | .foreign _ => .null

def nodeDocuments : List Node → List Json
  | [] => []
  | n :: ns => nodeDocument n :: nodeDocuments ns
end

end Codec

/-- Why a text is no template in JSON. -/
inductive LoadError where
  /-- It is no JSON. -/
  | malformed
  /-- A string that counts holds bytes that are no text. -/
  | notText
  /-- The document is none of a template. -/
  | shape
  deriving DecidableEq, Repr, Inhabited

namespace Codec

/-! ## Reading -/

/-- The types of nodes. -/
inductive Kind where
  | literal
  | shown
  | hidden
  | group
  deriving DecidableEq, Repr, Inhabited

def Kind.ofName? : String → Option Kind
  | "literal" => .some .literal
  | "variable" => .some .shown
  | "hidden" => .some .hidden
  | "group" => .some .group
  | _ => .none

/-- What a member of a node can be. -/
inductive Part where
  | text
  | name
  | label
  | children
  | separator
  deriving DecidableEq, Repr, Inhabited

/-- What the member of a name is in a node of some type. -/
def Kind.part? : Kind → String → Option Part
  | .literal, "text" => .some .text
  | .shown, "name" | .hidden, "name" => .some .name
  | .shown, "alias" | .hidden, "alias" => .some .label
  | .group, "children" => .some .children
  | .group, "separator" => .some .separator
  | _, _ => .none

/-- The parts of a node that are there. -/
structure Parts where
  text : Option String := .none
  name : Option String := .none
  label : Option String := .none
  children : List Node := []
  separator : Option String := .none
  deriving Inhabited

/-- The node of some type that parts make. A literal needs a text, and a reference a name. -/
def Parts.node? (p : Parts) : Kind → Option Node
  | .literal => p.text.map .literal
  | .shown => p.name.map fun name => .shown ⟨name, p.label⟩
  | .hidden => p.name.map fun name => .hidden ⟨name, p.label⟩
  | .group => .some (.group p.children p.separator)

/-- What is wrong with a document that should be another one. -/
def mismatch (j : Json) : LoadError :=
  match j with
  | .faulty .malformed => .malformed
  | _ => .shape

/-- The text that a document is. -/
def text : Json → Except LoadError String
  | .string s => .ok s
  | .faulty .notText => .error .notText
  | j => .error (mismatch j)

/-- The text that a document is, or nothing. -/
def optionalText : Json → Except LoadError (Option String)
  | .null => .ok .none
  | j => (text j).map .some

/-- Passes over a document that does not count. -/
def ignore (j : Json) : Except LoadError Unit :=
  if j.isBroken then .error .malformed else .ok ()

/-- The type of the node that members make. -/
def kind : List (String × Json) → Except LoadError Kind
  | [] => .error .shape
  | (name, j) :: ms =>
    if name = "type" then do
      match Kind.ofName? (← text j) with
      | .some k => return k
      | .none => throw .shape
    else do
      ignore j
      kind ms

mutual
/-- The node of a document. -/
def node : Json → Except LoadError Node
  | .object members => do
    let k ← kind members
    let p ← parts k {} members
    match p.node? k with
    | .some n => return n
    | .none => throw .shape
  | j => .error (mismatch j)

def nodes : List Json → Except LoadError (List Node)
  | [] => .ok []
  | j :: js => do
    let n ← node j
    let ns ← nodes js
    return n :: ns

/-- The nodes of a document that has to be an array. -/
def nodeArray : Json → Except LoadError (List Node)
  | .array items => nodes items
  | j => .error (mismatch j)

/-- Parts with those of further members. -/
def parts (k : Kind) (p : Parts) : List (String × Json) → Except LoadError Parts
  | [] => .ok p
  | (name, j) :: ms => do
    let p' ← match k.part? name with
      | .some .text => (text j).map fun s => { p with text := .some s }
      | .some .name => (text j).map fun s => { p with name := .some s }
      | .some .label => (optionalText j).map fun s => { p with label := s }
      | .some .children => (nodeArray j).map fun ns => { p with children := ns }
      | .some .separator => (optionalText j).map fun s => { p with separator := s }
      | .none => (ignore j).map fun _ => p
    parts k p' ms
end

/-! ## Documents and texts -/

/-- The document of a template. -/
def toDocument (template : List Node) : Json :=
  .array (nodeDocuments template)

/-- The template of a document. -/
def ofDocument (j : Json) : Except LoadError (List Node) :=
  nodeArray j

/-- A template as JSON text on one line. -/
def dump (template : List Node) : String :=
  (toDocument template).compact

/-- The template that a JSON text holds, given by the characters of bytes. Of several errors the
one that stands first in the text counts. -/
def loadChars (text : List (Option Char)) : Except LoadError (List Node) :=
  match Json.read text with
  | .ok j => ofDocument j
  | .error j => (ofDocument j).bind fun _ => .error .malformed

/-- The template that a JSON text holds. -/
def load (text : String) : Except LoadError (List Node) :=
  loadChars (text.toList.map .some)

end Codec

end Lockstep
