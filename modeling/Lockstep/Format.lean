/-
Templates from raw text, ready to be rendered: the text is rid of its common
indentation if that is asked for, its escapes are decoded, and what comes of
it is read as a template. `format` does all of it and renders in one step.
-/
import Lockstep.Render.Basic
import Lockstep.Template.FreeNames
import Lockstep.Text.Escape
import Lockstep.Text.Indent

namespace Lockstep

/-- Why a text does not come out formatted. -/
inductive FormatError where
  /-- The limit on nesting is out of its own bounds. -/
  | limitOutOfBounds
  /-- What should be a template's source is no text. -/
  | sourceNotText
  /-- The source cannot be read. -/
  | read (source : String) (e : ReadError)
  /-- The template cannot be rendered. -/
  | render (e : RenderError)
  deriving Repr, Inhabited

def FormatError.message : FormatError → String
  | .limitOutOfBounds => s!"max_depth must be between 1 and {deepestLimit}"
  | .sourceNotText => "\x60source\x60 must be a string"
  | .read source e => e.message source
  | .render e => e.message

/-- The note that a source has been read. -/
structure ReadNote where
  nodes : Nat
  characters : Nat
  deriving DecidableEq, Repr, Inhabited

def ReadNote.message (n : ReadNote) : String :=
  s!"Parsed {n.nodes} top-level nodes from {n.characters} chars"

def readNote (source : String) (template : List Node) : ReadNote :=
  ⟨template.length, source.length⟩

/-- Reads a source whose escapes are decoded already. -/
def compile (source : String) (limit : DepthLimit := { groups := 64 }) :
    Except FormatError (List Node) :=
  match readTemplate limit.groups source with
  | .ok template => .ok template
  | .error e => .error (.read source e)

/-- Reads a source that may be a value of any kind, under a limit that may be any number. -/
def compileValue (source : Value) (limit : Int) : Except FormatError (List Node) :=
  match DepthLimit.ofInt? limit with
  | .none => .error .limitOutOfBounds
  | .some l =>
    match source with
    | .text s => compile s l
    | _ => .error .sourceNotText

/-- The source that raw text stands for. Indentation is stripped before escapes are decoded, so
an escaped line end begins no line. -/
def prepare (raw : String) (unindented : Bool := false) : String :=
  Text.Escape.decode (if unindented then Text.Indent.strip raw else raw)

/-- A template that has been read and can be rendered any number of times. -/
structure Template where
  raw : String
  options : Options
  source : String
  nodes : List Node
  deriving Repr, Inhabited

namespace Template

/-- Reads raw text as a template. The options limit how deep its groups nest. -/
def ofRaw (raw : String) (unindented : Bool := false) (options : Options := {}) :
    Except FormatError Template :=
  let source := prepare raw unindented
  match compile source options.maxDepth with
  | .ok nodes => .ok { raw, options, source, nodes }
  | .error e => .error e

/-- The names that the template needs bindings for. -/
def names (t : Template) : Except RenderError (List String) :=
  freeNames t.nodes

def render (t : Template) (env : Env) : Except FormatError String :=
  match Lockstep.render t.options t.nodes env with
  | .ok text => .ok text
  | .error e => .error (.render e)

/-- The template as it is written inside other texts: by its raw text. -/
def quoted (t : Template) : String :=
  "Template(" ++ Text.Quoted.encode t.raw ++ ")"

end Template

/-- Two sets of bindings as one; of two bindings for a name the second one counts. -/
def mergeBindings (bindings extra : Table Value) : Table Value :=
  bindings.insertAll extra.entries

/-- **Formatting.** What raw text comes out as under bindings. -/
def format (raw : String) (env : Env) (unindented : Bool := false) (options : Options := {}) :
    Except FormatError String :=
  match Template.ofRaw raw unindented options with
  | .ok t => t.render env
  | .error e => .error e

end Lockstep
