/-
What the command does. It reads a template from a file or from standard
input, and renders it, shows it as JSON, or lists the names it needs. All
that it takes from outside comes in as `Inputs`, and all that it does comes
out as a `Report`; nothing is written where something fails.
-/
import Lockstep.Bindings
import Lockstep.Command.Arguments
import Lockstep.Command.Listing
import Lockstep.Format
import Lockstep.Options.Settings
import Lockstep.Template.Codec
import Lockstep.Text.ControlSequence

namespace Lockstep.Command

/-- What the command finds outside. -/
structure Inputs where
  /-- The bytes of files. -/
  file : String → Except FileFault (List UInt8)
  stdin : List UInt8 := []
  /-- The variables of the environment. -/
  environment : String → Option String := fun _ => .none
  /-- What reads the files of bindings. -/
  readers : Readers := .standard
  /-- What reads the number of a switch. -/
  integer? : String → Option Int := Decimal.ofScript?

/-- What breaks the command off without a message of its own. -/
inductive Crash where
  /-- What should be text is not. -/
  | notText
  /-- A reader raises something of a kind that is not expected of it. -/
  | raised (kind : String)
  /-- The file that the text should go to cannot be written. -/
  | unwritable (fault : FileFault)
  deriving DecidableEq, Repr, Inhabited

/-- What the command does: how it exits, what it writes to standard output, the error it tells,
and the file it saves, by path and text. -/
structure Report where
  exit : Nat := 0
  stdout : String := ""
  error : Option String := .none
  usage : Option UsageError := .none
  crash : Option Crash := .none
  save : Option (String × String) := .none
  deriving Repr, Inhabited

namespace Report

/-- A text that is printed, without its control sequences. -/
def printed (text : String) : Report :=
  { stdout := Text.ControlSequence.strip text }

/-- An error that is told, without control sequences. -/
def failure (exit : Nat) (message : String) : Report :=
  { exit, error := .some (Text.ControlSequence.strip ("Error: " ++ message)) }

/-- Arguments that cannot be understood. -/
def misuse (e : UsageError) : Report :=
  { exit := 2, usage := .some e }

def broken (c : Crash) : Report :=
  { exit := 1, crash := .some c }

/-- A file that gives no bindings. Bytes that are no text, and values that cannot be made, are taken
for a wrong item. -/
def unbound (path : String) (e : BindingsError) : Report :=
  match e with
  | .unread (.notText reason) | .unread (.badValue reason) => .misuse (.badBindings reason)
  | .unread (.other kind) => .broken (.raised kind)
  | e => .failure 2 (e.message path)

end Report

def versionText : String := "extfmt 0.1.0\n"

def helpText : String :=
  "Usage: extfmt [--version] render|parse|vars [OPTIONS] TEMPLATE\n\n" ++
    "  render   write the template with its bindings\n" ++
    "  parse    write the parts of the template as JSON\n" ++
    "  vars     list the names the template needs\n\n" ++
    "TEMPLATE is a file, or - for standard input.\n\n" ++
    "  --unindent          strip common indentation first\n" ++
    "  -b, --bindings FILE take bindings from a JSON or YAML file (render)\n" ++
    "  -D, --define N=V    bind one name to a text (render)\n" ++
    "  --strict            refuse sequences of unequal length (render)\n" ++
    "  --max-depth N       let groups nest N deep (render)\n" ++
    "  -o, --output FILE   write to a file (render)\n" ++
    "  -v, --verbose       tell more (render)\n"

/-- The text that bytes are, with line ends unified. -/
def textOf (bytes : List UInt8) : Except Report String :=
  match Text.Utf8.text? bytes with
  | .some s => .ok (String.ofList (Text.unifyLineEnds s.toList))
  | .none => .error (.broken .notText)

/-- The text of the template that a path names; a dash names standard input. -/
def templateText (i : Inputs) (path : String) : Except Report String :=
  if path = "-" then textOf i.stdin
  else
    match i.file path with
    | .ok bytes => textOf bytes
    | .error fault =>
      .error (.failure 2 s!"Could not read template {Path.normal path}: {fault.reason}")

/-- The template that a path names, read under options. -/
def template (i : Inputs) (path : String) (unindent : Bool) (options : Options := {}) :
    Except Report Template :=
  match templateText i path with
  | .error r => .error r
  | .ok raw =>
    match Template.ofRaw raw unindent options with
    | .ok t => .ok t
    | .error e => .error (.failure 1 e.message)

/-! ## Rendering -/

/-- How a number of complaints about settings is told. -/
def complaintsMessage (n : Nat) : String :=
  let errors := if n = 1 then "error" else "errors"
  s!"Invalid render options: {n} validation {errors} for RenderOptions"

/-- The options: switches come before the environment. -/
def options (i : Inputs) (r : RenderRequest) : Except Report Options :=
  let policy := if r.strict then .some (Value.text LengthPolicy.strict.name) else .none
  let limit := r.maxDepth.map fun l => Value.int l.groups
  match Options.fromEnvironment i.environment policy limit with
  | .ok o => .ok o
  | .error complaints => .error (.failure 2 (complaintsMessage complaints.length))

/-- The bindings of the file, if one is named. -/
def fileBindings (i : Inputs) (r : RenderRequest) : Except Report (Table Value) :=
  match r.bindings with
  | .none => .ok ∅
  | .some path =>
    match Bindings.ofContents path (i.file path) i.readers with
    | .ok entries => .ok (Bindings.table entries)
    | .error e => .error (.unbound path e)

/-- All bindings: those that are defined one by one come before those of the file. -/
def bindings (i : Inputs) (r : RenderRequest) : Except Report (Table Value) :=
  match fileBindings i r with
  | .error report => .error report
  | .ok fromFile =>
    match Defines.table r.defines with
    | .error e => .error (.misuse (.badDefine e.message))
    | .ok defined =>
      .ok (mergeBindings fromFile ⟨defined.entries.map fun e => (e.1, .text e.2)⟩)

def render (i : Inputs) (r : RenderRequest) : Except Report Report := do
  let o ← options i r
  let env ← bindings i r
  let t ← template i r.template r.unindent o
  match t.render env.get? with
  | .error e => throw (.failure 1 e.message)
  | .ok text =>
    match r.output with
    | .none => return .printed text
    | .some path => return { save := .some (path, text) }

/-! ## The other subcommands -/

def parse (i : Inputs) (path : String) (unindent : Bool) : Except Report Report := do
  let t ← template i path unindent
  return .printed ((Codec.toDocument t.nodes).pretty ++ "\n")

def vars (i : Inputs) (path : String) (unindent : Bool) : Except Report Report := do
  let t ← template i path unindent
  match t.names with
  | .error e => throw (.failure 1 e.message)
  | .ok names => return { stdout := Listing.text names }

/-! ## The command -/

/-- A report, be it of a success or of what came before one. -/
def settle : Except Report Report → Report
  | .ok r | .error r => r

/-- What the command does when it is asked for something. -/
def perform (i : Inputs) : Invocation → Report
  | .version => { stdout := versionText }
  | .help => { stdout := helpText }
  | .render r => settle (render i r)
  | .parse path unindent => settle (parse i path unindent)
  | .vars path unindent => settle (vars i path unindent)

/-- **The command**, from its arguments. -/
def run (i : Inputs) (args : List String) : Report :=
  match Invocation.ofArgs args i.integer? with
  | .ok invocation => perform i invocation
  | .error e => .misuse e

/-- The files that an invocation reads. -/
def Invocation.files : Invocation → List String
  | .version | .help => []
  | .render r => r.bindings.toList ++ (if r.template = "-" then [] else [r.template])
  | .parse path _ | .vars path _ => if path = "-" then [] else [path]

/-- The invocation reads its template from standard input. -/
def Invocation.readsStdin : Invocation → Bool
  | .version | .help => false
  | .render r => r.template == "-"
  | .parse path _ | .vars path _ => path == "-"

/-! ## In a folder -/

/-- A file that has come to be or has changed. -/
structure Written where
  path : String
  text : String
  deriving DecidableEq, Repr, Inhabited

/-- Saves in a folder what the report says, and tells what changed there. -/
def saveIn (f : Folder) (r : Report) : Report × Option Written :=
  match r.save with
  | .none => (r, .none)
  | .some (path, text) =>
    let bytes := text.toUTF8.toList
    match f.write path bytes with
    | .error fault => (.broken (.unwritable fault), .none)
    | .ok (_, place) =>
      match f.read place with
      | .ok before => (r, if before = bytes then .none else .some ⟨place, text⟩)
      | .error _ => (r, .some ⟨place, text⟩)

/-- The command, run in a folder. -/
def runIn (f : Folder) (stdin : List UInt8) (environment : String → Option String)
    (args : List String) (integer? : String → Option Int := Decimal.ofScript?) :
    Report × Option Written :=
  saveIn f (run { file := f.read, stdin, environment, integer? } args)

end Lockstep.Command
