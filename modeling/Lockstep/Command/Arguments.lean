/-
The arguments of the command. Switches and words may stand in any order; two
dashes alone end the switches. A switch with a value takes it from behind an
equals sign, from the rest of its argument, or from the next argument,
whatever that looks like. Switches of one letter may share an argument.

Which texts spell a whole number is left open (`integer?`). If nothing is said
of it, digits of any script do (`Decimal.ofScript?`); they may also be read as
the settings are (`Decimal.integer?`), where zeros may follow behind a point.
-/
import Lockstep.Decimal.Script
import Lockstep.Options.Basic

namespace Lockstep.Command

inductive Switch where
  | bindings
  | define
  | maxDepth
  | output
  | unindent
  | strict
  | verbose
  | version
  | help
  deriving DecidableEq, Repr, Inhabited

def Switch.takesValue : Switch → Bool
  | .bindings | .define | .maxDepth | .output => true
  | _ => false

/-- How switches are spelled. -/
abbrev Spelling := List (String × Switch)

def Spelling.find? (sp : Spelling) (name : String) : Option Switch :=
  (List.find? (fun e => e.1 == name) sp).map (·.2)

/-- The switches in front of the name of a subcommand. -/
def generalSwitches : Spelling :=
  [("--version", .version), ("--help", .help)]

/-- The switches of every subcommand. -/
def commonSwitches : Spelling :=
  [("--unindent", .unindent), ("--help", .help)]

def renderSwitches : Spelling :=
  commonSwitches ++
    [("-b", .bindings), ("--bindings", .bindings), ("-D", .define), ("--define", .define),
      ("--strict", .strict), ("--max-depth", .maxDepth), ("-o", .output), ("--output", .output),
      ("-v", .verbose), ("--verbose", .verbose)]

/-- What is wrong with arguments. -/
inductive UsageError where
  | noSuchSwitch (name : String)
  | valueMissing (name : String)
  | valueUnexpected (name : String)
  | noSubcommand
  | noSuchSubcommand (name : String)
  | templateMissing
  | wordUnexpected (word : String)
  | notInteger (value : String)
  | depthOutOfBounds (value : Int)
  | badDefine (message : String)
  | badBindings (reason : String)
  deriving DecidableEq, Repr, Inhabited

def UsageError.message : UsageError → String
  | .noSuchSwitch name => s!"No such option: {name}"
  | .valueMissing name => s!"Option '{name}' requires an argument."
  | .valueUnexpected name => s!"Option '{name}' does not take a value."
  | .noSubcommand => "Missing command."
  | .noSuchSubcommand name => s!"No such command '{name}'."
  | .templateMissing => "Missing argument 'TEMPLATE'."
  | .wordUnexpected word => s!"Got unexpected extra argument ({word})"
  | .notInteger value => s!"Invalid value for '--max-depth': '{value}' is not a valid integer."
  | .depthOutOfBounds value =>
    s!"Invalid value for '--max-depth': {value} is not in the range 1<=x<={deepestLimit}."
  | .badDefine message => s!"Invalid value for '-D': {message}"
  | .badBindings reason => s!"Invalid value for '-D': {reason}"

/-! ## Single arguments -/

/-- A switch that is given, with its value if it takes one. -/
abbrev Given := Switch × String

/-- What an argument is by itself. -/
inductive Piece where
  | word
  /-- The two dashes that end the switches. -/
  | switchesEnd
  /-- Switches that have all they need. -/
  | complete (given : List Given)
  /-- Switches of which the last one needs the next argument. -/
  | waiting (given : List Given) (last : Switch) (name : String)
  deriving Repr, Inhabited

/-- Switches of one letter in one argument. What follows one that takes a value is the value. -/
def letters (sp : Spelling) (given : List Given) : List Char → Except UsageError Piece
  | [] => .ok (.complete given)
  | c :: cs =>
    let name := String.ofList ['-', c]
    match sp.find? name with
    | .none => .error (.noSuchSwitch name)
    | .some s =>
      if s.takesValue then
        if cs.isEmpty then .ok (.waiting given s name)
        else .ok (.complete (given ++ [(s, String.ofList cs)]))
      else letters sp (given ++ [(s, "")]) cs

/-- A switch with a long name, maybe with its value behind an equals sign. -/
def longSwitch (sp : Spelling) (arg : List Char) : Except UsageError Piece :=
  let name := String.ofList (arg.takeWhile (· != '='))
  match sp.find? name, arg.dropWhile (· != '=') with
  | .none, _ => .error (.noSuchSwitch name)
  | .some s, [] => .ok (if s.takesValue then .waiting [] s name else .complete [(s, "")])
  | .some s, _ :: value =>
    if s.takesValue then .ok (.complete [(s, String.ofList value)])
    else .error (.valueUnexpected name)

def piece (sp : Spelling) (arg : String) : Except UsageError Piece :=
  match arg.toList with
  | ['-', '-'] => .ok .switchesEnd
  | '-' :: '-' :: more => longSwitch sp ('-' :: '-' :: more)
  | '-' :: c :: cs => letters sp [] (c :: cs)
  | _ => .ok .word

/-! ## All arguments -/

/-- The switches and words of arguments, each in their order. -/
structure Arguments where
  given : List Given := []
  words : List String := []
  deriving Repr, Inhabited

def Arguments.ofList (sp : Spelling) : List String → Except UsageError Arguments
  | [] => .ok {}
  | arg :: rest =>
    match piece sp arg with
    | .error e => .error e
    | .ok .word => (ofList sp rest).map fun a => { a with words := arg :: a.words }
    | .ok .switchesEnd => .ok { words := rest }
    | .ok (.complete given) => (ofList sp rest).map fun a => { a with given := given ++ a.given }
    | .ok (.waiting given last name) =>
      match rest with
      | [] => .error (.valueMissing name)
      | value :: rest' =>
        (ofList sp rest').map fun a => { a with given := given ++ (last, value) :: a.given }

/-- The switches in front of the first word, and what follows them. -/
def general : List String → Except UsageError Arguments
  | [] => .ok {}
  | arg :: rest =>
    match piece generalSwitches arg with
    | .error e => .error e
    | .ok .word => .ok { words := arg :: rest }
    | .ok .switchesEnd => .ok { words := rest }
    | .ok (.complete given) => (general rest).map fun a => { a with given := given ++ a.given }
    | .ok (.waiting _ _ name) => .error (.valueMissing name)

namespace Arguments

def has (a : Arguments) (s : Switch) : Bool :=
  a.given.any (·.1 == s)

/-- All values of a switch, in their order. -/
def values (a : Arguments) (s : Switch) : List String :=
  (a.given.filter (·.1 == s)).map (·.2)

/-- The value of a switch; of several the last one counts. -/
def value? (a : Arguments) (s : Switch) : Option String :=
  (a.values s).getLast?

/-- The one word that has to be there. -/
def template (a : Arguments) : Except UsageError String :=
  match a.words with
  | [] => .error .templateMissing
  | [t] => .ok t
  | _ :: w :: _ => .error (.wordUnexpected w)

/-- The limit on nesting, if one is given. -/
def maxDepth (a : Arguments) (integer? : String → Option Int) :
    Except UsageError (Option DepthLimit) :=
  match a.value? .maxDepth with
  | .none => .ok .none
  | .some s =>
    match integer? s with
    | .none => .error (.notInteger s)
    | .some n =>
      match DepthLimit.ofInt? n with
      | .some l => .ok (.some l)
      | .none => .error (.depthOutOfBounds n)

end Arguments

/-! ## Invocations -/

/-- What is to be rendered, and how. -/
structure RenderRequest where
  template : String
  unindent : Bool := false
  bindings : Option String := .none
  defines : List String := []
  strict : Bool := false
  maxDepth : Option DepthLimit := .none
  output : Option String := .none
  deriving Repr, Inhabited

/-- What the command is asked to do. -/
inductive Invocation where
  | version
  | help
  | render (r : RenderRequest)
  | parse (template : String) (unindent : Bool)
  | vars (template : String) (unindent : Bool)
  deriving Repr, Inhabited

namespace Invocation

def renderOf (integer? : String → Option Int) (a : Arguments) : Except UsageError Invocation := do
  let template ← a.template
  let maxDepth ← a.maxDepth integer?
  return .render {
    template
    maxDepth
    unindent := a.has .unindent
    bindings := a.value? .bindings
    defines := a.values .define
    strict := a.has .strict
    output := a.value? .output }

/-- A subcommand and its arguments. A call for help comes before what is missing. -/
def subcommand (sp : Spelling) (ofArguments : Arguments → Except UsageError Invocation)
    (args : List String) : Except UsageError Invocation := do
  let a ← Arguments.ofList sp args
  if a.has .help then return .help else ofArguments a

/-- What general switches ask for; the first one counts. -/
def ofSwitches : List Given → Option Invocation
  | [] => .none
  | (.version, _) :: _ => .some .version
  | _ :: _ => .some .help

/-- What words ask for that begin with no subcommand: what they would ask for if no dashes had
ended the switches in front of them, or else nothing. -/
def ofStrayWords (name : String) (rest : List String) : Except UsageError Invocation := do
  let a ← general (name :: rest)
  match ofSwitches a.given with
  | .some i => return i
  | .none => throw (.noSuchSubcommand name)

/-- What the arguments ask for. -/
def ofArgs (args : List String) (integer? : String → Option Int := Decimal.ofScript?) :
    Except UsageError Invocation := do
  let a ← general args
  match ofSwitches a.given, a.words with
  | .some i, _ => return i
  | .none, [] => throw .noSubcommand
  | .none, "render" :: rest => subcommand renderSwitches (renderOf integer?) rest
  | .none, "parse" :: rest =>
    subcommand commonSwitches (fun a => return .parse (← a.template) (a.has .unindent)) rest
  | .none, "vars" :: rest =>
    subcommand commonSwitches (fun a => return .vars (← a.template) (a.has .unindent)) rest
  | .none, name :: rest => ofStrayWords name rest

end Invocation

end Lockstep.Command
