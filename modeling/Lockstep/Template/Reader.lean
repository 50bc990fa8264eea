/-
Reading a template. The reader takes the source one character at a time and
holds, besides the part it is in the middle of (`Mode`), the bodies of the
groups that are still open. So what it has made of a text depends on that
text alone and not on what follows: an error once found stays (`readChars`),
and every group knows where it was opened.

Written in a template are

  - `$name` and `@name`, also `${name}` and `${name:label}`: a reference, shown or hidden;
  - `$(…)*`, `$(…)c*` and `$(…)(text)*`: a group, with a separator of one character or of any
    text without a closing parenthesis;
  - a backslash before a character: that character, as text;
  - anything else: itself. Inside a group an opening parenthesis has to be closed before the
    group is.
-/
import Lockstep.Template.Node
import Lockstep.Template.Excerpt
import Lockstep.Text.Letter
import Lockstep.Text.Numeral

namespace Lockstep

/-! ## Errors -/

/-- What is wrong with the text of a template. -/
inductive Malformation where
  | danglingEscape
  | identifierExpected
  | bindingUnfinished
  | bindingUnclosed
  | groupUnterminated
  | separatorExpected
  | separatorUnterminated
  | repeatExpected
  deriving DecidableEq, Repr, Inhabited

def Malformation.reason : Malformation → String
  | .danglingEscape => "Dangling escape at end of input"
  | .identifierExpected => "Expected identifier"
  | .bindingUnfinished => "Expected ':' or '\x7d' in binding"
  | .bindingUnclosed => "Expected '\x7d' to close binding"
  | .groupUnterminated => "Unterminated group"
  | .separatorExpected => "Expected separator or '*' after group"
  | .separatorUnterminated => "Unterminated separator"
  | .repeatExpected => "Expected '*' after group separator"

/-- Why a template cannot be read: it is malformed at a position, or its groups nest deeper than
the limit. -/
inductive ReadError where
  | malformed (what : Malformation) (position : Nat)
  | tooDeep (limit : Nat)
  deriving DecidableEq, Repr, Inhabited

/-- The complaint about groups that nest too deep. -/
def tooDeepMessage (limit : Nat) : String :=
  s!"Template too deeply nested (limit is {limit} groups)"

def ReadError.message (source : String) : ReadError → String
  | .malformed what position => Excerpt.report what.reason position source
  | .tooDeep limit => tooDeepMessage limit

namespace Reader

/-! ## Identifiers -/

def isNameStart (c : Char) : Bool :=
  Text.isLetter c || c == '_'

def isNamePart (c : Char) : Bool :=
  Text.isLetter c || Text.isNumeral c || c == '_'

/-- An identifier is a letter or underscore followed by letters, numerals and underscores. -/
def isIdentifier (s : String) : Bool :=
  match s.toList with
  | [] => false
  | c :: cs => isNameStart c && cs.all isNamePart

/-- The next character can go on with the identifier read so far. -/
def continues (read : String) (c : Char) : Bool :=
  if read.isEmpty then isNameStart c else isNamePart c

/-! ## States -/

/-- How a reference begins: by `$` if its value is shown, by `@` if it is hidden. -/
inductive Sigil where
  | dollar
  | atSign
  deriving DecidableEq, Repr, Inhabited

def Sigil.node : Sigil → Reference → Node
  | .dollar, r => .shown r
  | .atSign, r => .hidden r

/-- The nodes of a template or group so far, the literal text that is gathering behind them, and
the number of parentheses open in the literal text of this body. -/
structure Body where
  nodes : Array Node := #[]
  text : String := ""
  parens : Nat := 0
  deriving Inhabited

/-- Ends the literal text that was gathering. -/
def Body.flush (b : Body) : Body :=
  if b.text.isEmpty then b else { b with nodes := b.nodes.push (.literal b.text), text := "" }

def Body.add (b : Body) (n : Node) : Body :=
  { b.flush with nodes := b.flush.nodes.push n }

def Body.push (b : Body) (c : Char) : Body :=
  { b with text := b.text.push c }

def Body.toNodes (b : Body) : List Node :=
  b.flush.nodes.toList

/-- What the reader is in the middle of. -/
inductive Mode where
  /-- Between parts, or in literal text. -/
  | text
  /-- Behind a backslash. -/
  | escape
  /-- Behind `$` or `@`. -/
  | sigil (s : Sigil)
  /-- In a name without braces. -/
  | bare (s : Sigil) (name : String)
  /-- Behind `{`, with the name so far. -/
  | braced (s : Sigil) (name : String)
  /-- Behind `{name:`, with the label so far. -/
  | labelled (s : Sigil) (name : String) (label : String)
  /-- Behind the parenthesis that closed a group. -/
  | closed (children : List Node)
  /-- Inside a separator whose opening parenthesis lies at `opened`. -/
  | separator (children : List Node) (opened : Nat) (text : String)
  /-- Behind a separator. -/
  | separated (children : List Node) (text : String)
  deriving Inhabited

/-- A body set aside while a group inside it is read, and where the `$` of that group lies. -/
structure Enclosing where
  body : Body
  opened : Nat
  deriving Inhabited

structure State where
  /-- The innermost open body. -/
  body : Body := {}
  /-- The bodies around it, innermost first. -/
  outer : List Enclosing := []
  mode : Mode := .text
  /-- How many characters have been read. -/
  position : Nat := 0
  deriving Inhabited

/-- How many groups are open. -/
def State.depth (st : State) : Nat :=
  st.outer.length

/-- The state with one part more, ready for the next. -/
def State.add (st : State) (n : Node) : State :=
  { st with body := st.body.add n, mode := .text }

/-- The state with one more character of literal text. -/
def State.push (st : State) (c : Char) : State :=
  { st with body := st.body.push c, mode := .text }

/-- Sets the body aside for that of a group. Its `$` is the character before the one being read. -/
def State.openGroup (st : State) : State :=
  { st with
    body := {}
    outer := ⟨st.body, st.position - 1⟩ :: st.outer
    mode := .text }

/-- The closing parenthesis of a body: back to the body around it. At the top there is none, and
the parenthesis is text. -/
def State.closeGroup (st : State) : State :=
  match st.outer with
  | [] => st.push ')'
  | e :: es => { st with body := e.body, outer := es, mode := .closed st.body.toNodes }

/-! ## Steps -/

/-- A character between parts. -/
def stepText (st : State) (c : Char) : State :=
  if c = '\\' then { st with mode := .escape }
  else if c = '$' then { st with mode := .sigil .dollar }
  else if c = '@' then { st with mode := .sigil .atSign }
  else if st.outer.isEmpty then st.push c
  else if c = '(' then
    { st.push c with body := { st.body.push c with parens := st.body.parens + 1 } }
  else if c = ')' then
    if st.body.parens = 0 then st.closeGroup
    else { st.push c with body := { st.body.push c with parens := st.body.parens - 1 } }
  else st.push c

/-- What the next character makes of a state, its position aside. -/
def stepMode (limit : Nat) (st : State) (c : Char) : Except ReadError State :=
  match st.mode with
  | .text => .ok (stepText st c)
  | .escape => .ok (st.push c)
  | .sigil s =>
    if c = '{' then .ok { st with mode := .braced s "" }
    else if c = '(' ∧ s = .dollar then
      if limit < st.depth + 1 then .error (.tooDeep limit) else .ok st.openGroup
    else if isNameStart c then .ok { st with mode := .bare s (String.singleton c) }
    else .error (.malformed .identifierExpected st.position)
  | .bare s name =>
    if isNamePart c then .ok { st with mode := .bare s (name.push c) }
    else .ok (stepText (st.add (s.node ⟨name, .none⟩)) c)
  | .braced s name =>
    if continues name c then .ok { st with mode := .braced s (name.push c) }
    else if name.isEmpty then .error (.malformed .identifierExpected st.position)
    else if c = '}' then .ok (st.add (s.node ⟨name, .none⟩))
    else if c = ':' then .ok { st with mode := .labelled s name "" }
    else .error (.malformed .bindingUnfinished st.position)
  | .labelled s name label =>
    if continues label c then .ok { st with mode := .labelled s name (label.push c) }
    else if label.isEmpty then .error (.malformed .identifierExpected st.position)
    else if c = '}' then .ok (st.add (s.node ⟨name, .some label⟩))
    else .error (.malformed .bindingUnclosed st.position)
  | .closed children =>
    if c = '*' then .ok (st.add (.group children .none))
    else if c = '(' then .ok { st with mode := .separator children st.position "" }
    else .ok { st with mode := .separated children (String.singleton c) }
  | .separator children opened text =>
    if c = ')' then .ok { st with mode := .separated children text }
    else .ok { st with mode := .separator children opened (text.push c) }
  | .separated children text =>
    if c = '*' then .ok (st.add (.group children (.some text)))
    else .error (.malformed .repeatExpected st.position)

/-- Reads one character. -/
def step (limit : Nat) (st : State) (c : Char) : Except ReadError State :=
  (stepMode limit st c).map fun next => { next with position := st.position + 1 }

/-- The end of the source between parts: every group has to be closed by then. -/
def State.close (st : State) : Except ReadError (List Node) :=
  match st.outer with
  | [] => .ok st.body.toNodes
  | e :: _ => .error (.malformed .groupUnterminated e.opened)

/-- The end of the source. -/
def finish (st : State) : Except ReadError (List Node) :=
  match st.mode with
  | .text => st.close
  | .escape => .error (.malformed .danglingEscape (st.position - 1))
  | .sigil _ => .error (.malformed .identifierExpected st.position)
  | .bare s name => (st.add (s.node ⟨name, .none⟩)).close
  | .braced _ name =>
    .error (.malformed (if name.isEmpty then .identifierExpected else .bindingUnfinished)
      st.position)
  | .labelled _ _ label =>
    .error (.malformed (if label.isEmpty then .identifierExpected else .bindingUnclosed)
      st.position)
  | .closed _ => .error (.malformed .separatorExpected st.position)
  | .separator _ opened _ => .error (.malformed .separatorUnterminated opened)
  | .separated _ _ => .error (.malformed .repeatExpected st.position)

/-- Reads on from a state. -/
def readFrom (limit : Nat) : State → List Char → Except ReadError State
  | st, [] => .ok st
  | st, c :: cs =>
    match step limit st c with
    | .ok next => readFrom limit next cs
    | .error e => .error e

/-- The nodes of a whole source. -/
def readChars (limit : Nat) (source : List Char) : Except ReadError (List Node) :=
  (readFrom limit {} source).bind finish

theorem readFrom_append (limit : Nat) (st : State) (cs ds : List Char) :
    readFrom limit st (cs ++ ds) =
      (readFrom limit st cs).bind fun next => readFrom limit next ds := by
  induction cs generalizing st with
  | nil => rfl
  | cons c cs ih =>
    simp only [List.cons_append, readFrom]
    cases step limit st c with
    | ok next => exact ih next
    | error e => rfl

end Reader

/-- **Reading a template.** The nodes that the source spells, if its groups nest at most `limit`
deep. -/
def readTemplate (limit : Nat) (source : String) : Except ReadError (List Node) :=
  Reader.readChars limit source.toList

end Lockstep
