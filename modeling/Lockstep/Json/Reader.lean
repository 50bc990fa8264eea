/-
Reading JSON, one character at a time. The reader holds the arrays and
objects that are still open, each with the parts it has so far, and what it
is in the middle of. A character may be missing where the bytes of the text
were none (`.none`): inside a string that makes the string a fault and no
more, for it counts only where the string is needed. Where the grammar is
broken nothing more is read, but what came before is not lost: `read` gives
it as the error.

The grammar is the strict one: no comments, no commas at the end, no control
characters inside strings, no halves of surrogate pairs, and numbers only as
JSON spells them. A number with neither point nor exponent is whole; another
one is a fault where it is out of the range of doubles.
-/
import Lockstep.Decimal.Integer
import Lockstep.Decimal.Notation
import Lockstep.Json.Basic
import Lockstep.Text.Hex

namespace Lockstep.Json

/-- An array or object that is open, with the parts it has. -/
inductive Frame where
  | array (items : List Json)
  /-- An object between two members. -/
  | names (members : List (String × Json))
  /-- An object that waits for the value behind a name. -/
  | value (members : List (String × Json)) (name : Option String)
  deriving Inhabited

/-- What a string is read for. -/
inductive Purpose where
  | value
  | name
  deriving DecidableEq, Repr, Inhabited

/-- A string on the way: its characters in reverse, and whether bytes in it were no text. -/
structure Partial where
  reversed : List Char := []
  garbled : Bool := false
  deriving Repr, Inhabited

def Partial.push (p : Partial) (c : Char) : Partial :=
  { p with reversed := c :: p.reversed }

/-- The text of the string, if it is one. -/
def Partial.text? (p : Partial) : Option String :=
  if p.garbled then .none else .some (String.ofList p.reversed.reverse)

/-- What the reader is in the middle of. -/
inductive Mode where
  /-- Before a value. -/
  | value
  /-- Behind `[`: before an item, or the end of the array. -/
  | firstItem
  /-- Behind an opening brace: before a name, or the end of the object. -/
  | firstName
  /-- Behind a comma of an object. -/
  | nextName
  /-- Behind a name. -/
  | colon (name : Option String)
  /-- Behind an item or a member. -/
  | behind
  /-- Inside a string. -/
  | string (p : Purpose) (read : Partial)
  /-- Behind a backslash in a string. -/
  | escape (p : Purpose) (read : Partial)
  /-- In the four digits of an escape: how many are left, and the value so far. -/
  | unicode (p : Purpose) (read : Partial) (left : Nat) (n : Nat)
  /-- Behind the first half of a surrogate pair. -/
  | surrogate (p : Purpose) (read : Partial) (high : Nat)
  /-- Behind that and a backslash. -/
  | surrogateEscape (p : Purpose) (read : Partial) (high : Nat)
  /-- In the four digits of the second half. -/
  | surrogateUnicode (p : Purpose) (read : Partial) (high left n : Nat)
  /-- In a number, whose characters are held in reverse. -/
  | number (reversed : List Char)
  /-- In a word, of which `rest` is left. -/
  | word (rest : List Char) (j : Json)
  /-- Behind the whole document. -/
  | done (j : Json)
  /-- Behind the place where the grammar is broken, and the part that stands there. -/
  | broken (part : Json)
  deriving Inhabited

structure State where
  mode : Mode := .value
  /-- The open arrays and objects, innermost first. -/
  frames : List Frame := []
  deriving Inhabited

/-! ## Parts of documents -/

/-- What may stand between the parts of a document. -/
def isSpace (c : Char) : Bool :=
  c == ' ' || c == '\t' || c == '\n' || c == '\r'

/-- What a letter behind a backslash stands for. -/
def escapeChar? : Char → Option Char
  | '"' => .some '"'
  | '\\' => .some '\\'
  | '/' => .some '/'
  | 'b' => .some '\x08'
  | 'f' => .some '\x0c'
  | 'n' => .some '\n'
  | 'r' => .some '\r'
  | 't' => .some '\t'
  | _ => .none

def isNumberChar (c : Char) : Bool :=
  c.isDigit || c == '-' || c == '+' || c == '.' || c == 'e' || c == 'E'

/-- Digits without a nought too many in front. -/
def isWhole : List Char → Bool
  | [] => false
  | ['0'] => true
  | c :: cs => c != '0' && c.isDigit && cs.all Char.isDigit

/-- The whole number of digits, unless there are too many. -/
def whole (negative : Bool) (digits : List Char) : Json :=
  let sign := if negative then 1 else 0
  let n : Int := Decimal.digitsValue digits
  if Decimal.integerLimit < sign + digits.length then .faulty .outOfRange
  else .int (if negative then -n else n)

/-- A double, if it is a number. -/
def finite (x : Float) : Json :=
  match Decimal.Parts.ofFloat x with
  | .finite _ _ => .float x
  | _ => .faulty .outOfRange

/-- A point needs a digit behind it. -/
def isFraction : List Char → Bool
  | '.' :: more => (more.head?.map Char.isDigit).getD false
  | _ => true

/-- The number a text spells: a whole number without a nought too much in front, then maybe a
point with digits behind it, then maybe an exponent. -/
def number? (cs : List Char) : Option Json :=
  let (negative, unsigned) := match cs with
    | '-' :: ds => (true, ds)
    | ds => (false, ds)
  let digits := unsigned.takeWhile Char.isDigit
  let rest := unsigned.dropWhile Char.isDigit
  if !isWhole digits then .none
  else if rest.isEmpty then .some (whole negative digits)
  else if !isFraction rest then .none
  else (Decimal.readUnsigned? negative unsigned).map fun l => finite l.toFloat

/-! ## Open arrays and objects -/

/-- The frame with a part more. A part without a name stands under the empty one. -/
def Frame.push (j : Json) : Frame → Frame
  | .array items => .array (items ++ [j])
  | .names members => .names (members ++ [("", j)])
  | .value members name => .names (members ++ [member name j])

/-- The array or object that a frame makes when it ends here. -/
def Frame.close : Frame → Json
  | .array items => .array items
  | .names members | .value members _ => .object members

/-- The document that frames make around a part, if all of them end behind it. -/
def enclose (part : Json) (frames : List Frame) : Json :=
  frames.foldl (fun j f => (f.push j).close) part

namespace State

/-- The grammar is broken here, if it was not before. -/
def fail (st : State) : State :=
  match st.mode with
  | .done j => { st with mode := .broken j }
  | .broken _ => st
  | _ => { st with mode := .broken (.faulty .malformed) }

/-- A value is complete: it belongs to the innermost frame, or is the whole document. -/
def complete (j : Json) (frames : List Frame) : State :=
  match frames with
  | [] => { mode := .done j }
  | f :: fs => { mode := .behind, frames := f.push j :: fs }

/-- A string is complete. -/
def endString (st : State) (p : Purpose) (read : Partial) : State :=
  match p with
  | .value => complete ((read.text?.map Json.string).getD (.faulty .notText)) st.frames
  | .name => { st with mode := .colon read.text? }

/-- A number is complete. -/
def endNumber (st : State) (reversed : List Char) : State :=
  match number? reversed.reverse with
  | .some j => complete j st.frames
  | .none => st.fail

end State

/-! ## Steps -/

/-- The character that begins a value. -/
def beginValue (st : State) (c : Char) : State :=
  if isSpace c then st
  else if c = '"' then { st with mode := .string .value {} }
  else if c = '[' then { mode := .firstItem, frames := .array [] :: st.frames }
  else if c = '\x7b' then { mode := .firstName, frames := .names [] :: st.frames }
  else if c = '-' ∨ c.isDigit then { st with mode := .number [c] }
  else if c = 't' then { st with mode := .word ['r', 'u', 'e'] (.bool true) }
  else if c = 'f' then { st with mode := .word ['a', 'l', 's', 'e'] (.bool false) }
  else if c = 'n' then { st with mode := .word ['u', 'l', 'l'] .null }
  else st.fail

/-- The character behind a value: a comma, or the end of the array or object around it. -/
def afterValue (st : State) (c : Char) : State :=
  if isSpace c then st
  else
    match st.mode, st.frames with
    | .behind, .array items :: fs =>
      if c = ',' then { st with mode := .value }
      else if c = ']' then .complete (.array items) fs
      else st.fail
    | .behind, .names members :: fs =>
      if c = ',' then { st with mode := .nextName }
      else if c = '\x7d' then .complete (.object members) fs
      else st.fail
    | _, _ => st.fail

/-- A digit of an escape; the fourth one ends it. -/
def unicodeDigit (st : State) (p : Purpose) (read : Partial) (left n : Nat) (c : Char) : State :=
  match Text.hexValue? c with
  | .none => st.fail
  | .some d =>
    let n' := 16 * n + d
    if 1 < left then { st with mode := .unicode p read (left - 1) n' }
    else if 0xd800 ≤ n' ∧ n' < 0xdc00 then { st with mode := .surrogate p read n' }
    else if 0xdc00 ≤ n' ∧ n' < 0xe000 then st.fail
    else { st with mode := .string p (read.push (Char.ofNat n')) }

/-- A digit of the second half of a pair; the fourth one ends the pair. -/
def surrogateDigit (st : State) (p : Purpose) (read : Partial) (high left n : Nat) (c : Char) :
    State :=
  match Text.hexValue? c with
  | .none => st.fail
  | .some d =>
    let n' := 16 * n + d
    if 1 < left then { st with mode := .surrogateUnicode p read high (left - 1) n' }
    else if 0xdc00 ≤ n' ∧ n' < 0xe000 then
      let pair := 0x10000 + (high - 0xd800) * 0x400 + (n' - 0xdc00)
      { st with mode := .string p (read.push (Char.ofNat pair)) }
    else st.fail

/-- The character behind a name has to be a colon. -/
def afterName (st : State) (name : Option String) (c : Char) : State :=
  if isSpace c then st
  else
    match st.frames with
    | .names members :: fs =>
      if c = ':' then { mode := .value, frames := .value members name :: fs } else st.fail
    | _ => st.fail

/-- Reads one character. -/
def stepChar (st : State) (c : Char) : State :=
  match st.mode with
  | .value => beginValue st c
  | .firstItem => if c = ']' then afterValue { st with mode := .behind } c else beginValue st c
  | .firstName =>
    if isSpace c then st
    else if c = '"' then { st with mode := .string .name {} }
    else if c = '\x7d' then afterValue { st with mode := .behind } c
    else st.fail
  | .nextName =>
    if isSpace c then st
    else if c = '"' then { st with mode := .string .name {} }
    else st.fail
  | .colon name => afterName st name c
  | .behind | .done _ | .broken _ => afterValue st c
  | .string p read =>
    if c = '"' then st.endString p read
    else if c = '\\' then { st with mode := .escape p read }
    else if c.toNat < 0x20 then st.fail
    else { st with mode := .string p (read.push c) }
  | .escape p read =>
    if c = 'u' then { st with mode := .unicode p read 4 0 }
    else
      match escapeChar? c with
      | .some d => { st with mode := .string p (read.push d) }
      | .none => st.fail
  | .unicode p read left n => unicodeDigit st p read left n c
  | .surrogate p read high =>
    if c = '\\' then { st with mode := .surrogateEscape p read high } else st.fail
  | .surrogateEscape p read high =>
    if c = 'u' then { st with mode := .surrogateUnicode p read high 4 0 } else st.fail
  | .surrogateUnicode p read high left n => surrogateDigit st p read high left n c
  | .number reversed =>
    if isNumberChar c then { st with mode := .number (c :: reversed) }
    else afterValue (st.endNumber reversed) c
  | .word rest j =>
    match rest with
    | [] => st.fail
    | r :: rs =>
      if c ≠ r then st.fail
      else if rs.isEmpty then .complete j st.frames
      else { st with mode := .word rs j }

/-- Reads one character, or a byte that is none. -/
def step (st : State) : Option Char → State
  | .some c => stepChar st c
  | .none =>
    match st.mode with
    | .string p read => { st with mode := .string p { read with garbled := true } }
    | .number reversed => (st.endNumber reversed).fail
    | _ => st.fail

/-- The end of the text may end a number. -/
def State.atEnd (st : State) : State :=
  match st.mode with
  | .number reversed => st.endNumber reversed
  | _ => st

/-- The document, or what there is of one. -/
def State.document (st : State) : Except Json Json :=
  match st.mode with
  | .done j => .ok j
  | .broken part => .error (enclose part st.frames)
  | _ => .error (enclose (.faulty .malformed) st.frames)

/-- **Reading a JSON document**, which is the whole text apart from space around it. If the text is
none, the error is what there is of a document: up to the place where the grammar is broken, with
the fault there, or the whole one that more text follows. -/
def read (text : List (Option Char)) : Except Json Json :=
  (text.foldl step {}).atEnd.document

end Lockstep.Json
