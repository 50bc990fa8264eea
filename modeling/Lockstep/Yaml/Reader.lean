/-
Reading YAML: one document of block mappings and sequences, which are held
together by their indentation, of collections in brackets, and of plain and
quoted scalars. Anchors, tags, block scalars and keys with a question mark
are not read; a text that has them is malformed here.

Every call spends fuel. A call that reads something leaves a shorter text,
and one that reads nothing is followed by one that does, so fuel that grows
with the length of the text is never used up (`read?`).
-/
import Lockstep.Decimal.Integer
import Lockstep.Value.Mapping
import Lockstep.Yaml.Lexeme
import Lockstep.Yaml.Scalar

namespace Lockstep.Yaml

/-- The blanks, line ends and comments in front are skipped. A mark that ends the document leaves
nothing. -/
def skip (rest : Rest) : Rest :=
  let c := toContent false 0 false rest
  if c.fresh && c.atEnd then [] else c.rest

/-- A colon makes a key of what is no further in front of it than this. -/
def keyLimit : Nat := 1024

/-- What lies between the beginnings of two rests of a text may be a key: it is short, and on one
line. -/
def isKeyText (rest left : Rest) : Bool :=
  let text := rest.take (rest.length - left.length)
  text.length ≤ keyLimit && !text.any isBreak

/-! ## Collections in brackets -/

mutual
/-- A node inside brackets. -/
def flowNode : (fuel : Nat) → Rest → Option (Value × Rest)
  | 0, _ => .none
  | fuel + 1, rest =>
    match rest with
    | '[' :: cs => (flowItems fuel (skip cs)).map fun (items, left) => (.list items, left)
    | '\x7b' :: cs =>
      (flowEntries fuel [] (skip cs)).map fun (entries, left) => (.dict entries, left)
    | '\'' :: _ | '"' :: _ => (quoted? rest).map fun (s, left) => (.text s, left)
    | _ =>
      if startsPlain true rest then
        let (s, left) := plain true 0 rest
        .some (plainValue s, left)
      else .none

/-- The value behind a colon inside brackets, which may be left out. -/
def flowValue : (fuel : Nat) → Rest → Option (Value × Rest)
  | 0, _ => .none
  | fuel + 1, rest =>
    match rest with
    | ',' :: _ | ']' :: _ | '\x7d' :: _ => .some (.null, rest)
    | _ => flowNode fuel rest

/-- Items up to the bracket that closes them. An item with a colon is a mapping of one entry. -/
def flowItems : (fuel : Nat) → Rest → Option (List Value × Rest)
  | 0, _ => .none
  | fuel + 1, rest =>
    match rest with
    | ']' :: cs => .some ([], cs)
    | _ => do
      let (first, left) ← flowNode fuel rest
      let (item, left) ← match skip left with
        | ':' :: cs =>
          if first.isKey && isKeyText rest (':' :: cs) then
            (flowValue fuel (skip cs)).map fun (v, left) => (Value.dict [(first, v)], skip left)
          else .none
        | left => .some (first, left)
      match left with
      | ',' :: cs =>
        let (items, left) ← flowItems fuel (skip cs)
        return (item :: items, left)
      | ']' :: cs => return ([item], cs)
      | _ => .none

/-- Entries up to the brace that closes them, behind those read before. -/
def flowEntries : (fuel : Nat) → List (Value × Value) → Rest → Option (List (Value × Value) × Rest)
  | 0, _, _ => .none
  | fuel + 1, entries, rest =>
    match rest with
    | '\x7d' :: cs => .some (entries, cs)
    | _ => do
      let (key, left) ← flowNode fuel rest
      let (v, left) ← match skip left with
        | ':' :: cs =>
          if isKeyText rest (':' :: cs) then
            (flowValue fuel (skip cs)).map fun (v, left) => (v, skip left)
          else .none
        | left => .some (Value.null, left)
      if key.isKey then
        let entries' := Value.insertEntry key v entries
        match left with
        | ',' :: cs => flowEntries fuel entries' (skip cs)
        | '\x7d' :: cs => return (entries', cs)
        | _ => .none
      else .none
end

/-! ## Blocks -/

/-- A node that is no block: it ends with its line. Plain scalars may go on over lines that are
indented by `indent` at least. -/
def inlineNode (fuel indent : Nat) (rest : Rest) : Option (Value × Rest) := do
  let (v, left) ← match rest with
    | '[' :: _ | '\x7b' :: _ => flowNode fuel rest
    | '\'' :: _ | '"' :: _ => (quoted? rest).map fun (s, left) => (Value.text s, left)
    | _ =>
      if startsPlain false rest then
        let (s, left) := plain false indent rest
        .some (plainValue s, left)
      else .none
  if lineIsOver left then return (v, left) else .none

/-- A key, and the text behind its colon. -/
def key? (rest : Rest) : Option (Value × Rest) := do
  let (k, left) ← match rest with
    | '\'' :: _ | '"' :: _ => (quoted? rest).map fun (s, left) => (Value.text s, left)
    | _ =>
      if startsPlain false rest then
        let (s, left) := plainLine rest
        .some (plainValue s, left)
      else .none
  match left.dropWhile (· == ' ') with
  | ':' :: cs =>
    if isSpaceOrEnd cs.head? && isKeyText rest (':' :: cs) then return (k, cs) else .none
  | _ => .none

mutual
/-- A node whose first part stands at a column, inside a block indented by less than `indent`. -/
def blockNode : (fuel indent column : Nat) → Rest → Option (Value × Rest)
  | 0, _, _, _ => .none
  | fuel + 1, indent, column, rest =>
    if startsItem rest then
      (blockItems fuel column rest).map fun (items, left) => (.list items, left)
    else
      match key? rest with
      | .some _ =>
        (blockEntries fuel column [] rest).map fun (entries, left) => (.dict entries, left)
      | .none => inlineNode fuel indent rest

/-- The items of a sequence whose dashes stand at a column. -/
def blockItems : (fuel column : Nat) → Rest → Option (List Value × Rest)
  | 0, _, _ => .none
  | fuel + 1, column, rest => do
    let behind := rest.drop 1
    let c := toContent false (column + 1) false behind
    let (item, left) ←
      if c.atEnd || (c.fresh && c.column ≤ column) then .some (Value.null, behind)
      else blockNode fuel (column + 1) c.column c.rest
    let next := toContent false 0 false left
    if next.atEnd || next.column < column then return ([item], left)
    else if next.column == column then
      if startsItem next.rest then
        let (items, left) ← blockItems fuel column next.rest
        return (item :: items, left)
      else return ([item], left)
    else .none

/-- The value behind a key of a mapping at a column. A sequence may stand at that column too. -/
def blockValue : (fuel column : Nat) → Rest → Option (Value × Rest)
  | 0, _, _ => .none
  | fuel + 1, column, rest =>
    let c := toContent false 0 false rest
    if c.atEnd then .some (.null, rest)
    else if !c.fresh then inlineNode fuel (column + 1) c.rest
    else if column < c.column || (c.column == column && startsItem c.rest) then
      blockNode fuel (column + 1) c.column c.rest
    else .some (.null, rest)

/-- The entries of a mapping whose keys stand at a column, behind those read before. -/
def blockEntries : (fuel column : Nat) → List (Value × Value) → Rest →
    Option (List (Value × Value) × Rest)
  | 0, _, _, _ => .none
  | fuel + 1, column, entries, rest => do
    let (key, behind) ← key? rest
    let (v, left) ← blockValue fuel column behind
    let entries' := Value.insertEntry key v entries
    let next := toContent false 0 false left
    if next.atEnd || next.column < column then return (entries', left)
    else if next.column == column then blockEntries fuel column entries' next.rest
    else .none
end

/-! ## Documents -/

/-- The characters that may stand in a document. -/
def isAllowed (c : Char) : Bool :=
  let n := c.toNat
  n == 9 || n == 10 || n == 13 || (0x20 ≤ n && n ≤ 0x7e) || n == 0x85 ||
    (0xa0 ≤ n && n ≤ 0xfffd) || 0x10000 ≤ n

/-- Nothing but blanks and comments follows, apart from marks that end the document. -/
def documentIsOver : (fuel column : Nat) → Rest → Bool
  | 0, _, _ => false
  | fuel + 1, column, rest =>
    let c := toContent false column false rest
    c.rest.isEmpty ||
      (c.column == 0 && isMark '.' c.rest && documentIsOver fuel 3 (c.rest.drop 3))

/-- A document behind its opening mark, if it has one. -/
def document (fuel : Nat) (rest : Rest) : Option (Value × Rest) :=
  let c := toContent false 0 true rest
  if c.column == 0 && isMark '-' c.rest then
    let behind := c.rest.drop 3
    let d := toContent false 3 false behind
    if d.atEnd then .some (.null, behind)
    else if d.fresh then blockNode fuel 0 d.column d.rest
    else inlineNode fuel 0 d.rest
  else if c.rest.isEmpty then .some (.null, rest)
  else if c.atEnd then .none
  else blockNode fuel 0 c.column c.rest

/-- The value of the document that a text holds. An empty one is null. -/
def read? (text : List Char) : Option Value :=
  let marked := match text with
    | c :: more => if c.toNat = 0xfeff then more else text
    | [] => []
  let cs := marked.map fun c => if c.toNat = 0x85 then '\n' else c
  if !cs.all isAllowed then .none
  else
    match document (4 * cs.length + 8) cs with
    | .some (v, rest) => if documentIsOver (rest.length + 1) 1 rest then .some v else .none
    | .none => .none

/-! ## Long numbers -/

/-- Why a text gives no value. -/
inductive ReadError where
  | malformed
  /-- A whole number in it is too long: how many digits it has. -/
  | oversized (digits : Nat)
  deriving DecidableEq, Repr, Inhabited

mutual
/-- The digits of the first whole number in a value that is too long. -/
def oversized? : Value → Option Nat
  | .int n =>
    let digits := (Nat.toDigits 10 n.natAbs).length
    if Decimal.integerLimit < digits then .some digits else .none
  | .list items => oversizedItems? items
  | .dict entries => oversizedEntries? entries
  | _ => .none

def oversizedItems? : List Value → Option Nat
  | [] => .none
  | v :: vs => (oversized? v).or (oversizedItems? vs)

def oversizedEntries? : List (Value × Value) → Option Nat
  | [] => .none
  | (key, v) :: es => ((oversized? key).or (oversized? v)).or (oversizedEntries? es)
end

/-- **Reading a YAML text**, which holds one document with no number too long. -/
def read (text : List Char) : Except ReadError Value :=
  match read? text with
  | .none => .error .malformed
  | .some v =>
    match oversized? v with
    | .some digits => .error (.oversized digits)
    | .none => .ok v

end Lockstep.Yaml
