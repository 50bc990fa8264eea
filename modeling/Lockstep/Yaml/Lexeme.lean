/-
The smallest parts of YAML text: blanks and comments between parts, plain
scalars, and quoted scalars with their escapes and folded line ends. Every
reader here takes the text that is left and gives what it read with the text
left behind it.
-/
import Lockstep.Text.Hex

namespace Lockstep.Yaml

/-- What is left of a text. -/
abbrev Rest := List Char

/-! ## Between parts -/

/-- The end of a line: a line feed, or a separator of lines or paragraphs. -/
def isBreak (c : Char) : Bool :=
  c == '\n' || c == '\u2028' || c == '\u2029'

/-- The end of a line, or a blank. -/
def isSpace (c : Char) : Bool :=
  c == ' ' || c == '\t' || isBreak c

/-- The end of a line or of the text, or a blank. -/
def isSpaceOrEnd (c : Option Char) : Bool :=
  (c.map isSpace).getD true

/-- The text from the next part on, past blanks, line ends and comments. -/
structure Content where
  rest : Rest
  /-- The column of the part in its line. -/
  column : Nat
  /-- Whether a line end lies before it. -/
  fresh : Bool

/-- Looks for the next part from a column on. -/
def toContent (comment : Bool) (column : Nat) (fresh : Bool) : Rest → Content
  | [] => ⟨[], column, fresh⟩
  | c :: cs =>
    if isBreak c then toContent false 0 true cs
    else if comment then toContent true (column + 1) fresh cs
    else if c = ' ' then toContent false (column + 1) fresh cs
    else if c = '#' then toContent true (column + 1) fresh cs
    else ⟨c :: cs, column, fresh⟩

/-- The text begins with a mark: one character three times, and then none that goes on. -/
def isMark (mark : Char) : Rest → Bool
  | a :: b :: c :: cs => a == mark && b == mark && c == mark && isSpaceOrEnd cs.head?
  | _ => false

/-- A mark that begins or ends a document, if it stands at the beginning of a line. -/
def isDocumentMark (rest : Rest) : Bool :=
  isMark '-' rest || isMark '.' rest

/-- The document has no part more. -/
def Content.atEnd (c : Content) : Bool :=
  c.rest.isEmpty || (c.column == 0 && isDocumentMark c.rest)

/-- A dash that begins an item of a sequence. -/
def startsItem : Rest → Bool
  | '-' :: cs => isSpaceOrEnd cs.head?
  | _ => false

/-- Nothing more stands on the line, apart from a comment. -/
def lineIsOver (rest : Rest) : Bool :=
  match rest.dropWhile (· == ' ') with
  | [] => true
  | c :: _ => isBreak c || c == '#'

/-! ## Plain scalars -/

def flowMarks : List Char :=
  [',', '[', ']', '\x7b', '\x7d']

/-- The character ends a plain scalar: a blank, a colon that a value follows, or inside brackets
one of the characters that divide them. -/
def endsPlain (flow : Bool) (c : Char) (next : Option Char) : Bool :=
  isSpace c ||
    (c == ':' && (isSpaceOrEnd next || (flow && (next.map flowMarks.contains).getD false))) ||
    (flow && (c == '?' || flowMarks.contains c))

/-- A piece of a plain scalar, without blanks. -/
def plainPiece (flow : Bool) : Rest → List Char × Rest
  | [] => ([], [])
  | c :: cs =>
    if endsPlain flow c cs.head? then ([], c :: cs)
    else
      let (piece, rest) := plainPiece flow cs
      (c :: piece, rest)

/-- The characters that begin something other than a plain scalar. -/
def indicators : List Char :=
  ['-', '?', ':', ',', '[', ']', '\x7b', '\x7d', '#', '&', '*', '!', '|', '>', '\'', '"', '%', '@',
    '\x60', '\t']

/-- A plain scalar begins here. A dash begins one if no blank follows it, and so do a question mark
and a colon outside brackets. -/
def startsPlain (flow : Bool) : Rest → Bool
  | [] => false
  | c :: cs =>
    !indicators.contains c ||
      (!isSpaceOrEnd cs.head? && (c == '-' || (!flow && (c == '?' || c == ':'))))

/-- What stands between two pieces of a scalar. -/
structure Gap where
  blanks : Nat := 0
  /-- The ends of lines, after which blanks do not count. -/
  breaks : List Char := []
  /-- The column reached, if there is an end of a line. -/
  column : Nat := 0

/-- The gap in front of a text, behind the part of it that is known. -/
def gap (g : Gap) : Rest → Gap × Rest
  | [] => (g, [])
  | c :: cs =>
    if isBreak c then gap { g with breaks := g.breaks ++ [c], column := 0 } cs
    else if c = ' ' then
      if g.breaks.isEmpty then gap { g with blanks := g.blanks + 1 } cs
      else gap { g with column := g.column + 1 } cs
    else (g, c :: cs)

/-- What ends of lines inside a scalar stand for: the first one, if it is a line feed, for a blank
where it is the only one and for nothing elsewhere; all others for themselves. -/
def folded : List Char → List Char
  | [] => []
  | c :: cs => if c ≠ '\n' then c :: cs else if cs.isEmpty then [' '] else cs

/-- The pieces behind the first one of a plain scalar, over lines that are indented by `indent` at
least. -/
def plainMore (flow : Bool) (indent : Nat) : (fuel : Nat) → Rest → List Char × Rest
  | 0, rest => ([], rest)
  | fuel + 1, rest =>
    let (g, next) := gap {} rest
    let stops := (g.blanks == 0 && g.breaks.isEmpty) || next.head? == .some '#' ||
      (!g.breaks.isEmpty && ((!flow && g.column < indent) ||
        (g.column == 0 && isDocumentMark next)))
    let (piece, behind) := plainPiece flow next
    if stops || piece.isEmpty then ([], rest)
    else
      let (more, left) := plainMore flow indent fuel behind
      let between := if g.breaks.isEmpty then List.replicate g.blanks ' ' else folded g.breaks
      (between ++ piece ++ more, left)

/-- A plain scalar that may go on over lines. -/
def plain (flow : Bool) (indent : Nat) (rest : Rest) : String × Rest :=
  let (first, behind) := plainPiece flow rest
  let (more, left) := plainMore flow indent behind.length behind
  (String.ofList (first ++ more), left)

/-- The pieces of a plain scalar that lie on one line. -/
def plainLineMore : (fuel : Nat) → Rest → List Char × Rest
  | 0, rest => ([], rest)
  | fuel + 1, rest =>
    let blanks := rest.takeWhile (· == ' ')
    let next := rest.dropWhile (· == ' ')
    let (piece, behind) := plainPiece false next
    if blanks.isEmpty || next.head? == .some '#' || piece.isEmpty then ([], rest)
    else
      let (more, left) := plainLineMore fuel behind
      (blanks ++ piece ++ more, left)

/-- A plain scalar on one line, as keys are. -/
def plainLine (rest : Rest) : String × Rest :=
  let (first, behind) := plainPiece false rest
  let (more, left) := plainLineMore behind.length behind
  (String.ofList (first ++ more), left)

/-! ## Quoted scalars -/

/-- What a character behind a backslash stands for. -/
def escapeChar? : Char → Option Char
  | '0' => .some '\x00'
  | 'a' => .some '\x07'
  | 'b' => .some '\x08'
  | 't' => .some '\t'
  | 'n' => .some '\n'
  | 'v' => .some '\x0b'
  | 'f' => .some '\x0c'
  | 'r' => .some '\r'
  | 'e' => .some '\x1b'
  | ' ' => .some ' '
  | '\t' => .some '\t'
  | '"' => .some '"'
  | '\\' => .some '\\'
  | '/' => .some '/'
  | 'N' => .some (Char.ofNat 0x85)
  | '_' => .some (Char.ofNat 0xa0)
  | 'L' => .some (Char.ofNat 0x2028)
  | 'P' => .some (Char.ofNat 0x2029)
  | _ => .none

/-- How many hexadecimal digits follow such a character. -/
def escapeWidth? : Char → Option Nat
  | 'x' => .some 2
  | 'u' => .some 4
  | 'U' => .some 8
  | _ => .none

/-- The character of hexadecimal digits. -/
def hexChar? (ds : List Char) : Option Char := do
  let n ← ds.foldlM (fun n d => (Text.hexValue? d).map (16 * n + ·)) 0
  if n < 0xd800 ∨ (0xe000 ≤ n ∧ n ≤ 0x10ffff) then return Char.ofNat n else .none

/-- The ends of lines in a quoted scalar, past the blanks that the next lines begin with, and the
text behind them. `fresh` says that a line begins here: it may not begin with a mark. -/
def quotedBreaks (fresh : Bool) (breaks : List Char) : Rest → Option (List Char × Rest)
  | [] => .some (breaks, [])
  | c :: cs =>
    if fresh && isDocumentMark (c :: cs) then .none
    else if isBreak c then quotedBreaks true (breaks ++ [c]) cs
    else if c = ' ' ∨ c = '\t' then quotedBreaks false breaks cs
    else .some (breaks, c :: cs)

/-- What blanks and ends of lines in a quoted scalar stand for. The blanks before the end of a line
are dropped. -/
def quotedGap (rest : Rest) : Option (List Char × Rest) :=
  let isBlank (c : Char) : Bool := c == ' ' || c == '\t'
  let left := rest.dropWhile isBlank
  if (left.head?.map isBreak).getD false then
    (quotedBreaks false [] left).map fun (breaks, left) => (folded breaks, left)
  else .some (rest.takeWhile isBlank, left)

/-- The rest of a scalar between single quotes. A quote written twice stands for one. -/
def singleQuoted : (fuel : Nat) → Rest → Option (List Char × Rest)
  | 0, _ => .none
  | fuel + 1, rest =>
    match rest with
    | [] => .none
    | '\'' :: '\'' :: cs => (singleQuoted fuel cs).map fun (text, left) => ('\'' :: text, left)
    | '\'' :: cs => .some ([], cs)
    | c :: cs =>
      if isSpace c then do
        let (gap, left) ← quotedGap rest
        let (text, left) ← singleQuoted fuel left
        return (gap ++ text, left)
      else (singleQuoted fuel cs).map fun (text, left) => (c :: text, left)

/-- The rest of a scalar between double quotes. -/
def doubleQuoted : (fuel : Nat) → Rest → Option (List Char × Rest)
  | 0, _ => .none
  | fuel + 1, rest =>
    match rest with
    | [] => .none
    | '"' :: cs => .some ([], cs)
    | '\\' :: e :: cs =>
      if isBreak e then do
        let (breaks, left) ← quotedBreaks true [] cs
        let (text, left) ← doubleQuoted fuel left
        return (breaks ++ text, left)
      else match escapeChar? e, escapeWidth? e with
      | .some c, _ => (doubleQuoted fuel cs).map fun (text, left) => (c :: text, left)
      | .none, .some width =>
        if cs.length < width then .none
        else do
          let c ← hexChar? (cs.take width)
          let (text, left) ← doubleQuoted fuel (cs.drop width)
          return (c :: text, left)
      | .none, .none => .none
    | c :: cs =>
      if isSpace c then do
        let (gap, left) ← quotedGap rest
        let (text, left) ← doubleQuoted fuel left
        return (gap ++ text, left)
      else (doubleQuoted fuel cs).map fun (text, left) => (c :: text, left)

/-- A quoted scalar. -/
def quoted? : Rest → Option (String × Rest)
  | '\'' :: cs =>
    (singleQuoted (cs.length + 1) cs).map fun (text, left) => (String.ofList text, left)
  | '"' :: cs =>
    (doubleQuoted (cs.length + 1) cs).map fun (text, left) => (String.ofList text, left)
  | _ => .none

end Lockstep.Yaml
