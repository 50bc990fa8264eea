/-
What a plain YAML scalar stands for: null, a truth value, a number, or the
text itself. Whole numbers may be binary, octal, decimal, hexadecimal or in
sixties, and underscores may stand among their digits; other numbers have to
have a point.
-/
import Lockstep.Decimal.Notation
import Lockstep.Text.Hex
import Lockstep.Text.Pieces
import Lockstep.Value.Basic

namespace Lockstep.Yaml

def nullWords : List String :=
  ["", "~", "null", "Null", "NULL"]

def trueWords : List String :=
  ["yes", "Yes", "YES", "true", "True", "TRUE", "on", "On", "ON"]

def falseWords : List String :=
  ["no", "No", "NO", "false", "False", "FALSE", "off", "Off", "OFF"]

/-- The sign in front of a number, and what follows it. -/
def splitSign : List Char → Bool × List Char
  | '-' :: cs => (true, cs)
  | '+' :: cs => (false, cs)
  | cs => (false, cs)

def signed (negative : Bool) (n : Nat) : Int :=
  if negative then -(n : Int) else n

/-- The value of digits in a base; underscores do not count. -/
def valueIn (base : Nat) (cs : List Char) : Nat :=
  (cs.filter (· != '_')).foldl (fun n c => base * n + (Text.hexValue? c).getD 0) 0

/-- A decimal digit or underscore. -/
def isDigitOrBar (c : Char) : Bool :=
  c.isDigit || c == '_'

/-- One place of a number in sixties that is not the first: one digit, or two below sixty. -/
def isSixtieth : List Char → Bool
  | [d] => d.isDigit
  | [d, e] => '0' ≤ d && d ≤ '5' && e.isDigit
  | _ => false

/-- The first place of a number: a digit, then digits and underscores. -/
def isWhole : List Char → Bool
  | [] => false
  | c :: cs => c.isDigit && cs.all isDigitOrBar

def sixties (places : List (List Char)) : Nat :=
  places.foldl (fun n p => 60 * n + valueIn 10 p) 0

/-- The whole number without sign that a text spells. -/
def natural? (cs : List Char) : Option Nat :=
  match cs with
  | ['0'] => .some 0
  | '0' :: 'b' :: ds =>
    if !ds.isEmpty && ds.all (fun c => c == '0' || c == '1' || c == '_') then
      .some (valueIn 2 ds)
    else .none
  | '0' :: 'x' :: ds =>
    if !ds.isEmpty && ds.all (fun c => (Text.hexValue? c).isSome || c == '_') then
      .some (valueIn 16 ds)
    else .none
  | '0' :: ds =>
    if ds.all (fun c => '0' ≤ c && c ≤ '7' || c == '_') then .some (valueIn 8 ds) else .none
  | _ =>
    match Text.split ':' cs with
    | [] => .none
    | first :: more =>
      if isWhole first && more.all isSixtieth then .some (sixties (first :: more)) else .none

def integer? (cs : List Char) : Option Int :=
  let (negative, ds) := splitSign cs
  (natural? ds).map (signed negative)

/-- An exponent that has a sign, or nothing. -/
def exponent? : List Char → Option Int
  | [] => .some 0
  | e :: s :: ds =>
    if (e = 'e' ∨ e = 'E') ∧ (s = '+' ∨ s = '-') ∧ ds ≠ [] ∧ ds.all Char.isDigit then
      .some (signed (s == '-') (Decimal.digitsValue ds))
    else .none
  | _ => .none

/-- A decimal with a point; without a digit before it there is no sign. -/
def decimal? (cs : List Char) : Option Decimal.Literal := do
  let (negative, ds) := splitSign cs
  let whole := ds.takeWhile isDigitOrBar
  let more ← match ds.dropWhile isDigitOrBar with
    | '.' :: more => .some more
    | _ => .none
  let fraction := more.takeWhile isDigitOrBar
  let exponent ← exponent? (more.dropWhile isDigitOrBar)
  let ok := if whole.isEmpty then ds.length == cs.length && isWhole fraction else isWhole whole
  if ok then
    return ⟨negative, whole.filter (· != '_'), fraction.filter (· != '_'), exponent⟩
  else .none

/-- A number in sixties with a point behind its last place. -/
def sixtiesDecimal? (cs : List Char) : Option Float := do
  let (negative, ds) := splitSign cs
  let fraction ← match ds.dropWhile (· != '.') with
    | '.' :: more => .some more
    | _ => .none
  match Text.split ':' (ds.takeWhile (· != '.')) with
  | first :: second :: more =>
    if isWhole first && (second :: more).all isSixtieth && fraction.all isDigitOrBar then
      let digits := fraction.filter (· != '_')
      let d := Nat.pow 10 digits.length
      let n := sixties (first :: second :: more) * d + Decimal.digitsValue digits
      return Decimal.nearest negative n d
    else .none
  | _ => .none

def float? (cs : List Char) : Option Float :=
  let (negative, ds) := splitSign cs
  let s := String.ofList ds
  if s = ".inf" ∨ s = ".Inf" ∨ s = ".INF" then
    Decimal.read? (if negative then "-inf" else "inf")
  else if ds.length = cs.length ∧ (s = ".nan" ∨ s = ".NaN" ∨ s = ".NAN") then
    Decimal.read? "nan"
  else (decimal? cs).map Decimal.Literal.toFloat |>.or (sixtiesDecimal? cs)

/-- The value of a plain scalar. -/
def plainValue (s : String) : Value :=
  let cs := s.toList
  if nullWords.contains s then .null
  else if trueWords.contains s then .bool true
  else if falseWords.contains s then .bool false
  else match integer? cs, float? cs with
    | .some n, _ => .int n
    | .none, .some x => .float x
    | .none, .none => .text s

end Lockstep.Yaml
