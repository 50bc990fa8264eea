/-
JSON documents as text: `Json.compact` writes no blanks, `Json.pretty` one
item or member on a line, each level two blanks further in.
-/
import Lockstep.Decimal.Notation
import Lockstep.Json.Basic
import Lockstep.Text.Hex

namespace Lockstep.Json

/-- One character of a string. Quotes, backslashes and control characters are escaped. -/
def stringChar (c : Char) : List Char :=
  match c with
  | '"' => ['\\', '"']
  | '\\' => ['\\', '\\']
  | '\x08' => ['\\', 'b']
  | '\x0c' => ['\\', 'f']
  | '\n' => ['\\', 'n']
  | '\r' => ['\\', 'r']
  | '\t' => ['\\', 't']
  | c => if c.toNat < 0x20 then '\\' :: 'u' :: Text.hexDigits 4 c.toNat else [c]

/-- A string between its quotes. -/
def stringText (s : String) : List Char :=
  '"' :: s.toList.flatMap stringChar ++ ['"']

/-- A document that has no parts. A fault has no text of its own. -/
def scalarText : Json → List Char
  | .null | .faulty _ => "null".toList
  | .bool true => "true".toList
  | .bool false => "false".toList
  | .int n => (toString n).toList
  | .float x => (Decimal.render x).toList
  | .string s => stringText s
  | .array _ => "[]".toList
  | .object _ => ['\x7b', '\x7d']

mutual
/-- The text of a document without blanks. -/
def compactText : Json → List Char
  | .array items => '[' :: compactItems items
  | .object members => '\x7b' :: compactMembers members
  | j => scalarText j

/-- Items with a comma between each two, and the bracket that closes them. -/
def compactItems : List Json → List Char
  | [] => [']']
  | [j] => compactText j ++ [']']
  | j :: js => compactText j ++ ',' :: compactItems js

def compactMembers : List (String × Json) → List Char
  | [] => ['\x7d']
  | [(name, j)] => stringText name ++ ':' :: compactText j ++ ['\x7d']
  | (name, j) :: ms => stringText name ++ ':' :: compactText j ++ ',' :: compactMembers ms
end

/-- The beginning of a new line at a level. -/
def newLine (level : Nat) : List Char :=
  '\n' :: List.replicate (2 * level) ' '

mutual
/-- The text of a document whose first line begins at a level. -/
def prettyText (level : Nat) : Json → List Char
  | .array (j :: js) => '[' :: newLine (level + 1) ++ prettyItems level (j :: js)
  | .object (m :: ms) => '\x7b' :: newLine (level + 1) ++ prettyMembers level (m :: ms)
  | j => scalarText j

/-- Items, each on its line, and the bracket on a line of its own. -/
def prettyItems (level : Nat) : List Json → List Char
  | [] => [']']
  | [j] => prettyText (level + 1) j ++ newLine level ++ [']']
  | j :: js => prettyText (level + 1) j ++ ',' :: newLine (level + 1) ++ prettyItems level js

def prettyMembers (level : Nat) : List (String × Json) → List Char
  | [] => ['\x7d']
  | [(name, j)] =>
    stringText name ++ ':' :: ' ' :: prettyText (level + 1) j ++ newLine level ++ ['\x7d']
  | (name, j) :: ms =>
    stringText name ++ ':' :: ' ' :: prettyText (level + 1) j ++ ',' :: newLine (level + 1) ++
      prettyMembers level ms
end

/-- A document on one line. -/
def compact (j : Json) : String :=
  String.ofList (compactText j)

/-- A document on many lines. -/
def pretty (j : Json) : String :=
  String.ofList (prettyText 0 j)

end Lockstep.Json
