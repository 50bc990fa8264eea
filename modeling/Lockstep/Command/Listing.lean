/-
The table of the names that a template needs: numbered from one, in columns
as wide as their widest cell, with lines around them.
-/

namespace Lockstep.Command.Listing

/-- A text with blanks behind it up to the width. -/
def padRight (width : Nat) (s : String) : String :=
  s ++ String.ofList (List.replicate (width - s.length) ' ')

def line (c : Char) (n : Nat) : String :=
  String.ofList (List.replicate n c)

/-- A row of two cells, with a blank on each side of a cell. -/
def row (edge : String) (w₁ w₂ : Nat) (a b : String) : String :=
  edge ++ " " ++ padRight w₁ a ++ " " ++ edge ++ " " ++ padRight w₂ b ++ " " ++ edge ++ "\n"

/-- A rule from edge to edge. -/
def rule (left middle right : String) (c : Char) (w₁ w₂ : Nat) : String :=
  left ++ line c (w₁ + 2) ++ middle ++ line c (w₂ + 2) ++ right ++ "\n"

def widest (cells : List String) : Nat :=
  cells.foldl (fun w s => max w s.length) 0

/-- The table of names. -/
def table (names : List String) : String :=
  let numbers := (List.range names.length).map fun i : Nat => toString (i + 1)
  let w₁ := widest ("#" :: numbers)
  let w₂ := widest ("Name" :: names)
  let rows := (numbers.zip names).map fun (i, name) => row "│" w₁ w₂ i name
  rule "┏" "┳" "┓" '━' w₁ w₂ ++
    row "┃" w₁ w₂ "#" "Name" ++
    rule "┡" "╇" "┩" '━' w₁ w₂ ++
    String.join rows ++
    rule "└" "┴" "┘" '─' w₁ w₂

/-- The names, or that there are none. -/
def text (names : List String) : String :=
  if names.isEmpty then "No variables found\n" else table names

end Lockstep.Command.Listing
