/-
Control sequences: an escape character, a square bracket, parameters, and a
letter. They tell a terminal what to do and are no text. `strip` takes them
out, in one pass from the left; a text without escape characters stays as it
is (`strip_eq_self`).
-/

namespace Lockstep.Text.ControlSequence

/-- The character that begins every control sequence. -/
def escape : Char := '\x1b'

/-- A character that may stand between the bracket and the letter. -/
def isParameter (c : Char) : Bool :=
  c.isDigit || c == ';' || c == '?'

/-- How many characters make up the rest of the control sequence that an escape character in front
of the text begins. Without a bracket there, or a letter behind the parameters, it begins none. -/
def restLength? : List Char → Option Nat
  | '[' :: cs =>
    match cs.dropWhile isParameter with
    | c :: _ => if c.isAlpha then .some ((cs.takeWhile isParameter).length + 2) else .none
    | [] => .none
  | _ => .none

/-- The text without its control sequences; the first `skip` characters belong to one. -/
def stripFrom : (skip : Nat) → List Char → List Char
  | _, [] => []
  | skip + 1, _ :: cs => stripFrom skip cs
  | 0, c :: cs =>
    match if c = escape then restLength? cs else .none with
    | .some n => stripFrom n cs
    | .none => c :: stripFrom 0 cs

/-- The text without its control sequences. -/
def strip (s : String) : String :=
  String.ofList (stripFrom 0 s.toList)

theorem stripFrom_eq_self {cs : List Char} (h : escape ∉ cs) : stripFrom 0 cs = cs := by
  induction cs with
  | nil => rfl
  | cons c cs ih =>
    have hc : c ≠ escape := fun e => h (e ▸ List.mem_cons_self)
    have hcs : escape ∉ cs := fun m => h (List.mem_cons_of_mem c m)
    simp [stripFrom, hc, ih hcs]

theorem strip_eq_self {s : String} (h : escape ∉ s.toList) : strip s = s := by
  rw [strip, stripFrom_eq_self h, String.ofList_toList]

end Lockstep.Text.ControlSequence
