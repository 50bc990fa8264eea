/-
Paths of files as they are named on a command line. The normal form of a
path leaves out what does not matter: single dots, and slashes that are
doubled or at the end.
-/
import Lockstep.Text.Pieces

namespace Lockstep.Path

/-- The names on the way of a path, from the first to the last. -/
def parts (path : String) : List String :=
  ((Text.split '/' path.toList).map String.ofList).filter fun p => p != "" && p != "."

/-- What a path begins with if it leads from the root: a slash, or the two slashes that have a
meaning of their own. -/
def root (path : String) : String :=
  match path.toList.takeWhile (· == '/') with
  | [] => ""
  | ['/', '/'] => "//"
  | _ => "/"

/-- The path in its normal form. Where nothing is left it is a dot. -/
def normal (path : String) : String :=
  let s := root path ++ String.intercalate "/" (parts path)
  if s.isEmpty then "." else s

/-- The last name of a path, if it has one. -/
def name (path : String) : String :=
  ((parts path).getLast?).getD ""

/-- The last dot of a file's name and what follows it. A dot at the beginning or at the end of the
name begins no suffix. -/
def suffix (path : String) : String :=
  let reversed := (name path).toList.reverse
  let extension := reversed.takeWhile (· != '.')
  let stem := (reversed.dropWhile (· != '.')).drop 1
  if extension.isEmpty || stem.isEmpty then ""
  else String.ofList ('.' :: extension.reverse)

end Lockstep.Path
