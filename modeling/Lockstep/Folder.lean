/-
A folder of files, as far as a command can tell one: what is found where a
path leads, and what becomes of the folder when a file is written, with the
folders on the way to it made if they are not there.

A folder is the one that a command works in, and then nothing is known outside
of it; or it is the root of all, and the command works in some folder below.
-/
import Lockstep.Path

namespace Lockstep

/-- Why a file cannot be read or written. -/
inductive FileFault where
  | missing
  | isDirectory
  | notDirectory
  /-- A folder is to be made where a file lies. -/
  | occupied
  /-- Anything else, in the words of the system. -/
  | other (reason : String)
  deriving DecidableEq, Repr, Inhabited

def FileFault.reason : FileFault → String
  | .missing => "No such file or directory"
  | .isDirectory => "Is a directory"
  | .notDirectory => "Not a directory"
  | .occupied => "File exists"
  | .other reason => reason

inductive Entry where
  | file (bytes : List UInt8)
  | directory
  deriving Repr, Inhabited

structure Folder where
  /-- The entries by the names on the way to them. -/
  entries : List (List String × Entry) := []
  /-- The way from the root to where the command works, if the folder is the root. -/
  work? : Option (List String) := .none
  deriving Repr, Inhabited

namespace Folder

/-- Adds an entry, in the place of one that was there before. -/
def put (f : Folder) (way : List String) (e : Entry) : Folder :=
  { f with entries := f.entries.filter (·.1 != way) ++ [(way, e)] }

def ofList (entries : List (String × Entry)) : Folder :=
  entries.foldl (fun f e => f.put (Path.parts e.1) e.2) {}

/-- What lies at the end of a way without steps back. The way to an entry leads through folders. -/
def entry? (f : Folder) (way : List String) : Option Entry :=
  match f.entries.find? (·.1 == way) with
  | .some (_, e) => .some e
  | .none =>
    if way.isEmpty || f.entries.any (fun e => way.isPrefixOf e.1) then .some .directory else .none

/-- The way that a path starts from, and where one that starts with a slash leads from the root. -/
def start? (f : Folder) (path : String) : Option (List String) :=
  if (Path.root path).isEmpty then .some (f.work?.getD [])
  else if f.work?.isSome || (Path.parts path).isEmpty then .some []
  else .none

/-- The way one step back. From the root no step leads back. -/
def back? (f : Folder) (way : List String) : Option (List String) :=
  if way.isEmpty && f.work?.isNone then .none else .some way.dropLast

/-- Goes on along the names, from a folder that has been reached. Two dots lead back. -/
def walkFrom (f : Folder) (reached : List String) :
    List String → Except FileFault (List String × Entry)
  | [] => .ok (reached, .directory)
  | name :: rest =>
    if name = ".." then
      match f.back? reached with
      | .some way => walkFrom f way rest
      | .none => if rest.isEmpty then .ok ([], .directory) else .error .missing
    else
      let way := reached ++ [name]
      match f.entry? way with
      | .none => .error .missing
      | .some .directory => walkFrom f way rest
      | .some (.file bytes) =>
        if rest.isEmpty then .ok (way, .file bytes) else .error .notDirectory

/-- What a path leads to, and where that lies. -/
def walk (f : Folder) (path : String) : Except FileFault (List String × Entry) :=
  match f.start? path with
  | .some way => f.walkFrom way (Path.parts path)
  | .none => .error .missing

/-- The bytes of the file that a path leads to. -/
def read (f : Folder) (path : String) : Except FileFault (List UInt8) :=
  match f.walk path with
  | .ok (_, .file bytes) => .ok bytes
  | .ok (_, .directory) => .error .isDirectory
  | .error e => .error e

/-- Makes the folder at the end of the names, and those on the way to it. -/
def makeFrom (f : Folder) (reached : List String) :
    List String → Except FileFault (Folder × List String)
  | [] => .ok (f, reached)
  | name :: rest =>
    if name = ".." then
      match f.back? reached with
      | .some way => makeFrom f way rest
      | .none => .error .missing
    else
      let way := reached ++ [name]
      match f.entry? way with
      | .none => makeFrom (f.put way .directory) way rest
      | .some .directory => makeFrom f way rest
      | .some (.file _) => .error (if rest.isEmpty then .occupied else .notDirectory)

/-- The path that leads along a way from anywhere. -/
def path (f : Folder) (way : List String) : String :=
  (if f.work?.isSome then "/" else "") ++ String.intercalate "/" way

/-- Writes a file where a path leads, and says where that is. -/
def write (f : Folder) (path : String) (bytes : List UInt8) :
    Except FileFault (Folder × String) :=
  match f.start? path, (Path.parts path).getLast? with
  | .none, _ => .error .missing
  | .some _, .none => .error .isDirectory
  | .some start, .some last =>
    match f.makeFrom start (Path.parts path).dropLast with
    | .error e => .error e
    | .ok (made, reached) =>
      let way := reached ++ [last]
      if last = ".." then .error .isDirectory
      else
        match made.entry? way with
        | .some .directory => .error .isDirectory
        | _ => .ok (made.put way (.file bytes), made.path way)

end Folder

end Lockstep
