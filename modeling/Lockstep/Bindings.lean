/-
Bindings from outside: from a file that holds a mapping, in JSON if its name
says so and in YAML otherwise, and from items of the form `name=value`.
-/
import Lockstep.Folder
import Lockstep.Readers
import Lockstep.Text.Blank

namespace Lockstep

/-- Why a file gives no bindings. -/
inductive BindingsError where
  /-- It cannot be opened. -/
  | unreadable (fault : FileFault)
  /-- Its reader raises something. -/
  | unread (fault : ReaderFault)
  /-- What it holds is no mapping. -/
  | notMapping
  deriving DecidableEq, Repr, Inhabited

def BindingsError.reason : BindingsError → String
  | .unreadable fault => fault.reason
  | .unread fault => fault.reason
  | .notMapping => "top level must be a mapping"

def BindingsError.message (path : String) (e : BindingsError) : String :=
  s!"Could not load bindings from {Path.normal path}: {e.reason}"

/-- The file is said to be one that cannot be loaded. What its reader raises is passed on instead,
unless it says that the document is malformed. -/
def BindingsError.isOfLoading : BindingsError → Bool
  | .unreadable _ | .unread (.malformed _) | .notMapping => true
  | .unread _ => false

namespace Bindings

/-- Files with this suffix hold JSON, in whichever case it is written. -/
def isJson (path : String) : Bool :=
  (Path.suffix path).toList.map Char.toLower == ".json".toList

/-- What reads the file of a path. -/
def reader (readers : Readers) (path : String) : List UInt8 → Except ReaderFault Value :=
  if isJson path then readers.json else readers.yaml

/-- The value that stands for the bindings of a file. A YAML file that holds nothing, or a void
value, has none. -/
def bound (path : String) (v : Value) : Value :=
  if !isJson path && v.isVoid then .dict [] else v

/-- The entries of the mapping that the contents of a file are. -/
def ofContents (path : String) (contents : Except FileFault (List UInt8))
    (readers : Readers := .standard) : Except BindingsError (List (Value × Value)) :=
  match contents with
  | .error fault => .error (.unreadable fault)
  | .ok bytes =>
    match (reader readers path bytes).map (bound path) with
    | .error fault => .error (.unread fault)
    | .ok (.dict entries) => .ok entries
    | .ok _ => .error .notMapping

/-- The bindings that entries make: those of names. Other keys are no names of a template. -/
def table (entries : List (Value × Value)) : Table Value :=
  .ofList <| entries.filterMap fun e =>
    match e.1 with
    | .text name => .some (name, e.2)
    | _ => .none

end Bindings

/-! ## Items of the form `name=value` -/

/-- An item that has no equals sign, or no name in front of it. -/
structure DefineError where
  item : String
  deriving DecidableEq, Repr, Inhabited

def DefineError.message (e : DefineError) : String :=
  s!"Expected name=value, got '{e.item}'"

namespace Defines

/-- The name of an item without the blanks around it, and the text behind its first equals sign. -/
def item (s : String) : Except DefineError (String × String) :=
  let cs := s.toList
  match cs.dropWhile (· != '=') with
  | [] => .error ⟨s⟩
  | _ :: value =>
    let name := Text.trim (String.ofList (cs.takeWhile (· != '=')))
    if name.isEmpty then .error ⟨s⟩ else .ok (name, String.ofList value)

/-- The bindings of items; of several for one name the last one counts. -/
def table (items : List String) : Except DefineError (Table String) :=
  (items.mapM item).map Table.ofList

end Defines

end Lockstep
