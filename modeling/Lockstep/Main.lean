/-
The command on a real system: reads the files it is asked for, the variables
of the environment and standard input, runs, and carries out the report.
-/
import Lockstep.Command.Run

namespace Lockstep.Main

open Command

/-- Why the system did not do something with the file of a path. -/
def faultOf (path : String) (e : IO.Error) : IO FileFault := do
  match e, ← (IO.FS.realPath (Path.normal path)).toBaseIO with
  | .noFileOrDirectory .., _ => return .missing
  | .alreadyExists .., _ => return .occupied
  | e, .ok place => return if ← place.isDir then .isDirectory else .other (toString e)
  | .inappropriateType .., .error _ => return .notDirectory
  | e, .error _ => return .other (toString e)

/-- The bytes of a file. -/
def readFile (path : String) : IO (Except FileFault (List UInt8)) := do
  match ← (IO.FS.readBinFile (Path.normal path)).toBaseIO with
  | .ok bytes => return .ok bytes.toList
  | .error e => return .error (← faultOf path e)

/-- Standard input to its end. -/
partial def readAll (stream : IO.FS.Stream) (read : ByteArray) : IO ByteArray := do
  let chunk ← stream.read 65536
  if chunk.isEmpty then return read else readAll stream (read ++ chunk)

/-- Writes a file, and the folders on the way to it. -/
def writeFile (path text : String) : IO (Except FileFault Unit) := do
  let parent := Path.root path ++ String.intercalate "/" (Path.parts path).dropLast
  let write : IO Unit := do
    if !parent.isEmpty then IO.FS.createDirAll parent
    IO.FS.writeFile (Path.normal path) text
  match ← write.toBaseIO with
  | .ok _ => return .ok ()
  | .error e => return .error (← faultOf path e)

/-- Carries out a report, and gives the code to exit with. -/
def carryOut (r : Report) : IO UInt32 := do
  IO.print r.stdout
  if let .some e := r.usage then IO.eprintln e.message
  if let .some message := r.error then IO.eprintln message
  match r.crash with
  | .some .notText => IO.eprintln "not UTF-8 text"
  | .some (.raised kind) => IO.eprintln kind
  | .some (.unwritable fault) => IO.eprintln fault.reason
  | .none => pure ()
  match r.save with
  | .none => return UInt32.ofNat r.exit
  | .some (path, text) =>
    match ← writeFile path text with
    | .ok _ => return UInt32.ofNat r.exit
    | .error fault =>
      IO.eprintln fault.reason
      return 1

end Lockstep.Main

open Lockstep Lockstep.Command Lockstep.Main in
def main (args : List String) : IO UInt32 := do
  match Invocation.ofArgs args with
  | .error e => carryOut (.misuse e)
  | .ok invocation =>
    let mut files : List (String × Except FileFault (List UInt8)) := []
    for path in invocation.files do
      files := (path, ← readFile path) :: files
    let stdin ← if invocation.readsStdin then readAll (← IO.getStdin) .empty else pure .empty
    let mut settings : Table String := ∅
    for name in [policyVariable, depthVariable] do
      if let .some value ← IO.getEnv name then settings := settings.insert name value
    let found := files
    let known := settings
    let inputs : Inputs := {
      file := fun path => ((found.find? (·.1 == path)).map (·.2)).getD (.error .missing)
      stdin := stdin.toList
      environment := known.get? }
    carryOut (perform inputs invocation)
