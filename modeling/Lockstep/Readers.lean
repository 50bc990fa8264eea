/-
Readers of the two formats of files. A reader takes the bytes of a document and
gives the value it holds, or raises something (`ReaderFault`). Which readers
there are is left open; `Readers.standard` are those of this library.
-/
import Lockstep.Json.Reader
import Lockstep.Text.LineEnds
import Lockstep.Text.Utf8
import Lockstep.Yaml.Reader

namespace Lockstep

/-- What a reader raises where it gives no value. -/
inductive ReaderFault where
  /-- The document is malformed, as the reader tells it. -/
  | malformed (reason : String)
  /-- Bytes of the document are no text. -/
  | notText (reason : String)
  /-- A value in it cannot be made: a day that no month has, or a number that is too long. -/
  | badValue (reason : String)
  /-- Anything else, by the name of its kind. -/
  | other (kind : String)
  deriving DecidableEq, Repr, Inhabited

def ReaderFault.reason : ReaderFault → String
  | .malformed reason | .notText reason | .badValue reason => reason
  | .other kind => kind

structure Readers where
  json : List UInt8 → Except ReaderFault Value
  yaml : List UInt8 → Except ReaderFault Value

namespace Readers

/-- What the faults of a document come to, of which the first one counts. -/
def jsonFault : List Json.Fault → ReaderFault
  | .notText :: _ => .notText "not UTF-8 text"
  | _ => .malformed "<decode error>"

/-- The value of a JSON document. -/
def readJson (bytes : List UInt8) : Except ReaderFault Value :=
  match Json.read (Text.Utf8.decode bytes) with
  | .ok j => if j.faults.isEmpty then .ok j.toValue else .error (jsonFault j.faults)
  | .error j => .error (jsonFault j.faults)

/-- What an error in YAML text comes to. -/
def yamlFault : Yaml.ReadError → ReaderFault
  | .malformed => .malformed "<decode error>"
  | .oversized digits => .badValue <|
    s!"Exceeds the limit ({Decimal.integerLimit} digits) for integer string conversion: " ++
      s!"value has {digits} digits; use sys.set_int_max_str_digits() to increase the limit"

/-- The value of a YAML document. -/
def readYaml (bytes : List UInt8) : Except ReaderFault Value :=
  match Text.Utf8.text? bytes with
  | .none => .error (.notText "not UTF-8 text")
  | .some s => (Yaml.read (Text.unifyLineEnds s.toList)).mapError yamlFault

/-- The readers of this library. They read documents of plain values. -/
def standard : Readers where
  json := readJson
  yaml := readYaml

end Readers

end Lockstep
