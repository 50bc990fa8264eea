/-
Options from settings that users give as values of any kind, or as variables
of the environment. Each setting is checked by itself, and all complaints are
told together, the one about the length policy first.
-/
import Lockstep.Decimal.Binary
import Lockstep.Decimal.Integer
import Lockstep.Options.Basic
import Lockstep.Text.Blank
import Lockstep.Text.Utf8
import Lockstep.Value.Basic

namespace Lockstep

/-- What can be set. -/
inductive Setting where
  | lengthPolicy
  | maxDepth
  deriving DecidableEq, Repr, Inhabited

/-- What is wrong with the value of a setting. -/
inductive Complaint where
  /-- It is no name of a policy. -/
  | unknownPolicy
  /-- It is of a kind that no whole number can be read from. -/
  | notInteger
  /-- It is a text that spells no whole number. -/
  | unreadable
  /-- It is a number too long or too large to be taken for a whole one. -/
  | oversized
  | fractional
  | notFinite
  | tooSmall
  | tooLarge
  deriving DecidableEq, Repr, Inhabited

namespace Settings

/-- The text that a value is, or that its bytes spell. -/
def text? : Value → Option String
  | .text s => .some s
  | .bytes bs | .buffer bs => Text.Utf8.text? bs
  | _ => .none

/-- The policy a value names. -/
def policy (v : Value) : Except Complaint LengthPolicy :=
  match (text? v).bind LengthPolicy.ofName? with
  | .some p => .ok p
  | .none => .error .unknownPolicy

/-- The whole number that a text spells. -/
def spelled (s : String) : Except Complaint Int :=
  (Decimal.readInteger s).mapError fun
    | .malformed => .unreadable
    | .oversized => .oversized

/-- Doubles from this number on, of either sign, are no whole numbers here. -/
def wholeBound : Nat := Nat.pow 2 63

/-- The whole number a value stands for. Fixed bytes count as the text they hold. -/
def integer : Value → Except Complaint Int
  | .int n => .ok n
  | .bool b => .ok (if b then 1 else 0)
  | .float x =>
    match Decimal.Parts.ofFloat x with
    | .finite negative m =>
      match (Decimal.Parts.finite negative m).toInt? with
      | .some n => if n.natAbs < wholeBound then .ok n else .error .oversized
      | .none => .error .fractional
    | _ => .error .notFinite
  | .text s => spelled s
  | .bytes bs =>
    match Text.Utf8.text? bs with
    | .some s => spelled s
    | .none => .error .unreadable
  | _ => .error .notInteger

/-- The limit a value stands for. -/
def limit (v : Value) : Except Complaint DepthLimit :=
  match integer v with
  | .error e => .error e
  | .ok n =>
    match DepthLimit.ofInt? n with
    | .some l => .ok l
    | .none => .error (if n < 1 then .tooSmall else .tooLarge)

/-- A setting that may have been left out, with the complaint about it. -/
def checked {α : Type} (setting : Setting) (check : Value → Except Complaint α) (standard : α) :
    Option Value → Except (Setting × Complaint) α
  | .none => .ok standard
  | .some v => (check v).mapError fun c => (setting, c)

end Settings

/-- The options that the settings make; a setting that is left out has its standard value. -/
def Options.ofSettings (policy limit : Option Value) :
    Except (List (Setting × Complaint)) Options :=
  let standard : Options := {}
  let p := Settings.checked .lengthPolicy Settings.policy standard.lengthPolicy policy
  let l := Settings.checked .maxDepth Settings.limit standard.maxDepth limit
  match p, l with
  | .ok p, .ok l => .ok { lengthPolicy := p, maxDepth := l }
  | .ok _, .error c => .error [c]
  | .error c, .ok _ => .error [c]
  | .error c, .error d => .error [c, d]

/-- The variables of the environment that settings are read from. -/
def policyVariable : String := "EXTFMT_LENGTH_POLICY"

def depthVariable : String := "EXTFMT_MAX_DEPTH"

namespace Settings

/-- A variable that is there and not empty, trimmed. -/
def fromVariable (environment : String → Option String) (name : String) : Option String :=
  match environment name with
  | .some s => if s.isEmpty then .none else .some (Text.trim s)
  | .none => .none

/-- A value that is given and not null. -/
def given : Option Value → Option Value
  | .some .null => .none
  | v => v

end Settings

/-- The options that the environment's variables make. Values that are given come before them. A
policy may be written in capitals there. -/
def Options.fromEnvironment (environment : String → Option String) (policy limit : Option Value) :
    Except (List (Setting × Complaint)) Options :=
  let envPolicy := (Settings.fromVariable environment policyVariable).map fun s =>
    Value.text (String.ofList (s.toList.map Char.toLower))
  let envLimit := (Settings.fromVariable environment depthVariable).map Value.text
  Options.ofSettings ((Settings.given policy).or envPolicy) ((Settings.given limit).or envLimit)

end Lockstep
