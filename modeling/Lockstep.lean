import Lockstep.Main
import Lockstep.Scope.Forest
import Lockstep.Proofs.Template.Reads
import Lockstep.Proofs.Render.Refinement
import Lockstep.Proofs.Render.Environment
import Lockstep.Proofs.Render.Strict
import Lockstep.Proofs.Render.LaneReference
import Lockstep.Proofs.Render.FirstMissing
import Lockstep.Proofs.Render.Rows
import Lockstep.Proofs.Scope.Alike
import Lockstep.Proofs.Render.Siblings
import Lockstep.Proofs.Render.Failures
import Lockstep.Proofs.Render.Aliases
import Lockstep.Proofs.Render.Hiding
import Lockstep.Proofs.Render.Reduced
import Lockstep.Proofs.Template.Canonical
import Lockstep.Proofs.Template.Openers
import Lockstep.Proofs.Template.Places
import Lockstep.Proofs.Render.Nesting
import Lockstep.Proofs.Text.Utf8
import Lockstep.Proofs.Json.Reading
import Lockstep.Proofs.Sequencing
import Lockstep.Proofs.Template.Documents
import Lockstep.Proofs.Text.Spelling
import Lockstep.Proofs.Text.Indent
import Lockstep.Proofs.Format.Literal
import Lockstep.Proofs.Format.Quoting
import Lockstep.Proofs.Table
import Lockstep.Proofs.Bindings
import Lockstep.Proofs.Folder
import Lockstep.Proofs.Text.ControlSequence
import Lockstep.Proofs.Decimal
import Lockstep.Proofs.Options
import Lockstep.Proofs.Command.Arguments
import Lockstep.Proofs.Command.Settings
import Lockstep.Proofs.Command.Render
import Lockstep.Proofs.Bindings.Loading
import Lockstep.Proofs.Command.Files
import Lockstep.Proofs.Command.Refusal
import Lockstep.Proofs.Json.Layout
import Lockstep.Proofs.Command.Parse
import Lockstep.Proofs.Scope.Forest
