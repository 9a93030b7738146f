import Relink.Main
import Relink.Settings.EnvFile
import Relink.Proofs.Rule.Effect
import Relink.Proofs.Fix.Batches
import Relink.Proofs.Fix.Safety
import Relink.Proofs.Fix.Conflict
import Relink.Proofs.Rule.Relink
import Relink.Proofs.Fix.Sweep
import Relink.Proofs.Fix.Sweeps
import Relink.Proofs.Fix.Conservation
import Relink.Proofs.Fix.Window
import Relink.Proofs.Store.Linked
import Relink.Proofs.Document.Assign
import Relink.Proofs.Rule.Alike
import Relink.Proofs.Fix.Order
import Relink.Proofs.Fix.Lockstep
import Relink.Proofs.Fix.Forecast
import Relink.Proofs.Fix.Trail
import Relink.Proofs.Fix.Failed
import Relink.Proofs.Fix.Reference
import Relink.Proofs.Fix.ReadOnly
import Relink.Proofs.Command.Session
import Relink.Proofs.Command.OptIn
import Relink.Proofs.Settings.Credentials
import Relink.Proofs.Command.Arguments
import Relink.Proofs.Command.Concealed
import Relink.Proofs.Fix.Shared
import Relink.Proofs.Fix.Settled
import Relink.Proofs.Store.Promises
import Relink.Proofs.Command.Released
import Relink.Proofs.Settings.Precedence
import Relink.Proofs.Fix.Outcomes
import Relink.Proofs.Fix.Passes
import Relink.Proofs.Fix.Counters
import Relink.Proofs.Fix.Skipping
import Relink.Proofs.Fix.Undisturbed
import Relink.Proofs.Rule.Reading
import Relink.Proofs.Failure.Building
import Relink.Proofs.Settings.Address
import Relink.Proofs.Command.Clean
import Relink.Proofs.Fix.AuditLine
import Relink.Proofs.Fix.Changed
import Relink.Proofs.Settings.Formats
import Relink.Proofs.Store.LinkFields
import Relink.Fix.Fixer
