import Swarmkeeper.Fault
import Swarmkeeper.Main
import Swarmkeeper.Proofs.Admission.Blocks
import Swarmkeeper.Proofs.Admission.Bounds
import Swarmkeeper.Proofs.Admission.Decision
import Swarmkeeper.Proofs.Admission.OneAddress
import Swarmkeeper.Proofs.Admission.Wildcards
import Swarmkeeper.Proofs.Blocklist.Provenance
import Swarmkeeper.Proofs.Blocklist.Removal
import Swarmkeeper.Proofs.Config.RoundTrip
import Swarmkeeper.Proofs.Engine.Delivery
import Swarmkeeper.Proofs.Engine.Shutdown
import Swarmkeeper.Proofs.Engine.Support
import Swarmkeeper.Proofs.Engine.Withdrawal
import Swarmkeeper.Proofs.Identity.VersionCode
import Swarmkeeper.Proofs.Service.Absence
import Swarmkeeper.Proofs.Service.ExactRetry
import Swarmkeeper.Proofs.Service.Preemption
import Swarmkeeper.Proofs.Service.Report
import Swarmkeeper.Proofs.Service.Representation
import Swarmkeeper.Proofs.Service.SingleFlight
import Swarmkeeper.Setting.Audience
import Swarmkeeper.Proofs.Setting.LatestWins
import Swarmkeeper.Proofs.Service.Delay
import Swarmkeeper.Proofs.Admission.Shown
import Swarmkeeper.Simulation.BlocklistScene
import Swarmkeeper.Simulation.EngineScene
import Swarmkeeper.Simulation.QuietMachine
import Swarmkeeper.Proofs.Admission.Counting
import Swarmkeeper.Simulation.Gate
import Swarmkeeper.Proofs.Admission.Replacement
import Swarmkeeper.Proofs.Simulation.Bookkeeping
import Swarmkeeper.Blocklist.Refresh
import Swarmkeeper.Proofs.Blocklist.AllOrNothing
import Swarmkeeper.Proofs.Engine.Registration
import Swarmkeeper.Proofs.Engine.Selection
import Swarmkeeper.Proofs.Engine.Stages
import Swarmkeeper.Proofs.Identity.OwnIds
import Swarmkeeper.Proofs.Config.Validation
import Swarmkeeper.Proofs.Config.Phrasing
import Swarmkeeper.CommandLine.Follower
import Swarmkeeper.Proofs.Blocklist.Notation
import Swarmkeeper.Proofs.Blocklist.Pace
import Swarmkeeper.Proofs.Config.Variables
import Swarmkeeper.Proofs.CommandLine.Following
import Swarmkeeper.Proofs.CommandLine.EveryStep
import Swarmkeeper.Proofs.Url.AsciiForm
