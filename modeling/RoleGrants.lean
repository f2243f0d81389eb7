import RoleGrants.Api.Reply
import RoleGrants.DryRun.Edit
import RoleGrants.Handlers
import RoleGrants.Lifecycle
import RoleGrants.Log.Layout
import RoleGrants.Program.Lemmas
import RoleGrants.Settings.Reader
import RoleGrants.Proofs.Event
import RoleGrants.Proofs.Contract
import RoleGrants.Proofs.Place
import RoleGrants.Proofs.History
import RoleGrants.Proofs.PolicyPass
import RoleGrants.Proofs.Steps
import RoleGrants.Proofs.NamespacePass
import RoleGrants.Proofs.Trigger
import RoleGrants.Proofs.Growth
import RoleGrants.Proofs.Pool
import RoleGrants.Proofs.Reach
import RoleGrants.Proofs.Convergence
import RoleGrants.Proofs.Granted
import RoleGrants.Proofs.Overwriting
import RoleGrants.Proofs.Regime
import RoleGrants.Proofs.Course
import RoleGrants.Proofs.Stopping
import RoleGrants.Proofs.Missing
import RoleGrants.Proofs.Wanted
import RoleGrants.Proofs.Tidy
import RoleGrants.Proofs.Calm
import RoleGrants.Proofs.Scene
import RoleGrants.Proofs.Keys
import RoleGrants.Proofs.Staging
import RoleGrants.Proofs.Granting
import RoleGrants.Proofs.Recovery
import RoleGrants.Proofs.Visiting
import RoleGrants.Proofs.Agreement
import RoleGrants.Proofs.Bodies
import RoleGrants.Proofs.Containment
import RoleGrants.Proofs.Confinement
import RoleGrants.Proofs.Locality
import RoleGrants.Proofs.Releasing
import RoleGrants.Proofs.Transitions
import RoleGrants.Proofs.Refinement
import RoleGrants.Proofs.Deed
import RoleGrants.Proofs.Concluding
import RoleGrants.Proofs.Repeating
import RoleGrants.Proofs.Stages
import RoleGrants.Proofs.Renewing
import RoleGrants.Proofs.Success
import RoleGrants.Proofs.Mending
import RoleGrants.Proofs.FullGrant
import RoleGrants.Proofs.Absence
import RoleGrants.Proofs.Vanishing
import RoleGrants.Proofs.Union
import RoleGrants.Proofs.Rules
import RoleGrants.Proofs.Manifest
import RoleGrants.Proofs.Equality
import RoleGrants.Proofs.Rereading
import RoleGrants.Proofs.Sharing
import RoleGrants.Proofs.Chronicle
import RoleGrants.Proofs.Timestamp
import RoleGrants.Proofs.LogContext
import RoleGrants.Proofs.Rounds
