import Leasehold.Endpoint
import Leasehold.Lifecycle
import Leasehold.Logging
import Leasehold.Metrics
import Leasehold.WorkerPool
import Leasehold.Rehearsal.Conversation
import Leasehold.Rehearsal.Fixtures
import Leasehold.Rehearsal.Socket
import Leasehold.Rehearsal.Stage
import Leasehold.Proofs.Lease.Attendance
import Leasehold.Proofs.Lease.EventLog
import Leasehold.Proofs.Lease.Supersession
import Leasehold.Proofs.Lease.Tally
import Leasehold.Proofs.Lease.Termination
import Leasehold.Proofs.Session.Callers
import Leasehold.Proofs.Session.Overtaking
import Leasehold.Proofs.Session.Provenance
import Leasehold.Proofs.Session.Serving
import Leasehold.Proofs.Session.Barrier
import Leasehold.Proofs.Session.Upkeep
import Leasehold.Proofs.Session.Termination
import Leasehold.Proofs.Lease.Calls
import Leasehold.Proofs.Lease.Classification
import Leasehold.Proofs.Lease.Overlap
import Leasehold.Proofs.Lifecycle
import Leasehold.Proofs.Overlap
import Leasehold.Proofs.Reports
import Leasehold.Proofs.Session.LateCalls
import Leasehold.Proofs.Session.Line
import Leasehold.Proofs.Session.SingleFlight
import Leasehold.Proofs.Vault.Requests
import Leasehold.Proofs.Clock
import Leasehold.Proofs.Endpoint.Containment
import Leasehold.Proofs.Session.Endless
import Leasehold.Proofs.Session.Outlasting
import Leasehold.Proofs.Grants
import Leasehold.Proofs.Config
import Leasehold.Proofs.Lease.Extension
import Leasehold.Proofs.Lease.Punctuality
import Leasehold.Proofs.Rejection
import Leasehold.Proofs.Punctuality
import Leasehold.Proofs.Session.Timers
import Leasehold.Proofs.Session.Punctuality
import Leasehold.Proofs.Session.Outcomes
import Leasehold.Proofs.Lease.Expiry
import Leasehold.Proofs.Revocation
import Leasehold.Proofs.Session.FailedLogin
import Leasehold.Proofs.Retry
import Leasehold.Proofs.Http.Factory
import Leasehold.Proofs.Lease.Overflow
import Leasehold.Proofs.Window
import Leasehold.Proofs.Session.Tally
import Leasehold.Proofs.Vault.Bodies
import Leasehold.Proofs.Scheduler.Live
import Leasehold.Proofs.Scheduler.Starts
import Leasehold.Proofs.Vault.Messages
import Leasehold.Proofs.Endpoint.Stability
