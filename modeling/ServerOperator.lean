import ServerOperator.Cluster.Disturbed
import ServerOperator.Controller.Run
import ServerOperator.Http.Health
import ServerOperator.Json.Pointer
import ServerOperator.Json.Render
import ServerOperator.Main
import ServerOperator.Program.Lifetime
import ServerOperator.Text.Timestamp
import ServerOperator.Proofs.Merge
import ServerOperator.Proofs.Report
import ServerOperator.Proofs.Trace
import ServerOperator.Proofs.Guarantee
import ServerOperator.Proofs.Healing
import ServerOperator.Proofs.Persistence
import ServerOperator.Proofs.Requeue
import ServerOperator.Proofs.TransitionTimes
import ServerOperator.Proofs.Interleaving
import ServerOperator.Proofs.WholeStatus
import ServerOperator.Proofs.Agenda
import ServerOperator.Proofs.Effects
import ServerOperator.Proofs.Course
import ServerOperator.Proofs.Repetition
import ServerOperator.Proofs.Creation
import ServerOperator.Proofs.Cancellation
import ServerOperator.Proofs.Account
import ServerOperator.Proofs.Independence
import ServerOperator.Proofs.Decoding
import ServerOperator.Proofs.Verdict
import ServerOperator.Proofs.StatusPatch
import ServerOperator.Proofs.Contract
import ServerOperator.Proofs.Waiting
import ServerOperator.Proofs.Kinship
import ServerOperator.Proofs.Refresh
import ServerOperator.Proofs.RoundTrip
import ServerOperator.Proofs.Widening
import ServerOperator.Proofs.Admission
import ServerOperator.Proofs.Precedence
import ServerOperator.Proofs.Classification
import ServerOperator.Proofs.Absence
import ServerOperator.Proofs.Owners
import ServerOperator.Proofs.Scheduling
import ServerOperator.Proofs.Wiring
