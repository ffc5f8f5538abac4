import LiveTree.Budget
import LiveTree.CommandLine.Basic
import LiveTree.Session.Operation
import LiveTree.Stream.Transcript
import LiveTree.Stream.Wire
import LiveTree.Main
import LiveTree.Proofs.Stream.Exhaustion
import LiveTree.Proofs.Watch.SingleWatcher
import LiveTree.Proofs.Watch.Barrier
import LiveTree.Proofs.Watch.Fidelity
import LiveTree.Proofs.Watch.Reconnection
import LiveTree.Proofs.Watch.Abandonment
import LiveTree.Proofs.Watch.Phases
import LiveTree.Proofs.Watch.Latecomers
import LiveTree.Proofs.Watch.Refusal
import LiveTree.Proofs.Replica.Canonical
import LiveTree.Proofs.Replica.Locality
import LiveTree.Proofs.Replica.Merging
import LiveTree.Proofs.Failure.Timeouts
import LiveTree.Proofs.Json.Taking
import LiveTree.Proofs.Json.Numeral
import LiveTree.Proofs.Json.Quotation
import LiveTree.Proofs.Json.Spelling
import LiveTree.Proofs.Json.Printing
import LiveTree.Proofs.Json.Fields
import LiveTree.Proofs.Event.Rereading
import LiveTree.Proofs.Json.Characters
import LiveTree.Proofs.Stream.Written
import LiveTree.Proofs.Text.Triples
import LiveTree.Proofs.Url.Machine
import LiveTree.Proofs.Url.Extension
import LiveTree.Proofs.Url.Steps
import LiveTree.Proofs.Text.Form
import LiveTree.Proofs.Url.Tails
import LiveTree.Proofs.Location.Target
import LiveTree.Proofs.Watch.Closure
import LiveTree.Proofs.Url.Fraying
import LiveTree.Proofs.Location.Usability
import LiveTree.Proofs.Traffic.Limits
import LiveTree.Proofs.Session.Refusals
import LiveTree.Proofs.Session.Families
import LiveTree.Proofs.Replica.Members
import LiveTree.Proofs.CommandLine.Printing
import LiveTree.Proofs.Replica.Independence
import LiveTree.Proofs.Replica.Pruning
import LiveTree.Proofs.Replica.Neighbours
import LiveTree.Proofs.Stream.Noise
import LiveTree.Proofs.Traffic.Remainders
import LiveTree.Proofs.Stream.Stopping
import LiveTree.Proofs.Text.ByteOrder
import LiveTree.Proofs.Query.Encoding
import LiveTree.Proofs.Json.Fitting
import LiveTree.Proofs.Session.TypedReads
import LiveTree.Proofs.Location.Normalization
import LiveTree.Proofs.Session.Environments
import LiveTree.Proofs.Watch.Quiescence
import LiveTree.Proofs.Session.Deadlines
import LiveTree.Dialling
import LiveTree.Proofs.Traffic.Accounting
import LiveTree.Proofs.Traffic.Microsteps
import LiveTree.Proofs.Stream.Offsets
