import SocketLoop.Kind
import SocketLoop.Notification
import SocketLoop.Settings
import SocketLoop.Option.Setting
import SocketLoop.Rehearsal
import SocketLoop.Queue.Session
import SocketLoop.Queue.Load
import SocketLoop.Reactor.Loop
import SocketLoop.Owner.Run
import SocketLoop.Kernel.Stream
import SocketLoop.Kernel.Name
import SocketLoop.Scenario.Play
import SocketLoop.Scenario.Building
import SocketLoop.Proofs.Queue.Tickets
import SocketLoop.Proofs.Queue.Conservation
import SocketLoop.Proofs.Registry.Rows
import SocketLoop.Proofs.Registry.Listed
import SocketLoop.Proofs.Registry.History
import SocketLoop.Proofs.Registry.Polling
import SocketLoop.Proofs.Reactor.Threads
import SocketLoop.Proofs.Reactor.Removal
import SocketLoop.Proofs.Reactor.Uses
import SocketLoop.Proofs.Reactor.Dispatch
import SocketLoop.Proofs.Owner.Contest
import SocketLoop.Proofs.Owner.Outcome
import SocketLoop.Proofs.Owner.Spares
import SocketLoop.Proofs.Reactor.Preserve
import SocketLoop.Proofs.Owner.Bouts
import SocketLoop.Proofs.Owner.Attempts
import SocketLoop.Proofs.Reactor.Turns
import SocketLoop.Proofs.Owner.SamePass
import SocketLoop.Proofs.Reactor.Moments
import SocketLoop.Proofs.Reactor.Shape
import SocketLoop.Proofs.Reactor.Groups
import SocketLoop.Proofs.Reactor.Silence
import SocketLoop.Proofs.Owner.Lifetime
import SocketLoop.Proofs.Queue.Waiting
import SocketLoop.Proofs.Queue.Order
import SocketLoop.Proofs.Owner.Crew
import SocketLoop.Proofs.Owner.Tally
import SocketLoop.Proofs.Owner.Launching
import SocketLoop.Proofs.Owner.Attaching
import SocketLoop.Proofs.Owner.Posting
import SocketLoop.Proofs.Owner.Gate
import SocketLoop.Proofs.Owner.Admission
import SocketLoop.Proofs.Owner.Accounts
import SocketLoop.Proofs.Registry.Twins
import SocketLoop.Proofs.Reactor.Locality
import SocketLoop.Proofs.Reactor.Orders
import SocketLoop.Proofs.Registry.Bystanders
import SocketLoop.Proofs.Owner.Isolation
import SocketLoop.Proofs.Owner.Standing
import SocketLoop.Proofs.Owner.Aborts
import SocketLoop.Proofs.Owner.Resolution
import SocketLoop.Proofs.Queue.Nesting
import SocketLoop.Proofs.Queue.Reentry
import SocketLoop.Proofs.Reactor.Broadcast
import SocketLoop.Proofs.Address.Unix
import SocketLoop.Proofs.Address.Decoding
import SocketLoop.Proofs.Address.Text
import SocketLoop.Proofs.Duration.Rounding
import SocketLoop.Proofs.Option.Applied
import SocketLoop.Proofs.Kernel.Files
import SocketLoop.Proofs.Option.Builders
import SocketLoop.Proofs.Option.Linger
import SocketLoop.Proofs.Transport.Writing
import SocketLoop.Proofs.Reactor.Runners
