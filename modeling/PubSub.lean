import PubSub.Client.Script
import PubSub.Middleware.Workspace
import PubSub.Ownership.Registry
import PubSub.Transport.Exchange
import PubSub.Proofs.Delivery.Run
import PubSub.Proofs.Lineages.Order
import PubSub.Proofs.Ownership.Registry
import PubSub.Proofs.Shares.Lifetime
import PubSub.Proofs.Calls.Effect
import PubSub.Proofs.Calls.Answers
import PubSub.Proofs.Calls.Failure
import PubSub.Proofs.Calls.Wired
import PubSub.Proofs.Calls.LastReason
import PubSub.Proofs.Calls.Queues
import PubSub.Proofs.Validity.Ended
import PubSub.Proofs.Validity.Shutdown
import PubSub.Proofs.Reach.Matching
import PubSub.Proofs.Reach.Replay
import PubSub.Proofs.Calls.Contents
import PubSub.Proofs.Client.Takes
import PubSub.Proofs.Client.Failures
import PubSub.Proofs.Client.Reasons
import PubSub.Proofs.Graph.TopicsInUse
import PubSub.Proofs.Client.Balance
import PubSub.Proofs.Payloads.Bounds
import PubSub.Proofs.Payloads.Deliveries
import PubSub.Proofs.Calls.Explained
import PubSub.Proofs.Reach.BothSides
import PubSub.Proofs.Passes.InOrder
import PubSub.Proofs.Passes.Once
import PubSub.Proofs.Names.LeftOpen
import PubSub.Proofs.Names.Namespaces
import PubSub.Proofs.Delivery.BoundedList
import PubSub.Proofs.Delivery.Eviction
import PubSub.Proofs.Reach.LateJoiner
import PubSub.Proofs.Arguments.Parsing
import PubSub.Proofs.Names.RemappedTopics
import PubSub.Proofs.Names.FixedPoints
import PubSub.Proofs.Names.Spellings
import PubSub.Proofs.Payloads.TextBuffers
import PubSub.Proofs.Workers.Reports
import PubSub.Proofs.Names.Nodes
import PubSub.Proofs.Client.NodeNames
import PubSub.Proofs.Loops.Exits
import PubSub.Proofs.Loops.Frame
import PubSub.Proofs.Loops.Gates
import PubSub.Proofs.Loops.Guarded
import PubSub.Proofs.Loops.Spins
import PubSub.Proofs.Buffers.Custody
import PubSub.Proofs.Buffers.Views
import PubSub.Proofs.Registries.Exact
