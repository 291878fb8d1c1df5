import PubSub.Transport.Topic

/-!
The middleware: the transport, the graph of topics in use, and the reason of the last failure.

A caller holds a resource in a slot, which is empty until the resource is initialised.  Every operation
answers a value or the cause of its failure; the wording of that cause is recorded as the reason and stays
until another failure or a reset replaces it.
-/

namespace PubSub

abbrev Slot (State : Type) := Option State

structure NodeState where
  owner : Name.Owner
  useArguments : Bool
  context : Nat
  deriving DecidableEq, Repr, Inhabited

structure PublisherState where
  topicName : Bytes
  kind : MessageKind
  key : Bytes
  endpoint : Nat
  deriving DecidableEq, Repr, Inhabited

structure SubscriptionState where
  topicName : Bytes
  kind : MessageKind
  key : Bytes
  endpoint : Nat
  deriving DecidableEq, Repr, Inhabited

structure Middleware where
  reason : Bytes
  transport : Transport
  graph : Table Bytes Topic
  deriving Repr, Inhabited

abbrev Outcome (Value : Type) := Except Fault Value × Middleware

namespace Middleware

def empty : Middleware :=
  { reason := []
    transport := .empty
    graph := .empty }

def fail {Value : Type} (middleware : Middleware) (fault : Fault) : Outcome Value :=
  (.error fault, { middleware with reason := fault.message })

def resetReason (middleware : Middleware) : Middleware :=
  { middleware with reason := [] }

def withTransport (middleware : Middleware) (transport : Transport) : Middleware :=
  { middleware with transport }

def ledger (middleware : Middleware) : Ledger :=
  middleware.transport.store.ledger

def withLedger (middleware : Middleware) (ledger : Ledger) : Middleware :=
  middleware.withTransport
    (middleware.transport.withStore { middleware.transport.store with ledger })

/-- The key of a topic: a mark unless plain names are asked for, the name, and the kind of message. -/
def topicKey (topicName : Bytes) (plainTopic : Bool) (kind : MessageKind) : Bytes :=
  (if plainTopic then topicName else Bytes.ofString "rt" ++ topicName) ++ 10 :: kind.typeName

def inUse (transport : Transport) (topic : Topic) : Bool :=
  topic.publishers.any transport.publishers.contains ||
    topic.subscribers.any transport.subscribers.contains

/-- Drops the topics that are no longer in use. -/
def pruneGraph (middleware : Middleware) : Middleware :=
  { middleware with
    graph := middleware.graph.filter (fun entry => inUse middleware.transport entry.2) }

def topic (middleware : Middleware) (key : Bytes) : Topic :=
  (middleware.graph.get? key).getD .empty

def topicCount (middleware : Middleware) : Nat × Middleware :=
  let pruned := middleware.pruneGraph
  (pruned.graph.entries.length, pruned)

end Middleware

end PubSub
