import PubSub.Client.Action
import PubSub.Client.WorkerPool
import PubSub.Middleware.Subscription
import PubSub.Ownership.Forest

/-!
Sessions: the state behind the client interface, and ownership in it.

Resources of the middleware are held by handles.  A node's handle owns its context's, and the handles of
publishers and subscriptions own their node's.  Nodes and subscriptions are objects of their own, owned by
the names they have and by the passes that are using them; an executor knows its nodes, and a node its
subscriptions, without owning them.
-/

namespace PubSub

inductive Resource where
  | context (slot : Slot Nat)
  | node (slot : Slot NodeState)
  | publisher (slot : Slot PublisherState)
  | subscription (slot : Slot SubscriptionState)
  deriving DecidableEq, Repr

/-- A node: its handle, its context's, and its subscriptions in order of creation, those gone included. -/
structure NodeObject where
  handle : Nat
  context : Nat
  subscriptions : List Nat
  owners : Nat
  deriving DecidableEq, Repr

structure PublisherObject where
  handle : Nat
  kind : MessageKind
  deriving DecidableEq, Repr

/--
A subscription: the name it was made under, its handle, the kind of its messages, the script of its
callback, and whether the callback is running.
-/
structure SubscriptionObject where
  name : String
  handle : Nat
  kind : MessageKind
  script : Script
  busy : Bool
  owners : Nat

structure Executor where
  context : Nat
  nodes : List Nat
  threads : Nat
  pool : WorkerPool Raised

structure Session where
  middleware : Middleware
  faults : Nat
  forest : Forest Resource
  nodes : Arena NodeObject
  subscriptions : Arena SubscriptionObject
  contextNames : Table String Nat
  nodeNames : Table String Nat
  publisherNames : Table String PublisherObject
  subscriptionNames : Table String Nat
  executors : Table String Executor
  made : Table (Owning × String) Nat
  calls : List CallbackRun
  finishedCalls : Nat
  worker : Option String

namespace Session

def empty : Session :=
  { middleware := .empty
    faults := 0
    forest := .empty
    nodes := .empty
    subscriptions := .empty
    contextNames := .empty
    nodeNames := .empty
    publisherNames := .empty
    subscriptionNames := .empty
    executors := .empty
    made := .empty
    calls := []
    finishedCalls := 0
    worker := none }

instance : Inhabited Session := ⟨empty⟩

def nodeSlot : Option (Handle Resource) → Option (Slot NodeState)
  | some { resource := .node slot, .. } => some slot
  | _ => none

def finiResource (held : Handle Resource) (parent : Option (Handle Resource))
    (middleware : Middleware) : Outcome Unit :=
  match held.resource with
  | .context slot => middleware.finiContext (some slot)
  | .node slot => middleware.finiNode (some slot)
  | .publisher slot => middleware.finiPublisher (some slot) (nodeSlot parent)
  | .subscription slot => middleware.finiSubscription (some slot) (nodeSlot parent)

/-- Finalizes a handle.  A failure counts as a fault, and its reason is taken away. -/
def finalize (held : Handle Resource) (parent : Option (Handle Resource))
    (state : Middleware × Nat) : Middleware × Nat :=
  match finiResource held parent state.1 with
  | (.ok _, middleware) => (middleware, state.2)
  | (.error _, middleware) => (middleware.resetReason, state.2 + 1)

def retainHandle (session : Session) (handle : Nat) : Session :=
  { session with forest := session.forest.retain handle }

def releaseHandle (session : Session) (handle : Nat) : Session :=
  let (forest, middleware, faults) :=
    session.forest.release finalize handle (session.middleware, session.faults)
  { session with forest, middleware, faults }

def makeHandle (session : Session) (kind : Bytes) (resource : Resource) (parent : Option Nat) :
    Nat × Session :=
  let (handle, forest) := session.forest.make kind resource parent
  (handle, { session with forest })

def noteMade (session : Session) (sort : Owning) (name : String) (handle : Nat) : Session :=
  { session with made := session.made.set (sort, name) handle }

def retainNode (session : Session) (node : Nat) : Session :=
  { session with
    nodes := session.nodes.modify node (fun held => { held with owners := held.owners + 1 }) }

def releaseNode (session : Session) (node : Nat) : Session :=
  match session.nodes.get? node with
  | none => session
  | some held =>
      if 1 < held.owners then
        { session with
          nodes := session.nodes.modify node (fun _ => { held with owners := held.owners - 1 }) }
      else
        ({ session with nodes := session.nodes.erase node }.releaseHandle held.handle).releaseHandle
          held.context

def retainSubscription (session : Session) (subscription : Nat) : Session :=
  { session with
    subscriptions :=
      session.subscriptions.modify subscription
        (fun held => { held with owners := held.owners + 1 }) }

def releaseSubscription (session : Session) (subscription : Nat) : Session :=
  match session.subscriptions.get? subscription with
  | none => session
  | some held =>
      if 1 < held.owners then
        { session with
          subscriptions :=
            session.subscriptions.modify subscription
              (fun _ => { held with owners := held.owners - 1 }) }
      else
        { session with subscriptions := session.subscriptions.erase subscription }.releaseHandle
          held.handle

def dropContext (session : Session) (name : String) : Session :=
  match session.contextNames.get? name with
  | none => session
  | some handle =>
      { session with contextNames := session.contextNames.erase name }.releaseHandle handle

def dropNode (session : Session) (name : String) : Session :=
  match session.nodeNames.get? name with
  | none => session
  | some node => { session with nodeNames := session.nodeNames.erase name }.releaseNode node

def dropPublisher (session : Session) (name : String) : Session :=
  match session.publisherNames.get? name with
  | none => session
  | some publisher =>
      { session with publisherNames := session.publisherNames.erase name }.releaseHandle
        publisher.handle

def dropSubscription (session : Session) (name : String) : Session :=
  match session.subscriptionNames.get? name with
  | none => session
  | some subscription =>
      { session with
        subscriptionNames := session.subscriptionNames.erase name }.releaseSubscription subscription

def dropExecutor (session : Session) (name : String) : Session :=
  match session.executors.get? name with
  | none => session
  | some executor =>
      { session with executors := session.executors.erase name }.releaseHandle executor.context

def drop (session : Session) (sort : Owning) (name : String) : Session :=
  match sort with
  | .context => session.dropContext name
  | .node => session.dropNode name
  | .publisher => session.dropPublisher name
  | .subscription => session.dropSubscription name

def nameContext (session : Session) (name : String) (handle : Nat) : Session :=
  let dropped := session.dropContext name
  { dropped with contextNames := dropped.contextNames.set name handle }

def nameNode (session : Session) (name : String) (node : Nat) : Session :=
  let dropped := session.dropNode name
  { dropped with nodeNames := dropped.nodeNames.set name node }

def namePublisher (session : Session) (name : String) (publisher : PublisherObject) : Session :=
  let dropped := session.dropPublisher name
  { dropped with publisherNames := dropped.publisherNames.set name publisher }

def nameSubscription (session : Session) (name : String) (subscription : Nat) : Session :=
  let dropped := session.dropSubscription name
  { dropped with subscriptionNames := dropped.subscriptionNames.set name subscription }

def nameExecutor (session : Session) (name : String) (executor : Executor) : Session :=
  let dropped := session.dropExecutor name
  { dropped with executors := dropped.executors.set name executor }

def modifyExecutor (session : Session) (name : String) (change : Executor → Executor) : Session :=
  { session with executors := session.executors.modify name change }

def modifyPool (session : Session) (name : String)
    (change : WorkerPool Raised → WorkerPool Raised) : Session :=
  session.modifyExecutor name (fun executor => { executor with pool := change executor.pool })

def contextSlot (session : Session) (handle : Nat) : Slot Nat :=
  match session.forest.get? handle with
  | some { resource := .context slot, .. } => slot
  | _ => none

def publisherSlot (session : Session) (handle : Nat) : Slot PublisherState :=
  match session.forest.get? handle with
  | some { resource := .publisher slot, .. } => slot
  | _ => none

def subscriptionSlot (session : Session) (handle : Nat) : Slot SubscriptionState :=
  match session.forest.get? handle with
  | some { resource := .subscription slot, .. } => slot
  | _ => none

def handleKind (session : Session) (handle : Nat) : Bytes :=
  match session.forest.get? handle with
  | some held => held.kind
  | none => []

def noteLedger (session : Session) (update : Ledger → Ledger) : Session :=
  { session with middleware := session.middleware.withLedger (update session.middleware.ledger) }

def isBusy (session : Session) (subscription : Nat) : Bool :=
  (session.subscriptions.get? subscription).any (fun held => held.busy)

def setBusy (session : Session) (subscription : Nat) (busy : Bool) : Session :=
  { session with
    subscriptions := session.subscriptions.modify subscription (fun held => { held with busy }) }

def waiting (session : Session) (subscription : SubscriptionObject) : List Nat :=
  match session.subscriptionSlot subscription.handle with
  | none => []
  | some state =>
      match session.middleware.transport.subscribers.get? state.endpoint with
      | none => []
      | some endpoint => endpoint.queue.waiting

def contextIsValid (session : Session) (handle : Nat) : Bool :=
  session.middleware.contextIsValid (some (session.contextSlot handle))

def alive (session : Session) : List ((Owning × String) × Bool) :=
  session.made.entries.map (fun (name, handle) => (name, session.forest.contains handle))

def liveSubscriptions (session : Session) (node : NodeObject) : List Nat :=
  node.subscriptions.filter session.subscriptions.contains

def liveNodes (session : Session) (executor : Executor) : List Nat :=
  executor.nodes.filter session.nodes.contains

end Session

end PubSub
