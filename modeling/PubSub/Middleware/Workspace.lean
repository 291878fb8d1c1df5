import PubSub.Message.Datum
import PubSub.Middleware.Subscription

/-!
A workspace: the middleware together with resources that callers hold under names.  A name not used before
stands for an empty slot, and a missing name for no slot at all.  Messages go through a buffer of the kind
that the endpoint was initialised for, which is made before the call and released after it.
-/

namespace PubSub

structure Workspace where
  middleware : Middleware
  contexts : Table String Nat
  nodes : Table String NodeState
  publishers : Table String PublisherState
  subscriptions : Table String SubscriptionState
  publisherKinds : Table String MessageKind
  subscriptionKinds : Table String MessageKind
  deriving Inhabited

namespace Workspace

def empty : Workspace :=
  { middleware := .empty
    contexts := .empty
    nodes := .empty
    publishers := .empty
    subscriptions := .empty
    publisherKinds := .empty
    subscriptionKinds := .empty }

inductive Action where
  | validate (kind : Name.Kind) (name : Option Bytes) (wantsVerdict : Bool)
  | expand (topic name space : Option Bytes) (wantsOutput : Bool)
  | parseArguments (vector : Option (List (Option Bytes))) (count : Int) (wantsOutput : Bool)
  | initContext (context : Option String) (vector : Option (List (Option Bytes))) (count : Int)
  | shutdown (context : Option String)
  | finiContext (context : Option String)
  | contextIsValid (context : Option String)
  | initNode (node : Option String) (name space : Option Bytes) (context : Option String)
      (options : Option Bool)
  | finiNode (node : Option String)
  | nodeInfo (node : Option String)
  | initPublisher (publisher node : Option String) (support : Option TypeSupport)
      (topic : Option Bytes) (options : Option Qos)
  | finiPublisher (publisher node : Option String)
  | publisherInfo (publisher : Option String)
  | subscriptionCount (publisher : Option String) (wantsCount : Bool)
  | publish (publisher : Option String) (data : Option Datum)
  | initSubscription (subscription node : Option String) (support : Option TypeSupport)
      (topic : Option Bytes) (options : Option Qos)
  | finiSubscription (subscription node : Option String)
  | subscriptionInfo (subscription : Option String)
  | publisherCount (subscription : Option String) (wantsCount : Bool)
  | take (subscription : Option String) (withBuffer : Bool)
  | topicCount
  | resetReason
  | setReason (reason : Bytes)
  | refuseCopies (count : Nat)
  deriving DecidableEq, Repr

inductive Answer where
  | done
  | endless
  | status (status : Status)
  | finding (status : Status) (finding : Option Name.Finding)
  | expansion (status : Status) (topic : Option Bytes)
  | arguments (status : Status) (arguments : Option Arguments)
  | flag (valid : Bool)
  | node (valid : Bool) (owner : Option Name.Owner)
  | endpoint (valid : Bool) (topic : Option Bytes)
  | count (status : Status) (number : Option Nat)
  | message (status : Status) (payload : Option Payload)
  | topics (number : Nat)
  | unfit (expected : Expected)
  deriving DecidableEq, Repr

def statusOf {Value : Type} : Except Fault Value → Status
  | .ok _ => .ok
  | .error fault => fault.status

def valueOf {Value : Type} : Except Fault Value → Option Value
  | .ok value => some value
  | .error _ => none

def slot {State : Type} (table : Table String State) (name : Option String) : Option (Slot State) :=
  name.map table.get?

def fillSlot {State : Type} (table : Table String State) (name : Option String) (state : State) :
    Table String State :=
  match name with
  | some name => table.set name state
  | none => table

def clearSlot {State : Type} (table : Table String State) (name : Option String) :
    Table String State :=
  match name with
  | some name => table.erase name
  | none => table

def withMiddleware (workspace : Workspace) (middleware : Middleware) : Workspace :=
  { workspace with middleware }

def settle {Value : Type} (workspace : Workspace) (outcome : Outcome Value) : Answer × Workspace :=
  (.status (statusOf outcome.1), workspace.withMiddleware outcome.2)

def kindOf (kinds : Table String MessageKind) (name : Option String) : Option MessageKind :=
  name.bind kinds.get?

/--
Sends a message that is filled in a buffer of its own.  The buffer is made before the datum is read, and
released also where the datum does not fit its kind.
-/
def publishFilled (workspace : Workspace) (publisher : Option String) (kind : MessageKind)
    (datum : Datum) : Answer × Workspace :=
  let middleware := workspace.middleware
  let prepared := middleware.withLedger (middleware.ledger.noteInit kind)
  let (answer, sent) :=
    match datum.payload kind with
    | .ok payload =>
        let (result, sent) :=
          prepared.publish (slot workspace.publishers publisher) (some (kind.fresh.fill payload))
        (Answer.status (statusOf result), sent)
    | .error expected => (.unfit expected, prepared)
  (answer, workspace.withMiddleware (sent.withLedger (sent.ledger.noteFini kind)))

def takeFilled (workspace : Workspace) (subscription : Option String) (kind : MessageKind) :
    Answer × Workspace :=
  let middleware := workspace.middleware
  let prepared := middleware.withLedger (middleware.ledger.noteInit kind)
  let (result, taken) :=
    prepared.take (slot workspace.subscriptions subscription) (some kind.fresh)
  let released := workspace.withMiddleware (taken.withLedger (taken.ledger.noteFini kind))
  match result with
  | .ok none => (.message .takeFailed none, released)
  | .ok (some layout) => (.message .ok (some layout.payload), released)
  | .error fault => (.message fault.status none, released)

def step (workspace : Workspace) (action : Action) : Answer × Workspace :=
  let middleware := workspace.middleware
  match action with
  | .validate kind name wantsVerdict =>
      let (result, changed) := middleware.validate kind name wantsVerdict
      (.finding (statusOf result) (valueOf result), workspace.withMiddleware changed)
  | .expand topic name space wantsOutput =>
      match middleware.expand topic name space wantsOutput with
      | some (result, changed) =>
          (.expansion (statusOf result) (valueOf result), workspace.withMiddleware changed)
      | none => (.endless, workspace)
  | .parseArguments vector count wantsOutput =>
      let (result, changed) := middleware.parseArguments vector count wantsOutput
      (.arguments (statusOf result) (valueOf result), workspace.withMiddleware changed)
  | .initContext context vector count =>
      match middleware.initContext (slot workspace.contexts context) vector count with
      | (.ok state, changed) =>
          (.status .ok,
            { workspace.withMiddleware changed with
              contexts := fillSlot workspace.contexts context state })
      | failed => workspace.settle failed
  | .shutdown context =>
      workspace.settle (middleware.shutdownContext (slot workspace.contexts context))
  | .finiContext context =>
      match middleware.finiContext (slot workspace.contexts context) with
      | (.ok _, changed) =>
          (.status .ok,
            { workspace.withMiddleware changed with
              contexts := clearSlot workspace.contexts context })
      | failed => workspace.settle failed
  | .contextIsValid context =>
      (.flag (middleware.contextIsValid (slot workspace.contexts context)), workspace)
  | .initNode node name space context options =>
      match middleware.initNode (slot workspace.nodes node) name space
          (slot workspace.contexts context) options with
      | (.ok state, changed) =>
          (.status .ok,
            { workspace.withMiddleware changed with nodes := fillSlot workspace.nodes node state })
      | failed => workspace.settle failed
  | .finiNode node =>
      match middleware.finiNode (slot workspace.nodes node) with
      | (.ok _, changed) =>
          (.status .ok,
            { workspace.withMiddleware changed with nodes := clearSlot workspace.nodes node })
      | failed => workspace.settle failed
  | .nodeInfo node =>
      (.node (middleware.validNode? (slot workspace.nodes node)).isSome
          ((slot workspace.nodes node).join.map NodeState.owner),
        workspace)
  | .initPublisher publisher node support topic options =>
      match middleware.initPublisher (slot workspace.publishers publisher)
          (slot workspace.nodes node) support topic options with
      | (.ok state, changed) =>
          (.status .ok,
            { workspace.withMiddleware changed with
              publishers := fillSlot workspace.publishers publisher state
              publisherKinds := fillSlot workspace.publisherKinds publisher state.kind })
      | failed => workspace.settle failed
  | .finiPublisher publisher node =>
      match middleware.finiPublisher (slot workspace.publishers publisher)
          (slot workspace.nodes node) with
      | (.ok _, changed) =>
          (.status .ok,
            { workspace.withMiddleware changed with
              publishers := clearSlot workspace.publishers publisher })
      | failed => workspace.settle failed
  | .publisherInfo publisher =>
      (.endpoint (middleware.validPublisher? (slot workspace.publishers publisher)).isSome
          ((slot workspace.publishers publisher).join.map PublisherState.topicName),
        workspace)
  | .subscriptionCount publisher wantsCount =>
      let (result, changed) :=
        middleware.subscriptionCount (slot workspace.publishers publisher) wantsCount
      (.count (statusOf result) (valueOf result), workspace.withMiddleware changed)
  | .publish publisher data =>
      match data with
      | some datum =>
          workspace.publishFilled publisher
            ((kindOf workspace.publisherKinds publisher).getD .int64) datum
      | none =>
          workspace.settle (middleware.publish (slot workspace.publishers publisher) none)
  | .initSubscription subscription node support topic options =>
      match middleware.initSubscription (slot workspace.subscriptions subscription)
          (slot workspace.nodes node) support topic options with
      | (.ok state, changed) =>
          (.status .ok,
            { workspace.withMiddleware changed with
              subscriptions := fillSlot workspace.subscriptions subscription state
              subscriptionKinds := fillSlot workspace.subscriptionKinds subscription state.kind })
      | failed => workspace.settle failed
  | .finiSubscription subscription node =>
      match middleware.finiSubscription (slot workspace.subscriptions subscription)
          (slot workspace.nodes node) with
      | (.ok _, changed) =>
          (.status .ok,
            { workspace.withMiddleware changed with
              subscriptions := clearSlot workspace.subscriptions subscription })
      | failed => workspace.settle failed
  | .subscriptionInfo subscription =>
      (.endpoint (middleware.validSubscription? (slot workspace.subscriptions subscription)).isSome
          ((slot workspace.subscriptions subscription).join.map SubscriptionState.topicName),
        workspace)
  | .publisherCount subscription wantsCount =>
      let (result, changed) :=
        middleware.publisherCount (slot workspace.subscriptions subscription) wantsCount
      (.count (statusOf result) (valueOf result), workspace.withMiddleware changed)
  | .take subscription withBuffer =>
      match withBuffer, kindOf workspace.subscriptionKinds subscription with
      | true, some kind => workspace.takeFilled subscription kind
      | true, none =>
          let (result, changed) :=
            middleware.take (slot workspace.subscriptions subscription) (some (.number 0))
          (.message (statusOf result) none, workspace.withMiddleware changed)
      | false, _ =>
          let (result, changed) :=
            middleware.take (slot workspace.subscriptions subscription) none
          (.message (statusOf result) none, workspace.withMiddleware changed)
  | .topicCount =>
      let (number, changed) := middleware.topicCount
      (.topics number, workspace.withMiddleware changed)
  | .resetReason => (.done, workspace.withMiddleware middleware.resetReason)
  | .setReason reason => (.done, workspace.withMiddleware { middleware with reason })
  | .refuseCopies count =>
      (.done,
        workspace.withMiddleware
          (middleware.withLedger { middleware.ledger with refusals := count }))

def run (workspace : Workspace) (actions : List Action) : Workspace :=
  actions.foldl (fun current action => (current.step action).2) workspace

end Workspace

end PubSub
