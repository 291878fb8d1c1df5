import PubSub.Transport.Topic

/-!
An exchange: one topic of counted messages with named endpoints and contexts, named shares of samples,
and named queues that belong to no endpoint.  A share can be copied, moved, given up, pushed into a queue
and published; a queue and an endpoint hold shares of their own, and who takes a sample out of them may
keep the share.
-/

namespace PubSub

structure Exchange where
  transport : Transport
  topic : Topic
  contexts : Table String Nat
  publishers : Table String Nat
  subscribers : Table String Nat
  shares : Table String (Option Nat)
  queues : Table String SampleQueue
  deriving Inhabited

namespace Exchange

def empty : Exchange :=
  { transport := .empty
    topic := .empty
    contexts := .empty
    publishers := .empty
    subscribers := .empty
    shares := .empty
    queues := .empty }

inductive Action where
  | makeShare (name : String) (value : Int64)
  | copyShare (name source : String)
  | moveShare (name source : String)
  | assignShare (name source : String)
  | moveAssignShare (name source : String)
  | dropShare (name : String)
  | refuseCopies (count : Nat)
  | openQueue (name : String) (qos : Qos)
  | push (queue : String) (value : Int64)
  | pushShare (queue source : String)
  | popQueue (queue : String)
  | popQueueInto (name queue : String)
  | closeQueue (queue : String)
  | addPublisher (name : String) (qos : Qos) (context : String)
  | addSubscriber (name : String) (qos : Qos) (context : String)
  | publish (publisher : String) (value : Int64)
  | publishShare (publisher source : String)
  | copyKept (name publisher : String) (place : Nat)
  | popSubscriber (subscriber : String)
  | popSubscriberInto (name subscriber : String)
  | countSubscriptions (publisher : String)
  | countPublishers (subscriber : String)
  | invalidate (context : String)
  | dropPublisher (name : String)
  | dropSubscriber (name : String)
  deriving DecidableEq, Repr

inductive Answer where
  | done
  | status (status : Status)
  | pushed (accepted : Bool)
  | popped (payload : Option Payload)
  | count (number : Nat)
  | noSample
  | unknownName
  deriving DecidableEq, Repr

def withStore (exchange : Exchange) (store : SampleStore) : Exchange :=
  { exchange with transport := exchange.transport.withStore store }

def releaseShare (store : SampleStore) : Option Nat → SampleStore
  | none => store
  | some sample => store.release sample

def retainShare (store : SampleStore) : Option Nat → SampleStore
  | none => store
  | some sample => store.retain sample

def placeShare (exchange : Exchange) (name : String) (share : Option Nat) : Exchange :=
  { exchange.withStore
      (releaseShare exchange.transport.store ((exchange.shares.get? name).getD none)) with
    shares := exchange.shares.set name share }

def createSample (exchange : Exchange) (value : Int64) : Option Nat × Exchange :=
  let (sample, store) := exchange.transport.store.create .counted (.number value)
  (sample, exchange.withStore store)

def releaseSample (exchange : Exchange) (sample : Nat) : Exchange :=
  exchange.withStore (exchange.transport.store.release sample)

/-- Puts a sample into a queue, which takes a share of its own. -/
def pushSample (exchange : Exchange) (name : String) (queue : SampleQueue) (sample : Nat) : Exchange :=
  let (changed, store) := exchange.transport.store.enqueue queue sample
  { exchange.withStore store with queues := exchange.queues.set name changed }

def sendSample (exchange : Exchange) (publisher sample : Nat) : Exchange :=
  { exchange with transport := exchange.transport.publish exchange.topic publisher sample }

/-- Takes the oldest sample out of a queue; the share that the queue had is in hand. -/
def popSample (exchange : Exchange) (name : String) : Option (Nat × Exchange) := do
  let queue ← exchange.queues.get? name
  let (sample, changed) ← queue.pop
  return (sample, { exchange with queues := exchange.queues.set name changed })

/-- Takes the oldest sample that waits for a subscriber; the share that its queue had is in hand. -/
def receiveSample (exchange : Exchange) (subscriber : Nat) : Option (Nat × Exchange) := do
  let (sample, transport) ← exchange.transport.takeSample subscriber
  return (sample, { exchange with transport })

/-- The sample that a publisher keeps at a place of its history. -/
def keptSample (exchange : Exchange) (publisher : String) (place : Nat) : Option Nat := do
  let state ← exchange.transport.publishers.get? (← exchange.publishers.get? publisher)
  state.history[place]?

/-- The context of a name; a new name opens one. -/
def contextOf (exchange : Exchange) (name : String) : Nat × Exchange :=
  match exchange.contexts.get? name with
  | some context => (context, exchange)
  | none =>
      let (context, transport) := exchange.transport.openContext .empty
      (context, { exchange with transport, contexts := exchange.contexts.set name context })

def removePublisher (exchange : Exchange) (name : String) : Exchange :=
  match exchange.publishers.get? name with
  | none => exchange
  | some publisher =>
      { exchange with
        transport := exchange.transport.dropPublisher publisher
        publishers := exchange.publishers.erase name }

def removeSubscriber (exchange : Exchange) (name : String) : Exchange :=
  match exchange.subscribers.get? name with
  | none => exchange
  | some subscriber =>
      { exchange with
        transport := exchange.transport.dropSubscriber subscriber
        subscribers := exchange.subscribers.erase name }

def removeQueue (exchange : Exchange) (name : String) : Exchange :=
  match exchange.queues.get? name with
  | none => exchange
  | some queue =>
      { exchange.withStore (exchange.transport.store.releaseAll queue.waiting) with
        queues := exchange.queues.erase name }

def step (exchange : Exchange) (action : Action) : Answer × Exchange :=
  match action with
  | .makeShare name value =>
      let (sample, created) := exchange.createSample value
      (.done, created.placeShare name sample)
  | .copyShare name source =>
      match exchange.shares.get? source with
      | none => (.unknownName, exchange)
      | some share =>
          let retained := exchange.withStore (retainShare exchange.transport.store share)
          (.done, retained.placeShare name share)
  | .moveShare name source =>
      match exchange.shares.get? source with
      | none => (.unknownName, exchange)
      | some share =>
          let left := { exchange with shares := exchange.shares.set source none }
          (.done, left.placeShare name share)
  | .assignShare name source =>
      match exchange.shares.get? name, exchange.shares.get? source with
      | some _, some share =>
          if name = source then (.done, exchange)
          else
            let retained := exchange.withStore (retainShare exchange.transport.store share)
            (.done, retained.placeShare name share)
      | _, _ => (.unknownName, exchange)
  | .moveAssignShare name source =>
      match exchange.shares.get? name, exchange.shares.get? source with
      | some _, some share =>
          if name = source then (.done, exchange)
          else
            let left := { exchange with shares := exchange.shares.set source none }
            (.done, left.placeShare name share)
      | _, _ => (.unknownName, exchange)
  | .dropShare name =>
      let placed := exchange.placeShare name none
      (.done, { placed with shares := placed.shares.erase name })
  | .refuseCopies count =>
      let store := exchange.transport.store
      (.done, exchange.withStore { store with ledger := { store.ledger with refusals := count } })
  | .openQueue name qos =>
      let removed := exchange.removeQueue name
      (.done, { removed with queues := removed.queues.set name (.ofQos qos) })
  | .push name value =>
      match exchange.queues.get? name with
      | none => (.unknownName, exchange)
      | some queue =>
          match exchange.createSample value with
          | (none, created) => (.pushed false, created)
          | (some sample, created) =>
              (.pushed true, (created.pushSample name queue sample).releaseSample sample)
  | .pushShare name source =>
      match exchange.queues.get? name, exchange.shares.get? source with
      | some queue, some (some sample) => (.pushed true, exchange.pushSample name queue sample)
      | some _, some none => (.noSample, exchange)
      | _, _ => (.unknownName, exchange)
  | .popQueue name =>
      match exchange.queues.get? name with
      | none => (.unknownName, exchange)
      | some _ =>
          match exchange.popSample name with
          | none => (.popped none, exchange)
          | some (sample, popped) =>
              (.popped (exchange.transport.store.payload? sample), popped.releaseSample sample)
  | .popQueueInto name queueName =>
      match exchange.queues.get? queueName with
      | none => (.unknownName, exchange)
      | some _ =>
          match exchange.popSample queueName with
          | none => (.popped none, exchange)
          | some (sample, popped) =>
              (.popped (exchange.transport.store.payload? sample), popped.placeShare name (some sample))
  | .closeQueue name => (.done, exchange.removeQueue name)
  | .addPublisher name qos contextName =>
      let (context, opened) := exchange.contextOf contextName
      let (publisher, topic, transport) := opened.transport.addPublisher opened.topic qos context
      let removed := { opened with topic, transport }.removePublisher name
      (.done, { removed with publishers := removed.publishers.set name publisher })
  | .addSubscriber name qos contextName =>
      let (context, opened) := exchange.contextOf contextName
      let (subscriber, topic, transport) := opened.transport.addSubscriber opened.topic qos context
      let removed := { opened with topic, transport }.removeSubscriber name
      (.status .ok, { removed with subscribers := removed.subscribers.set name subscriber })
  | .publish name value =>
      match exchange.publishers.get? name with
      | none => (.unknownName, exchange)
      | some publisher =>
          match exchange.createSample value with
          | (none, created) => (.status .error, created)
          | (some sample, created) =>
              (.status .ok, (created.sendSample publisher sample).releaseSample sample)
  | .publishShare name source =>
      match exchange.publishers.get? name, exchange.shares.get? source with
      | some publisher, some (some sample) => (.status .ok, exchange.sendSample publisher sample)
      | some _, some none => (.noSample, exchange)
      | _, _ => (.unknownName, exchange)
  | .copyKept name publisher place =>
      match exchange.keptSample publisher place with
      | none => (.unknownName, exchange)
      | some sample =>
          let retained := exchange.withStore (exchange.transport.store.retain sample)
          (.done, retained.placeShare name (some sample))
  | .popSubscriber name =>
      match exchange.subscribers.get? name with
      | none => (.unknownName, exchange)
      | some subscriber =>
          match exchange.receiveSample subscriber with
          | none => (.popped none, exchange)
          | some (sample, received) =>
              (.popped (received.transport.store.payload? sample), received.releaseSample sample)
  | .popSubscriberInto name subscriberName =>
      match exchange.subscribers.get? subscriberName with
      | none => (.unknownName, exchange)
      | some subscriber =>
          match exchange.receiveSample subscriber with
          | none => (.popped none, exchange)
          | some (sample, received) =>
              (.popped (received.transport.store.payload? sample), received.placeShare name (some sample))
  | .countSubscriptions name =>
      match exchange.publishers.get? name with
      | none => (.unknownName, exchange)
      | some publisher =>
          (.count (exchange.transport.matchedSubscriptions exchange.topic publisher), exchange)
  | .countPublishers name =>
      match exchange.subscribers.get? name with
      | none => (.unknownName, exchange)
      | some subscriber =>
          (.count (exchange.transport.matchedPublishers exchange.topic subscriber), exchange)
  | .invalidate name =>
      let (context, opened) := exchange.contextOf name
      (.done, { opened with transport := opened.transport.invalidate context })
  | .dropPublisher name => (.done, exchange.removePublisher name)
  | .dropSubscriber name => (.done, exchange.removeSubscriber name)

def run (exchange : Exchange) (actions : List Action) : Exchange :=
  actions.foldl (fun current action => (current.step action).2) exchange

def live (exchange : Exchange) : Int :=
  exchange.transport.store.ledger.live .counted

def shareView (exchange : Exchange) : List (String × Option (Payload × Nat)) :=
  exchange.shares.entries.map
    (fun (name, share) =>
      (name,
        share.bind
          (fun sample =>
            (exchange.transport.store.samples.get? sample).map
              (fun held => (held.content.payload, held.shares)))))

def historyView (exchange : Exchange) : List (String × List Payload) :=
  exchange.publishers.entries.map
    (fun (name, publisher) =>
      (name,
        match exchange.transport.publishers.get? publisher with
        | none => []
        | some state => state.history.filterMap exchange.transport.store.payload?))

def pendingView (exchange : Exchange) : List (String × Nat) :=
  exchange.subscribers.entries.map
    (fun (name, subscriber) =>
      (name,
        match exchange.transport.subscribers.get? subscriber with
        | none => 0
        | some state => state.queue.size))

def queueSize (exchange : Exchange) (name : String) : Nat :=
  match exchange.queues.get? name with
  | none => 0
  | some queue => queue.size

end Exchange

end PubSub
