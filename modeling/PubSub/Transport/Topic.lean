import PubSub.Arguments
import PubSub.Transport.Queue

/-!
The transport: contexts, the endpoints of publishers and subscriptions, and topics that match them.

A topic knows its endpoints by number only.  An endpoint that is gone stays on the list until the next
endpoint of its side is registered; every reader of the list passes over it.
-/

namespace PubSub

/-- What a process shares with everything made in it: whether it still runs, and its arguments. -/
structure ContextState where
  valid : Bool
  arguments : Arguments
  deriving DecidableEq, Repr, Inhabited

/-- The sending end of a topic, with the samples kept for late subscriptions, oldest first. -/
structure PublisherEnd where
  qos : Qos
  context : Nat
  history : List Nat
  deriving DecidableEq, Repr, Inhabited

structure SubscriberEnd where
  qos : Qos
  context : Nat
  queue : SampleQueue
  deriving DecidableEq, Repr, Inhabited

/-- The endpoints registered on a topic, in order of registration, those that are gone included. -/
structure Topic where
  publishers : List Nat
  subscribers : List Nat
  deriving DecidableEq, Repr, Inhabited

def Topic.empty : Topic :=
  { publishers := []
    subscribers := [] }

structure Transport where
  store : SampleStore
  contexts : Arena ContextState
  publishers : Arena PublisherEnd
  subscribers : Arena SubscriberEnd
  deriving Repr, Inhabited

namespace Transport

def empty : Transport :=
  { store := .empty
    contexts := .empty
    publishers := .empty
    subscribers := .empty }

def openContext (transport : Transport) (arguments : Arguments) : Nat × Transport :=
  let (context, contexts) := transport.contexts.insert { valid := true, arguments }
  (context, { transport with contexts })

def isValid (transport : Transport) (context : Nat) : Bool :=
  match transport.contexts.get? context with
  | some state => state.valid
  | none => false

def arguments (transport : Transport) (context : Nat) : Arguments :=
  match transport.contexts.get? context with
  | some state => state.arguments
  | none => .empty

def invalidate (transport : Transport) (context : Nat) : Transport :=
  { transport with
    contexts := transport.contexts.modify context (fun state => { state with valid := false }) }

def withStore (transport : Transport) (store : SampleStore) : Transport :=
  { transport with store }

def livePublishers (transport : Transport) (topic : Topic) : List (Nat × PublisherEnd) :=
  topic.publishers.filterMap
    (fun publisher => (transport.publishers.get? publisher).map (fun state => (publisher, state)))

def liveSubscribers (transport : Transport) (topic : Topic) : List (Nat × SubscriberEnd) :=
  topic.subscribers.filterMap
    (fun subscriber =>
      (transport.subscribers.get? subscriber).map (fun state => (subscriber, state)))

def deliver (transport : Transport) (subscriber sample : Nat) : Transport :=
  match transport.subscribers.get? subscriber with
  | none => transport
  | some state =>
      let (queue, store) := transport.store.enqueue state.queue sample
      { transport with
        store
        subscribers := transport.subscribers.modify subscriber (fun old => { old with queue }) }

def addPublisher (transport : Transport) (topic : Topic) (qos : Qos) (context : Nat) :
    Nat × Topic × Transport :=
  let kept := topic.publishers.filter transport.publishers.contains
  let (publisher, publishers) := transport.publishers.insert { qos, context, history := [] }
  (publisher, { topic with publishers := kept ++ [publisher] }, { transport with publishers })

/-- The samples that a late subscriber of a profile gets from the publishers of a topic. -/
def replayed (transport : Transport) (topic : Topic) (qos : Qos) : List Nat :=
  if qos.isTransientLocal then
    (transport.livePublishers topic).flatMap
      (fun (_, publisher) =>
        if publisher.qos.isTransientLocal && publisher.qos.compatible qos then publisher.history
        else [])
  else []

/--
Makes a subscriber and registers it; subscribers that are gone leave the list.  A transient-local one then
gets the histories of the transient-local publishers it matches.
-/
def addSubscriber (transport : Transport) (topic : Topic) (qos : Qos) (context : Nat) :
    Nat × Topic × Transport :=
  let kept := topic.subscribers.filter transport.subscribers.contains
  let (subscriber, subscribers) :=
    transport.subscribers.insert { qos, context, queue := .ofQos qos }
  let registered := { transport with subscribers }
  let filled :=
    (registered.replayed topic qos).foldl
      (fun state sample => state.deliver subscriber sample) registered
  (subscriber, { topic with subscribers := kept ++ [subscriber] }, filled)

/-- How many samples a history of a profile has to give up, where it holds the given number. -/
def excess (qos : Qos) (length : Nat) : Nat :=
  if qos.history = .keepLast then length - qos.depth.toNat else 0

/-- Keeps a sample for late subscriptions, if the publisher does so at all. -/
def remember (transport : Transport) (publisher sample : Nat) : Transport :=
  match transport.publishers.get? publisher with
  | none => transport
  | some state =>
      if state.qos.isTransientLocal then
        let all := state.history ++ [sample]
        let surplus := excess state.qos all.length
        { transport with
          store := (transport.store.retain sample).releaseAll (all.take surplus)
          publishers :=
            transport.publishers.modify publisher
              (fun old => { old with history := all.drop surplus }) }
      else transport

/-- Whether a sample of a profile goes to a subscriber: its context runs and the profiles match. -/
def receives (transport : Transport) (offered : Qos) (subscriber : SubscriberEnd) : Bool :=
  transport.isValid subscriber.context && offered.compatible subscriber.qos

/-- The subscribers that a sample of a profile goes to, in order of registration. -/
def receivers (transport : Transport) (topic : Topic) (offered : Qos) : List Nat :=
  ((transport.liveSubscribers topic).filter
    (fun (_, subscriber) => transport.receives offered subscriber)).map Prod.fst

def publish (transport : Transport) (topic : Topic) (publisher sample : Nat) : Transport :=
  match transport.publishers.get? publisher with
  | none => transport
  | some state =>
      let remembered := transport.remember publisher sample
      (remembered.receivers topic state.qos).foldl
        (fun current subscriber => current.deliver subscriber sample) remembered

/-- How many subscribers of a topic a publisher matches; the state of their contexts does not count. -/
def matchedSubscriptions (transport : Transport) (topic : Topic) (publisher : Nat) : Nat :=
  match transport.publishers.get? publisher with
  | none => 0
  | some state =>
      (transport.liveSubscribers topic).countP
        (fun (_, subscriber) => state.qos.compatible subscriber.qos)

def matchedPublishers (transport : Transport) (topic : Topic) (subscriber : Nat) : Nat :=
  match transport.subscribers.get? subscriber with
  | none => 0
  | some state =>
      (transport.livePublishers topic).countP
        (fun (_, publisher) => publisher.qos.compatible state.qos)

/-- Takes the oldest sample that waits for a subscriber, with the share its queue had. -/
def takeSample (transport : Transport) (subscriber : Nat) : Option (Nat × Transport) :=
  match transport.subscribers.get? subscriber with
  | none => none
  | some state =>
      match state.queue.pop with
      | none => none
      | some (sample, queue) =>
          some (sample,
            { transport with
              subscribers := transport.subscribers.modify subscriber (fun old => { old with queue }) })

def dropPublisher (transport : Transport) (publisher : Nat) : Transport :=
  match transport.publishers.get? publisher with
  | none => transport
  | some state =>
      { transport with
        store := transport.store.releaseAll state.history
        publishers := transport.publishers.erase publisher }

def dropSubscriber (transport : Transport) (subscriber : Nat) : Transport :=
  match transport.subscribers.get? subscriber with
  | none => transport
  | some state =>
      { transport with
        store := transport.store.releaseAll state.queue.waiting
        subscribers := transport.subscribers.erase subscriber }

end Transport

end PubSub
