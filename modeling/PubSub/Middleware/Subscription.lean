import PubSub.Middleware.Publisher

/-!
Subscriptions: the receiving end of a topic, attached to a node.
-/

namespace PubSub.Middleware

def registerSubscription (middleware : Middleware) (topicName : Bytes) (kind : MessageKind)
    (qos : Qos) (context : Nat) : SubscriptionState × Middleware :=
  let pruned := middleware.pruneGraph
  let key := topicKey topicName qos.plainTopic kind
  let (endpoint, topic, transport) :=
    pruned.transport.addSubscriber (pruned.topic key) qos context
  ({ topicName, kind, key, endpoint }, { pruned with transport, graph := pruned.graph.set key topic })

def initSubscription (middleware : Middleware) (slot : Option (Slot SubscriptionState))
    (node : Option (Slot NodeState)) (support : Option TypeSupport) (topic : Option Bytes)
    (options : Option Qos) : Outcome SubscriptionState :=
  match slot, topic, options with
  | some slot, some topic, some qos =>
      match TypeSupport.kind? support with
      | none => middleware.fail .incompleteTypeSupport
      | some kind =>
          if slot.isSome then middleware.fail .subscriptionAlreadyInitialized
          else
            match middleware.validNode? node with
            | none => middleware.fail .nodeNotValid
            | some node =>
                match middleware.resolveTopic node topic.beforeNul with
                | (.error fault, resolved) => (.error fault, resolved)
                | (.ok topicName, resolved) =>
                    let (subscription, registered) :=
                      resolved.registerSubscription topicName kind qos.resolve node.context
                    (.ok subscription, registered)
  | _, _, _ => middleware.fail .missingSubscriptionArgument

def finiSubscription (middleware : Middleware) (slot : Option (Slot SubscriptionState))
    (node : Option (Slot NodeState)) : Outcome Unit :=
  match slot, node with
  | none, _ => middleware.fail .missingSubscription
  | some none, some (some _) => (.ok (), middleware)
  | some (some subscription), some (some _) =>
      (.ok (), middleware.withTransport (middleware.transport.dropSubscriber subscription.endpoint))
  | some _, _ => middleware.fail .nodeNotValid

def validSubscription? (middleware : Middleware) (slot : Option (Slot SubscriptionState)) :
    Option SubscriptionState :=
  match slot with
  | some (some subscription) =>
      match middleware.transport.subscribers.get? subscription.endpoint with
      | some endpoint =>
          if middleware.transport.isValid endpoint.context then some subscription else none
      | none => none
  | _ => none

/--
Takes the oldest message that waits and copies it over the given one.  Gives nothing, and records nothing,
where none waits.  The sample leaves the queue before it is copied.
-/
def take (middleware : Middleware) (slot : Option (Slot SubscriptionState))
    (message : Option Layout) : Outcome (Option Layout) :=
  match middleware.validSubscription? slot with
  | none => middleware.fail .subscriptionNotValid
  | some subscription =>
      match message with
      | none => middleware.fail .missingMessage
      | some message =>
          match middleware.transport.takeSample subscription.endpoint with
          | none => (.ok none, middleware)
          | some (sample, taken) =>
              let content :=
                match taken.store.samples.get? sample with
                | some held => held.content
                | none => subscription.kind.fresh
              let (copied, ledger) := taken.store.ledger.copy subscription.kind content message
              let store := { taken.store with ledger }.release sample
              let left := middleware.withTransport (taken.withStore store)
              match copied with
              | some filled => (.ok (some filled), left)
              | none => left.fail (.messageNotCopied subscription.kind.typeName)

def publisherCount (middleware : Middleware) (slot : Option (Slot SubscriptionState))
    (wantsCount : Bool) : Outcome Nat :=
  match middleware.validSubscription? slot with
  | none => middleware.fail .subscriptionNotValid
  | some subscription =>
      if wantsCount then
        (.ok
          (middleware.transport.matchedPublishers (middleware.topic subscription.key)
            subscription.endpoint),
          middleware)
      else middleware.fail .missingCount

end PubSub.Middleware
