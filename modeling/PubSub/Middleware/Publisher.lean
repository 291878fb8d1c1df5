import PubSub.Middleware.Node

/-!
Publishers: the sending end of a topic, attached to a node.
-/

namespace PubSub.Middleware

def registerPublisher (middleware : Middleware) (topicName : Bytes) (kind : MessageKind) (qos : Qos)
    (context : Nat) : PublisherState × Middleware :=
  let pruned := middleware.pruneGraph
  let key := topicKey topicName qos.plainTopic kind
  let (endpoint, topic, transport) :=
    pruned.transport.addPublisher (pruned.topic key) qos context
  ({ topicName, kind, key, endpoint }, { pruned with transport, graph := pruned.graph.set key topic })

def initPublisher (middleware : Middleware) (slot : Option (Slot PublisherState))
    (node : Option (Slot NodeState)) (support : Option TypeSupport) (topic : Option Bytes)
    (options : Option Qos) : Outcome PublisherState :=
  match slot, topic, options with
  | some slot, some topic, some qos =>
      match TypeSupport.kind? support with
      | none => middleware.fail .incompleteTypeSupport
      | some kind =>
          if slot.isSome then middleware.fail .publisherAlreadyInitialized
          else
            match middleware.validNode? node with
            | none => middleware.fail .nodeNotValid
            | some node =>
                match middleware.resolveTopic node topic.beforeNul with
                | (.error fault, resolved) => (.error fault, resolved)
                | (.ok topicName, resolved) =>
                    let (publisher, registered) :=
                      resolved.registerPublisher topicName kind qos.resolve node.context
                    (.ok publisher, registered)
  | _, _, _ => middleware.fail .missingPublisherArgument

/-- Releases a publisher, for which its node must be initialised; an empty slot is left alone. -/
def finiPublisher (middleware : Middleware) (slot : Option (Slot PublisherState))
    (node : Option (Slot NodeState)) : Outcome Unit :=
  match slot, node with
  | none, _ => middleware.fail .missingPublisher
  | some none, some (some _) => (.ok (), middleware)
  | some (some publisher), some (some _) =>
      (.ok (), middleware.withTransport (middleware.transport.dropPublisher publisher.endpoint))
  | some _, _ => middleware.fail .nodeNotValid

def validPublisher? (middleware : Middleware) (slot : Option (Slot PublisherState)) :
    Option PublisherState :=
  match slot with
  | some (some publisher) =>
      match middleware.transport.publishers.get? publisher.endpoint with
      | some endpoint =>
          if middleware.transport.isValid endpoint.context then some publisher else none
      | none => none
  | _ => none

/-- Sends a message to every subscription that is matched.  The message is copied once. -/
def publish (middleware : Middleware) (slot : Option (Slot PublisherState))
    (message : Option Layout) : Outcome Unit :=
  match middleware.validPublisher? slot with
  | none => middleware.fail .publisherNotValid
  | some publisher =>
      match message with
      | none => middleware.fail .missingMessage
      | some message =>
          match middleware.transport.store.create publisher.kind message with
          | (none, store) =>
              (middleware.withTransport (middleware.transport.withStore store)).fail
                (.messageNotCopied publisher.kind.typeName)
          | (some sample, store) =>
              let sent :=
                (middleware.transport.withStore store).publish (middleware.topic publisher.key)
                  publisher.endpoint sample
              (.ok (), middleware.withTransport (sent.withStore (sent.store.release sample)))

def subscriptionCount (middleware : Middleware) (slot : Option (Slot PublisherState))
    (wantsCount : Bool) : Outcome Nat :=
  match middleware.validPublisher? slot with
  | none => middleware.fail .publisherNotValid
  | some publisher =>
      if wantsCount then
        (.ok
          (middleware.transport.matchedSubscriptions (middleware.topic publisher.key)
            publisher.endpoint),
          middleware)
      else middleware.fail .missingCount

end PubSub.Middleware
