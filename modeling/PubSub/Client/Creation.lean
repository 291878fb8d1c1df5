import PubSub.Client.Run

/-!
Making contexts, nodes, publishers, subscriptions and executors, and asking about them.
-/

namespace PubSub.Run

def makeContext (name : String) (arguments : List Bytes) : Run Answer := do
  let attempted := Bytes.ofString "failed to initialize context"
  arguments.forM (requireText .initialization attempted .invalidArgument)
  let result ← call (fun middleware =>
    middleware.initContext (some none) (some (arguments.map some)) arguments.length)
  let context ← orFail .initialization attempted result
  let handle ← changeGet (fun session =>
    session.makeHandle (Bytes.ofString "context") (.context (some context)) none)
  change (fun session => (session.nameContext name handle).noteMade .context name handle)
  return .done

def copyContext (name source : String) : Run Answer := do
  let handle ← find (fun session => session.contextNames.get? source)
  change (fun session =>
    ((session.retainHandle handle).nameContext name handle).noteMade .context name handle)
  return .sameHandle true

def shutdown (name : String) : Run Answer := do
  let handle ← find (fun session => session.contextNames.get? name)
  let slot ← view (fun session => session.contextSlot handle)
  let result ← call (fun middleware => middleware.shutdownContext (some slot))
  orFail .general (Bytes.ofString "failed to shut down context") result
  return .done

def contextIsValid (name : String) : Run Answer := do
  let handle ← find (fun session => session.contextNames.get? name)
  return .valid (← view (fun session => session.contextIsValid handle))

def quotedKind (sort : String) (name : Bytes) : Bytes :=
  Bytes.ofString sort ++ Bytes.ofString " '" ++ name ++ Bytes.ofString "'"

def findNode (name : String) : Run (Nat × NodeObject) :=
  find (fun session => do
    let node ← session.nodeNames.get? name
    return (node, ← session.nodes.get? node))

def describeNode (handle : Nat) : Run Answer := do
  match ← view (fun session => (Session.nodeSlot (session.forest.get? handle)).join) with
  | some state => return .node state.owner.name state.owner.space state.owner.fullName
  | none => return .node [] [] []

def makeNode (name context : String) (nodeName space : Bytes) : Run Answer := do
  let contextHandle ← find (fun session => session.contextNames.get? context)
  let attempted := Bytes.ofString "failed to create node"
  requireText .nodeCreation attempted .nodeInvalidName nodeName
  requireText .nodeCreation attempted .nodeInvalidNamespace space
  let slot ← view (fun session => session.contextSlot contextHandle)
  let result ← call (fun middleware =>
    middleware.initNode (some none) (some nodeName) (some space) (some slot) (some true))
  let state ← orFail .nodeCreation
    (Bytes.ofString "failed to create " ++ quotedKind "node" nodeName) result
  let handle ← changeGet (fun session =>
    session.makeHandle (quotedKind "node" nodeName) (.node (some state)) (some contextHandle))
  change (fun session =>
    let shared := session.retainHandle contextHandle
    let (node, nodes) :=
      shared.nodes.insert { handle, context := contextHandle, subscriptions := [], owners := 1 }
    ({ shared with nodes }.nameNode name node).noteMade .node name handle)
  describeNode handle

def nodeInfo (name : String) : Run Answer := do
  let (_, node) ← findNode name
  describeNode node.handle

def nodeContextIsValid (name : String) : Run Answer := do
  let (_, node) ← findNode name
  return .valid (← view (fun session => session.contextIsValid node.context))

/-- The subscriptions of a node that still exist; those that are gone leave the node's list. -/
def pruneSubscriptions (node : Nat) : Run (List Nat) :=
  changeGet (fun session =>
    match session.nodes.get? node with
    | none => ([], session)
    | some held =>
        let live := session.liveSubscriptions held
        (live,
          { session with
            nodes := session.nodes.modify node (fun old => { old with subscriptions := live }) }))

def live (name : String) : Run Answer := do
  let (node, _) ← findNode name
  let subscriptions ← pruneSubscriptions node
  return .live (← view (fun session =>
    subscriptions.filterMap (fun subscription =>
      (session.subscriptions.get? subscription).map
        (fun held => session.handleKind held.handle))))

def makePublisher (name node : String) (kind : MessageKind) (topic : Bytes) (qos : Qos) :
    Run Answer := do
  let (_, object) ← findNode node
  requireText .publisherCreation (Bytes.ofString "failed to create publisher") .topicNameInvalid topic
  let slot ← view (fun session => Session.nodeSlot (session.forest.get? object.handle))
  let result ← call (fun middleware =>
    middleware.initPublisher (some none) slot (some (.complete kind)) (some topic) (some qos))
  let state ← orFail .publisherCreation
    (Bytes.ofString "failed to create publisher on '" ++ topic ++ Bytes.ofString "'") result
  let handle ← changeGet (fun session =>
    session.makeHandle (quotedKind "publisher" topic) (.publisher (some state))
      (some object.handle))
  change (fun session =>
    (session.namePublisher name { handle, kind }).noteMade .publisher name handle)
  return .topic state.topicName

def copyPublisher (name source : String) : Run Answer := do
  let publisher ← find (fun session => session.publisherNames.get? source)
  change (fun session =>
    (session.retainHandle publisher.handle).namePublisher name publisher)
  return .done

/--
Makes a subscription on a node.  A registered one is known to the node, so that executors find it.
-/
def makeSubscription (name node : String) (kind : MessageKind) (topic : Bytes) (qos : Qos)
    (registered : Bool) (script : Script) : Run Answer := do
  let (nodeIndex, object) ← findNode node
  requireText .subscriptionCreation (Bytes.ofString "failed to create subscription")
    .topicNameInvalid topic
  let slot ← view (fun session => Session.nodeSlot (session.forest.get? object.handle))
  let result ← call (fun middleware =>
    middleware.initSubscription (some none) slot (some (.complete kind)) (some topic) (some qos))
  let state ← orFail .subscriptionCreation
    (Bytes.ofString "failed to create subscription on '" ++ topic ++ Bytes.ofString "'") result
  let handle ← changeGet (fun session =>
    session.makeHandle (quotedKind "subscription" topic) (.subscription (some state))
      (some object.handle))
  change (fun session =>
    let (subscription, subscriptions) :=
      session.subscriptions.insert { name, handle, kind, script, busy := false, owners := 1 }
    let held := { session with subscriptions }
    let known :=
      if registered then
        { held with
          nodes :=
            held.nodes.modify nodeIndex
              (fun old => { old with subscriptions := old.subscriptions ++ [subscription] }) }
      else held
    (known.nameSubscription name subscription).noteMade .subscription name handle)
  return .topic state.topicName

def findSubscription (name : String) : Run (Nat × SubscriptionObject) :=
  find (fun session => do
    let subscription ← session.subscriptionNames.get? name
    return (subscription, ← session.subscriptions.get? subscription))

def requireName (sort : Owning) (name : String) : Run Unit := do
  match sort with
  | .context =>
      let _ ← find (fun session => session.contextNames.get? name)
  | .node =>
      let _ ← findNode name
  | .publisher =>
      let _ ← find (fun session => session.publisherNames.get? name)
  | .subscription =>
      let _ ← findSubscription name

def info (sort : Owning) (name : String) : Run Answer := do
  match sort with
  | .context =>
      let handle ← find (fun session => session.contextNames.get? name)
      return .info none (← view (fun session => session.handleKind handle))
  | .node =>
      let (_, node) ← findNode name
      return .info none (← view (fun session => session.handleKind node.handle))
  | .publisher =>
      let publisher ← find (fun session => session.publisherNames.get? name)
      let topic ← view (fun session =>
        (session.publisherSlot publisher.handle).map PublisherState.topicName)
      return .info topic (← view (fun session => session.handleKind publisher.handle))
  | .subscription =>
      let (_, subscription) ← findSubscription name
      let topic ← view (fun session =>
        (session.subscriptionSlot subscription.handle).map SubscriptionState.topicName)
      return .info topic (← view (fun session => session.handleKind subscription.handle))

def countSubscriptions (name : String) : Run Answer := do
  let publisher ← find (fun session => session.publisherNames.get? name)
  let slot ← view (fun session => session.publisherSlot publisher.handle)
  let result ← call (fun middleware => middleware.subscriptionCount (some slot) true)
  return .count (← orFail .general (Bytes.ofString "failed to count subscriptions") result)

def countPublishers (name : String) : Run Answer := do
  let (_, subscription) ← findSubscription name
  let slot ← view (fun session => session.subscriptionSlot subscription.handle)
  let result ← call (fun middleware => middleware.publisherCount (some slot) true)
  return .count (← orFail .general (Bytes.ofString "failed to count publishers") result)

def makeExecutor (name context : String) (threads : Nat) : Run Answer := do
  let handle ← find (fun session => session.contextNames.get? context)
  change (fun session =>
    (session.retainHandle handle).nameExecutor name
      { context := handle, nodes := [], threads, pool := .idle })
  return .running false

def findExecutor (name : String) : Run Executor :=
  find (fun session => session.executors.get? name)

/-- Adds a node to an executor, once more if it is there already; no node at all is never found. -/
def addNode (name : String) (node : Option String) : Run Answer := do
  let _ ← findExecutor name
  match node with
  | none => return .done
  | some node =>
      let (index, _) ← findNode node
      change (fun session =>
        session.modifyExecutor name
          (fun executor => { executor with nodes := executor.nodes ++ [index] }))
      return .done

def finiNativeNode (name : String) : Run Answer := do
  let (_, node) ← findNode name
  let slot ← view (fun session => Session.nodeSlot (session.forest.get? node.handle))
  match ← call (fun middleware => middleware.finiNode slot) with
  | .ok _ =>
      change (fun session =>
        { session with forest := session.forest.modify node.handle (fun _ => .node none) })
      return .status .ok
  | .error fault => return .status fault.status

end PubSub.Run
