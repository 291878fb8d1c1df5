import PubSub.Client.Messaging
import PubSub.Proofs.Client.Requests

/-!
What operations of a client come to: which names they look for, what they refuse by themselves, what they request, and
what becomes of the session where the request succeeds.
-/

namespace PubSub

namespace Session

def contextMade (session : Session) (name : String) (context : Nat) (middleware : Middleware) :
    Session :=
  let (handle, after) := ({ session with middleware } : Session).makeHandle
    (Bytes.ofString "context") (.context (some context)) none
  (after.nameContext name handle).noteMade .context name handle

def nodeMade (session : Session) (name : String) (nodeName : Bytes) (context : Nat)
    (state : NodeState) (middleware : Middleware) : Session :=
  let (handle, after) := ({ session with middleware } : Session).makeHandle
    (Run.quotedKind "node" nodeName) (.node (some state)) (some context)
  let shared := after.retainHandle context
  let (node, nodes) := shared.nodes.insert { handle, context, subscriptions := [], owners := 1 }
  ({ shared with nodes }.nameNode name node).noteMade .node name handle

def publisherMade (session : Session) (name : String) (topic : Bytes) (kind : MessageKind) (node : Nat)
    (state : PublisherState) (middleware : Middleware) : Session :=
  let (handle, after) := ({ session with middleware } : Session).makeHandle
    (Run.quotedKind "publisher" topic) (.publisher (some state)) (some node)
  (after.namePublisher name { handle, kind }).noteMade .publisher name handle

def subscriptionMade (session : Session) (name : String) (topic : Bytes) (kind : MessageKind)
    (registered : Bool) (script : Script) (index node : Nat) (state : SubscriptionState)
    (middleware : Middleware) : Session :=
  let (handle, after) := ({ session with middleware } : Session).makeHandle
    (Run.quotedKind "subscription" topic) (.subscription (some state)) (some node)
  let (subscription, subscriptions) :=
    after.subscriptions.insert { name, handle, kind, script, busy := false, owners := 1 }
  let held := { after with subscriptions }
  let known :=
    if registered then
      { held with
        nodes :=
          held.nodes.modify index
            (fun old => { old with subscriptions := old.subscriptions ++ [subscription] }) }
    else held
  (known.nameSubscription name subscription).noteMade .subscription name handle

def namedNode? (session : Session) (name : String) : Option (Nat × NodeObject) := do
  let node ← session.nodeNames.get? name
  return (node, ← session.nodes.get? node)

def namedSubscription? (session : Session) (name : String) : Option (Nat × SubscriptionObject) := do
  let subscription ← session.subscriptionNames.get? name
  return (subscription, ← session.subscriptions.get? subscription)

theorem get?_of_namedNode? {session : Session} {name : String} {index : Nat} {object : NodeObject}
    (found : session.namedNode? name = some (index, object)) :
    session.nodes.get? index = some object := by
  unfold namedNode? at found
  obtain ⟨number, _, rest⟩ := Option.bind_eq_some_iff.1 found
  obtain ⟨held, there, same⟩ := Option.bind_eq_some_iff.1 rest
  cases same
  exact there

end Session

namespace Run

variable {session : Session}

theorem run_describeNode (handle : Nat) (session : Session) :
    ∃ name space full, (describeNode handle).run session = (.ok (.node name space full), session) := by
  unfold describeNode
  rw [run_view_bind]
  cases (Session.nodeSlot (session.forest.get? handle)).join with
  | none => exact ⟨[], [], [], rfl⟩
  | some state => exact ⟨state.owner.name, state.owner.space, state.owner.fullName, rfl⟩

theorem run_makeContext (session : Session) (name : String) (arguments : List Bytes) :
    (makeContext name arguments).run session =
      if arguments.any Bytes.hasNul then
        (.error (.raised (.zeroByte .initialization (Bytes.ofString "failed to initialize context")
          .invalidArgument)), session)
      else
        goOn session .initialization (Bytes.ofString "failed to initialize context")
          (fun context middleware => (.ok .done, session.contextMade name context middleware))
          ((Request.initContext arguments).outcome session.middleware) := by
  unfold makeContext
  dsimp only
  rw [run_requireTexts_bind]
  congr 1
  exact run_request_bind _ _ _ _ session

theorem run_makeNode {context : String} {handle : Nat}
    (found : session.contextNames.get? context = some handle) (name : String)
    (nodeName space : Bytes) :
    (makeNode name context nodeName space).run session =
      if nodeName.hasNul then
        (.error (.raised (.zeroByte .nodeCreation (Bytes.ofString "failed to create node")
          .nodeInvalidName)), session)
      else if space.hasNul then
        (.error (.raised (.zeroByte .nodeCreation (Bytes.ofString "failed to create node")
          .nodeInvalidNamespace)), session)
      else
        goOn session .nodeCreation (Bytes.ofString "failed to create " ++ quotedKind "node" nodeName)
          (fun state middleware =>
            (describeNode session.forest.handles.next).run
              (session.nodeMade name nodeName handle state middleware))
          ((Request.initNode nodeName space (session.contextSlot handle)).outcome
            session.middleware) := by
  unfold makeNode
  rw [run_find_bind found]
  dsimp only
  rw [run_requireText_bind]
  congr 1
  rw [run_requireText_bind]
  congr 1
  rw [run_view_bind]
  exact run_request_bind _ _ _ _ session

theorem run_makePublisher {node : String} {index : Nat} {object : NodeObject}
    (found : session.namedNode? node = some (index, object)) (name : String) (kind : MessageKind)
    (topic : Bytes) (qos : Qos) :
    (makePublisher name node kind topic qos).run session =
      if topic.hasNul then
        (.error (.raised (.zeroByte .publisherCreation (Bytes.ofString "failed to create publisher")
          .topicNameInvalid)), session)
      else
        goOn session .publisherCreation
          (Bytes.ofString "failed to create publisher on '" ++ topic ++ Bytes.ofString "'")
          (fun state middleware =>
            (.ok (.topic state.topicName),
              session.publisherMade name topic kind object.handle state middleware))
          ((Request.initPublisher (Session.nodeSlot (session.forest.get? object.handle)) kind topic
            qos).outcome session.middleware) := by
  unfold makePublisher findNode
  rw [run_find_bind found]
  dsimp only
  rw [run_requireText_bind]
  congr 1
  rw [run_view_bind]
  exact run_request_bind _ _ _ _ session

theorem run_makeSubscription {node : String} {index : Nat} {object : NodeObject}
    (found : session.namedNode? node = some (index, object)) (name : String) (kind : MessageKind)
    (topic : Bytes) (qos : Qos) (registered : Bool) (script : Script) :
    (makeSubscription name node kind topic qos registered script).run session =
      if topic.hasNul then
        (.error (.raised (.zeroByte .subscriptionCreation
          (Bytes.ofString "failed to create subscription") .topicNameInvalid)), session)
      else
        goOn session .subscriptionCreation
          (Bytes.ofString "failed to create subscription on '" ++ topic ++ Bytes.ofString "'")
          (fun state middleware =>
            (.ok (.topic state.topicName),
              session.subscriptionMade name topic kind registered script index object.handle state
                middleware))
          ((Request.initSubscription (Session.nodeSlot (session.forest.get? object.handle)) kind topic
            qos).outcome session.middleware) := by
  unfold makeSubscription findNode
  rw [run_find_bind found]
  dsimp only
  rw [run_requireText_bind]
  congr 1
  rw [run_view_bind]
  exact run_request_bind _ _ _ _ session

theorem run_shutdown {name : String} {handle : Nat}
    (found : session.contextNames.get? name = some handle) :
    (shutdown name).run session =
      goOn session .general (Bytes.ofString "failed to shut down context")
        (fun _ middleware => (.ok .done, { session with middleware }))
        ((Request.shutdown (session.contextSlot handle)).outcome session.middleware) := by
  unfold shutdown
  rw [run_find_bind found, run_view_bind]
  exact run_request_bind _ _ _ _ session

theorem run_countSubscriptions {name : String} {publisher : PublisherObject}
    (found : session.publisherNames.get? name = some publisher) :
    (countSubscriptions name).run session =
      goOn session .general (Bytes.ofString "failed to count subscriptions")
        (fun number middleware => (.ok (.count number), { session with middleware }))
        ((Request.subscriptionCount (session.publisherSlot publisher.handle)).outcome
          session.middleware) := by
  unfold countSubscriptions
  rw [run_find_bind found, run_view_bind]
  exact run_request_bind _ _ _ _ session

theorem run_countPublishers {name : String} {index : Nat} {subscription : SubscriptionObject}
    (found : session.namedSubscription? name = some (index, subscription)) :
    (countPublishers name).run session =
      goOn session .general (Bytes.ofString "failed to count publishers")
        (fun number middleware => (.ok (.count number), { session with middleware }))
        ((Request.publisherCount (session.subscriptionSlot subscription.handle)).outcome
          session.middleware) := by
  unfold countPublishers findSubscription
  rw [run_find_bind found]
  dsimp only
  rw [run_view_bind]
  exact run_request_bind _ _ _ _ session

/-- A message that fits is encoded, sent, and its encoded form given back, whatever came of it. -/
theorem run_send {publisher : PublisherObject} {datum : Datum} {payload accepted : Payload}
    (fits : datum.payload publisher.kind = .ok payload)
    (bounded : publisher.kind.accept payload = .ok accepted) (session : Session) :
    (send publisher datum).run session =
      let encoded := session.noteLedger (fun ledger => ledger.noteAcquired publisher.kind)
      let ended := goOn encoded .publish (Bytes.ofString "failed to publish")
        (fun told middleware => (.ok told, { encoded with middleware }))
        ((Request.publish (session.publisherSlot publisher.handle)
          (publisher.kind.encode accepted)).outcome encoded.middleware)
      (ended.1, ended.2.noteLedger (fun ledger => ledger.noteReleased publisher.kind)) := by
  have composes : compose publisher.kind datum = pure accepted := by
    unfold compose
    rw [fits]
    dsimp only
    rw [bounded]
  unfold send
  rw [composes, pure_bind, noteLedger, run_change_bind, run_view_bind]
  exact run_request_noteLedger _ _ _ _ _

/-- A message is sent, or the fault of the request is raised. -/
theorem run_send_cases {publisher : PublisherObject} {datum : Datum} {payload accepted : Payload}
    (fits : datum.payload publisher.kind = .ok payload)
    (bounded : publisher.kind.accept payload = .ok accepted) (session : Session) :
    let encoded := session.noteLedger (fun ledger => ledger.noteAcquired publisher.kind)
    let request := Request.publish (session.publisherSlot publisher.handle)
      (publisher.kind.encode accepted)
    (∃ middleware, request.outcome encoded.middleware = (.ok (), middleware) ∧
        (send publisher datum).run session =
          (.ok (), ({ encoded with middleware } : Session).noteLedger
            (fun ledger => ledger.noteReleased publisher.kind))) ∨
      ∃ fault middleware, request.outcome encoded.middleware = (.error fault, middleware) ∧
        (send publisher datum).run session =
          (.error (.raised (.ofFault .publish (Bytes.ofString "failed to publish") fault)),
            ({ encoded with middleware := middleware.resetReason } : Session).noteLedger
              (fun ledger => ledger.noteReleased publisher.kind)) := by
  intro encoded request
  have ended := run_send fits bounded session
  dsimp only at ended
  rcases outcome : request.outcome encoded.middleware with ⟨fault | ⟨⟩, middleware⟩
  · have failed := goOn_eq_ofFault request (Bytes.ofString "failed to publish")
      (congrArg Prod.fst outcome) encoded (fun told middleware => (.ok told, { encoded with middleware }))
    rw [outcome] at failed
    refine .inr ⟨fault, middleware, rfl, ended.trans ?_⟩
    rw [outcome]
    exact congrArg (fun ended : Except Stop Unit × Session =>
      (ended.1, ended.2.noteLedger (fun ledger => ledger.noteReleased publisher.kind))) failed
  · refine .inl ⟨middleware, rfl, ended.trans ?_⟩
    rw [outcome]
    rfl

theorem run_takeInto (session : Session) (subscription : SubscriptionObject) (buffer : Layout) :
    (takeInto subscription buffer).run session =
      goOn session .take
        (Bytes.ofString "failed to take from " ++ session.handleKind subscription.handle)
        (fun taken middleware => (.ok taken, { session with middleware }))
        ((Request.take (session.subscriptionSlot subscription.handle) buffer).outcome
          session.middleware) := by
  unfold takeInto
  rw [run_view_bind, run_view_bind]
  exact run_request _ _ _ session

def handOver (callback : Callback) (index : Nat) (subscription : SubscriptionObject)
    (payload : Payload) : Run Unit := do
  if ← view (fun session => session.isBusy index) then stuck
  change (fun session => session.setBusy index true)
  ensuring (callback subscription payload) (fun session => session.setBusy index false)

variable {callback : Callback} {index : Nat} {subscription : SubscriptionObject} {message : Layout}

theorem handleMessage_of_decode {payload : Payload}
    (reads : subscription.kind.decode message = .ok payload) :
    handleMessage callback index subscription subscription.kind message =
      handOver callback index subscription payload := by
  unfold handleMessage decode
  rw [reads, if_neg (not_not_intro rfl), pure_bind]
  rfl

theorem handleMessage_of_overlong {overlong : Overlong}
    (long : subscription.kind.decode message = .error overlong) :
    handleMessage callback index subscription subscription.kind message =
      raise (.overlong overlong) := by
  unfold handleMessage decode
  rw [long, if_neg (not_not_intro rfl)]
  rfl

end Run

end PubSub
