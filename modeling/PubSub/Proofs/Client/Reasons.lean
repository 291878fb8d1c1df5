import PubSub.Client.Script
import PubSub.Proofs.Client.Dispatches

/-!
No reason is left behind.  Actions proceed, whatever is nested in them, so that orderly actions lead through scenes in
which there is no reason, and what they raise tells the fault of the very request that failed.
-/

namespace PubSub

theorem Action.orderly_within (message : Payload) (action : Action) :
    (action.within message).orderly = action.orderly := by
  cases action <;> rfl

namespace Run

variable {callback : Callback}

theorem proceeds_noteCall (subscription : SubscriptionObject) (message : Payload) :
    Proceeds Anything (noteCall subscription message) :=
  fun _ _ => ⟨.silent (.callNoted subscription.name message) rfl rfl, trivial⟩

theorem proceeds_noteAnswer (place : Nat) {answer : Except Raised Answer} (truthful : Truthful answer) :
    Proceeds Anything (noteAnswer place answer) :=
  proceeds_change (fun _ _ => .silent (.answerNoted place truthful) rfl rfl)

theorem proceeds_runScript {perform : Action → Run Answer}
    (proceeds : ∀ action, action.orderly = true → Proceeds Answer.Truthful (perform action))
    (message : Payload) (place : Nat) (script : Script) (orderly : orderlyScript script = true) :
    Proceeds Anything (runScript perform message place script) := by
  induction script with
  | nil => exact proceeds_pure trivial
  | cons step rest ih =>
      obtain ⟨guard, action⟩ := step
      rw [orderlyScript, Bool.and_eq_true] at orderly
      have here := proceeds (action.within message) ((action.orderly_within message).trans orderly.1)
      have others := ih orderly.2
      refine proceeds_ite (proceeds_ite ?_ ?_) others
      · exact proceeds_bind here (fun _ _ => others)
      · apply proceeds_bind (proceeds_attempt here)
        exact fun answer told => proceeds_bind (proceeds_noteAnswer place told) (fun _ _ => others)

theorem proceeds_runCallback {perform : Action → Run Answer}
    (proceeds : ∀ action, action.orderly = true → Proceeds Answer.Truthful (perform action)) :
    CallbackProceeds (runCallback perform) := by
  intro subscription message orderly
  apply proceeds_bind (proceeds_noteCall subscription message)
  intro place _
  exact proceeds_ensuring (proceeds_runScript proceeds message place subscription.script orderly)
    (fun _ => .silent .callFinished rfl rfl)

mutual

theorem proceeds_perform (proceeds : CallbackProceeds callback) (limit : Nat) :
    ∀ action : Action, action.orderly = true →
      Proceeds Answer.Truthful (perform callback limit action)
  | .makeContext name arguments, _ => proceeds_makeContext name arguments
  | .copyContext name source, _ => proceeds_copyContext name source
  | .contextIsValid context, _ => proceeds_contextIsValid context
  | .nodeContextIsValid node, _ => proceeds_nodeContextIsValid node
  | .shutdown context, _ => proceeds_shutdown context
  | .makeNode name context nodeName space, _ => proceeds_makeNode name context nodeName space
  | .nodeInfo node, _ => proceeds_nodeInfo node
  | .live node, _ => proceeds_live node
  | .makePublisher name node kind topic qos, _ => proceeds_makePublisher name node kind topic qos
  | .makeSubscription name node kind topic qos registered _, orderly =>
      proceeds_makeSubscription name node kind topic qos registered orderly
  | .copyPublisher name source, _ => proceeds_copyPublisher name source
  | .publish publisher draft, _ => proceeds_publish publisher draft
  | .publishRange publisher first last, _ => proceeds_publishRange publisher first last
  | .take subscription, _ => proceeds_take subscription
  | .takeAll subscription, _ => proceeds_takeAll subscription
  | .dispatch subscription, _ => proceeds_dispatch proceeds subscription
  | .handleForeign subscription kind, _ => proceeds_handleForeign proceeds subscription kind
  | .info sort name, _ => proceeds_info sort name
  | .countSubscriptions publisher, _ => proceeds_countSubscriptions publisher
  | .countPublishers subscription, _ => proceeds_countPublishers subscription
  | .drop sort name, _ =>
      proceeds_bind
        (proceeds_change (fun scene _ =>
          .reshares (.dropped sort name) (scene.session.reshares_drop sort name) rfl))
        (fun _ _ => proceeds_answer rfl)
  | .dropExecutor executor, _ =>
      proceeds_bind
        (proceeds_change (fun scene _ =>
          .reshares (.executorDropped executor) (scene.session.reshares_dropExecutor executor) rfl))
        (fun _ _ => proceeds_answer rfl)
  | .alive, _ => proceeds_map (proceeds_view _) (fun _ _ => Answer.truthful_of_isPlain rfl)
  | .makeExecutor name context threads, _ => proceeds_makeExecutor name context threads
  | .addNode executor node, _ => proceeds_addNode executor node
  | .isRunning executor, _ => proceeds_isRunning executor
  | .stop executor, _ => proceeds_stop executor
  | .spin executor, _ => proceeds_spin proceeds limit executor
  | .spinOnce executor, _ =>
      proceeds_map (proceeds_pass proceeds executor) (fun _ _ => Answer.truthful_of_isPlain rfl)
  | .work executor untilCalls none destroy, _ =>
      proceeds_work proceeds limit executor untilCalls (proceeds_pure recounts_none) destroy
  | .work executor untilCalls (some during) destroy, orderly =>
      proceeds_work proceeds limit executor untilCalls
        (proceeds_map (proceeds_performAll proceeds limit during orderly)
          (fun _ told _ same => Option.some.inj same ▸ told))
        destroy
  | .faults, _ => proceeds_map (proceeds_view _) (fun _ _ => Answer.truthful_of_isPlain rfl)
  | .counters, _ => fun _ _ => ⟨.refl, Answer.truthful_of_isPlain rfl⟩
  | .refuseCopies count, _ =>
      proceeds_bind (proceeds_change (fun _ _ => .silent (.refusalsSet count) rfl rfl))
        (fun _ _ => proceeds_answer rfl)
  | .throwUser _, _ => proceeds_raise (.other rfl)
  | .refuse none _, _ => fun _ _ => ⟨.refl, .other rfl⟩
  | .refuse (some (sort, name)) _, _ =>
      proceeds_bind (proceeds_requireName sort name) (fun _ _ => proceeds_raise (.other rfl))

theorem proceeds_performAll (proceeds : CallbackProceeds callback) (limit : Nat) :
    ∀ actions : List Action, orderlyAll actions = true →
      Proceeds (fun answers => ∀ answer ∈ answers, Truthful answer) (performAll callback limit actions)
  | [], _ => proceeds_pure (fun _ member => nomatch member)
  | action :: rest, orderly => by
      rw [orderlyAll, Bool.and_eq_true] at orderly
      apply proceeds_bind (proceeds_attempt (proceeds_perform proceeds limit action orderly.1))
      intro answer told
      apply proceeds_bind (proceeds_performAll proceeds limit rest orderly.2)
      exact fun answers others => proceeds_pure (List.forall_mem_cons.2 ⟨told, others⟩)

end

/-- Callbacks proceed, however deep they are nested. -/
theorem callbackProceeds_callbackWithin (limit depth : Nat) :
    CallbackProceeds (callbackWithin limit depth) := by
  -- By induction on the depth: callbacks perform actions whose callbacks are nested less deep.
  induction depth with
  | zero => exact fun _ _ _ => proceeds_stuck
  | succ depth ih => exact proceeds_runCallback (fun action => proceeds_perform ih limit action)

end Run

namespace Session

/-- A session that clients come to by orderly actions, in the midst of a callback, a pass or a loop or after all. -/
def Reached (session : Session) : Prop :=
  ∃ scene : Scene, scene.Reached ∧ scene.session = session

variable {session : Session}

theorem Reached.reason_eq_nil (reached : session.Reached) : session.middleware.reason = [] := by
  obtain ⟨scene, there, rfl⟩ := reached
  exact there.blank_and_truthful.1

theorem Reached.truthful (reached : session.Reached) : session.Truthful := by
  obtain ⟨scene, there, rfl⟩ := reached
  exact there.blank_and_truthful.2

theorem Reached.perform (reached : session.Reached) (limit depth : Nat) {action : Action}
    (orderly : action.orderly = true) :
    let ended := (Run.perform (Run.callbackWithin limit depth) limit action).run session
    ended.2.Reached ∧ Settles Answer.Truthful ended.1 := by
  obtain ⟨scene, there, rfl⟩ := reached
  have proceeds := Run.proceeds_perform (Run.callbackProceeds_callbackWithin limit depth) limit action
    orderly
  obtain ⟨goes, settles⟩ := proceeds scene there
  exact ⟨⟨_, there.moves goes.moves, rfl⟩, settles⟩

theorem Reached.step (reached : session.Reached) {action : Action} (orderly : action.orderly = true)
    (sorted : Bool) : (session.step action sorted).2.Reached := by
  obtain ⟨scene, there, rfl⟩ := reached
  have told : ({ scene.session with calls := [] } : Session).Reached := ⟨_, there.move .callsTold, rfl⟩
  exact (told.perform roundLimit depthLimit orderly).1

theorem reached_run (actions : List Action) (orderly : orderlyAll actions = true) :
    (empty.run actions).Reached := by
  have first : empty.Reached := ⟨Scene.start, .refl, rfl⟩
  unfold run
  generalize empty = session at first
  induction actions generalizing session with
  | nil => exact first
  | cons action rest ih =>
      rw [orderlyAll, Bool.and_eq_true] at orderly
      exact ih orderly.2 _ (first.step orderly.1 false)

/-- The request that an action comes to, unless it ends before, and the middleware that it then finds. -/
inductive Asks (session : Session) : {Value : Type} → Action → Request Value → Middleware → Prop
  | makeContext (name : String) {arguments : List Bytes} (clean : arguments.any Bytes.hasNul = false) :
      Asks session (.makeContext name arguments) (.initContext arguments) session.middleware
  | shutdown {name : String} {handle : Nat} (found : session.contextNames.get? name = some handle) :
      Asks session (.shutdown name) (.shutdown (session.contextSlot handle)) session.middleware
  | makeNode (name : String) {context : String} {handle : Nat} {nodeName space : Bytes}
      (found : session.contextNames.get? context = some handle) (cleanName : nodeName.hasNul = false)
      (cleanSpace : space.hasNul = false) :
      Asks session (.makeNode name context nodeName space)
        (.initNode nodeName space (session.contextSlot handle)) session.middleware
  | makePublisher (name : String) {node : String} {index : Nat} {object : NodeObject}
      (kind : MessageKind) {topic : Bytes} (qos : Qos)
      (found : session.namedNode? node = some (index, object)) (clean : topic.hasNul = false) :
      Asks session (.makePublisher name node kind topic qos)
        (.initPublisher (nodeSlot (session.forest.get? object.handle)) kind topic qos)
        session.middleware
  | makeSubscription (name : String) {node : String} {index : Nat} {object : NodeObject}
      (kind : MessageKind) {topic : Bytes} (qos : Qos) (registered : Bool) (script : Script)
      (found : session.namedNode? node = some (index, object)) (clean : topic.hasNul = false) :
      Asks session (.makeSubscription name node kind topic qos registered script)
        (.initSubscription (nodeSlot (session.forest.get? object.handle)) kind topic qos)
        session.middleware
  | publish {name : String} {publisher : PublisherObject} {datum : Datum} {payload accepted : Payload}
      (found : session.publisherNames.get? name = some publisher)
      (fits : datum.payload publisher.kind = .ok payload)
      (bounded : publisher.kind.accept payload = .ok accepted) :
      Asks session (.publish name (.given datum))
        (.publish (session.publisherSlot publisher.handle) (publisher.kind.encode accepted))
        (session.noteLedger (fun ledger => ledger.noteAcquired publisher.kind)).middleware
  | take {name : String} {index : Nat} {subscription : SubscriptionObject}
      (found : session.namedSubscription? name = some (index, subscription)) :
      Asks session (.take name)
        (.take (session.subscriptionSlot subscription.handle) subscription.kind.fresh)
        (session.noteLedger (fun ledger => ledger.noteInit subscription.kind)).middleware
  | countSubscriptions {name : String} {publisher : PublisherObject}
      (found : session.publisherNames.get? name = some publisher) :
      Asks session (.countSubscriptions name)
        (.subscriptionCount (session.publisherSlot publisher.handle)) session.middleware
  | countPublishers {name : String} {index : Nat} {subscription : SubscriptionObject}
      (found : session.namedSubscription? name = some (index, subscription)) :
      Asks session (.countPublishers name)
        (.publisherCount (session.subscriptionSlot subscription.handle)) session.middleware

/-- An action whose request fails raises the fault of that request, and nothing else. -/
theorem Asks.raises {Value : Type} {action : Action} {request : Request Value} {middleware : Middleware}
    (asks : session.Asks action request middleware) {fault : Fault}
    (failed : (request.outcome middleware).1 = .error fault) (callback : Callback) (limit : Nat) :
    ∃ attempted, request.WordedAs attempted ∧
      ((Run.perform callback limit action).run session).1 =
        .error (.raised (.ofFault request.kind attempted fault)) := by
  cases asks with
  | makeContext name clean =>
      refine ⟨_, rfl, ?_⟩
      change ((Run.makeContext _ _).run session).1 = _
      rw [Run.run_makeContext, clean, if_neg Bool.false_ne_true]
      exact congrArg Prod.fst (Run.goOn_eq_ofFault _ _ failed _ _)
  | shutdown found =>
      refine ⟨_, rfl, ?_⟩
      change ((Run.shutdown _).run session).1 = _
      rw [Run.run_shutdown found]
      exact congrArg Prod.fst (Run.goOn_eq_ofFault _ _ failed _ _)
  | makeNode name found cleanName cleanSpace =>
      refine ⟨_, rfl, ?_⟩
      change ((Run.makeNode _ _ _ _).run session).1 = _
      rw [Run.run_makeNode found, cleanName, cleanSpace, if_neg Bool.false_ne_true,
        if_neg Bool.false_ne_true]
      exact congrArg Prod.fst (Run.goOn_eq_ofFault _ _ failed _ _)
  | makePublisher name kind qos found clean =>
      refine ⟨_, rfl, ?_⟩
      change ((Run.makePublisher _ _ _ _ _).run session).1 = _
      rw [Run.run_makePublisher found, clean, if_neg Bool.false_ne_true]
      exact congrArg Prod.fst (Run.goOn_eq_ofFault _ _ failed _ _)
  | makeSubscription name kind qos registered script found clean =>
      refine ⟨_, rfl, ?_⟩
      change ((Run.makeSubscription _ _ _ _ _ _ _).run session).1 = _
      rw [Run.run_makeSubscription found, clean, if_neg Bool.false_ne_true]
      exact congrArg Prod.fst (Run.goOn_eq_ofFault _ _ failed _ _)
  | publish found fits bounded =>
      refine ⟨_, rfl, ?_⟩
      change ((Run.publish _ _).run session).1 = _
      unfold Run.publish Run.findPublisher
      rw [Run.run_find_bind found]
      apply Run.run_bind_of_error
      rw [Run.run_send fits bounded]
      exact congrArg Prod.fst (Run.goOn_eq_ofFault _ _ failed _ _)
  | @take name index subscription found =>
      refine ⟨_, ⟨session.handleKind subscription.handle, rfl⟩, ?_⟩
      change ((Run.take _).run session).1 = _
      unfold Run.take Run.findSubscription
      rw [Run.run_find_bind found]
      apply Run.run_bind_of_error
      unfold Run.takeMessage Run.withBuffer Run.noteLedger
      rw [Run.run_change_bind, Run.run_ensuring]
      apply Run.run_bind_of_error
      rw [Run.run_takeInto]
      exact congrArg Prod.fst (Run.goOn_eq_ofFault _ _ failed _ _)
  | countSubscriptions found =>
      refine ⟨_, rfl, ?_⟩
      change ((Run.countSubscriptions _).run session).1 = _
      rw [Run.run_countSubscriptions found]
      exact congrArg Prod.fst (Run.goOn_eq_ofFault _ _ failed _ _)
  | countPublishers found =>
      refine ⟨_, rfl, ?_⟩
      change ((Run.countPublishers _).run session).1 = _
      rw [Run.run_countPublishers found]
      exact congrArg Prod.fst (Run.goOn_eq_ofFault _ _ failed _ _)

theorem Asks.reason {Value : Type} {action : Action} {request : Request Value} {middleware : Middleware}
    (asks : session.Asks action request middleware) (reached : session.Reached) {fault : Fault}
    (failed : (request.outcome middleware).1 = .error fault) :
    middleware.reason = [] ∧ (request.outcome middleware).2.reason = fault.message := by
  refine ⟨?_, (request.records middleware).reason_eq failed⟩
  cases asks <;> exact reached.reason_eq_nil

/--
Orderly actions lead through sessions in which no reason is left behind, and from each of them every orderly action leads
to such a session again, whether it is answered or raises, and whatever callbacks do in between.  What it raises, what it
tells of others that raised, and what is on record tell nothing but faults of the requests that had them.  If the request
that an action comes to fails, then the reason told is the one that this request recorded where there was none before.
-/
theorem leaves_no_reason (actions : List Action) (orderly : orderlyAll actions = true) :
    (empty.run actions).Reached ∧
      ∀ session : Session, session.Reached →
        session.middleware.reason = [] ∧
          ∀ (limit depth : Nat) (action : Action), action.orderly = true →
            let ended := (Run.perform (Run.callbackWithin limit depth) limit action).run session
            ended.2.Reached ∧ ended.2.middleware.reason = [] ∧
              Settles Answer.Truthful ended.1 ∧ ended.2.Truthful ∧
              ∀ (Value : Type) (request : Request Value) (middleware : Middleware) (fault : Fault),
                session.Asks action request middleware →
                  (request.outcome middleware).1 = .error fault →
                    middleware.reason = [] ∧ (request.outcome middleware).2.reason = fault.message ∧
                      ∃ attempted, request.WordedAs attempted ∧
                        ended.1 = .error (.raised (.ofFault request.kind attempted fault)) := by
  refine ⟨reached_run actions orderly, fun session reached => ⟨reached.reason_eq_nil, ?_⟩⟩
  intro limit depth action orderly ended
  obtain ⟨after, settles⟩ := reached.perform limit depth orderly
  refine ⟨after, after.reason_eq_nil, settles, after.truthful, ?_⟩
  intro Value request middleware fault asks failed
  obtain ⟨blank, own⟩ := asks.reason reached failed
  exact ⟨blank, own, asks.raises failed _ _⟩

/-- A context with a rule whose source does not expand, and a node in it. -/
def unexpanding : List Action :=
  [.makeContext "context"
      [Bytes.ofString "--ros-args", Bytes.ofString "-r", Bytes.ofString "/\x7bbad\x7d:=/x"],
    .makeNode "node" "context" (Bytes.ofString "a") (Bytes.ofString "/"),
    .makePublisher "publisher" "node" .counted (Bytes.ofString "chatter") Qos.standard]

/-- What is wrong with a topic that starts with a digit is told with its reason, and the reason is used up. -/
theorem leaves_no_reason_unexpanding :
    (empty.run unexpanding).middleware.reason = [] ∧
      let action := Action.makePublisher "other" "node" .counted (Bytes.ofString "1st") Qos.standard
      let ended := (Run.perform (Run.callbackWithin 1 1) 1 action).run (empty.run unexpanding)
      ended.2.middleware.reason = [] ∧
        ended.1 = .error (.raised (.failure .publisherCreation .topicNameInvalid
          (Raised.failureText (Bytes.ofString "failed to create publisher on '1st'") .topicNameInvalid
            (Bytes.ofString
              "topic name '1st' is invalid: name tokens must not start with a number (index 0)")))) := by
  obtain ⟨reached, leaves⟩ := leaves_no_reason unexpanding rfl
  obtain ⟨blank, performs⟩ := leaves _ reached
  obtain ⟨_, after, _, _, tells⟩ := performs 1 1
    (.makePublisher "other" "node" .counted (Bytes.ofString "1st") Qos.standard) rfl
  have asks := Asks.makePublisher "other" MessageKind.counted Qos.standard
    (show (empty.run unexpanding).namedNode? "node" =
      some (0, { handle := 1, context := 0, subscriptions := [], owners := 1 }) by decide +kernel)
    (show (Bytes.ofString "1st").hasNul = false by decide +kernel)
  refine ⟨blank, after, ?_⟩
  obtain ⟨_, _, attempted, worded, raised⟩ := tells _ _ _
    (.invalidTopic (Bytes.ofString "1st") ⟨.startsWithDigit, 0⟩) asks (by decide +kernel)
  cases worded
  exact raised

end Session

end PubSub
