import PubSub.Proofs.Client.Refusals
import PubSub.Proofs.Client.Standing
import PubSub.Proofs.Client.Takes

/-!
What actions fail with.  Every action that requests something fails in one kind of way only, with few statuses, and one
of them tells exactly that the context of what it uses was shut down.
-/

namespace PubSub

namespace Run

variable {Value Other : Type}

def RaisesAs (ended : Except Stop Value) (kind : FailureKind) (status : Status) : Prop :=
  ∃ message, ended = .error (.raised (.failure kind status message))

def RaisesOnly (ended : Except Stop Value) (kind : FailureKind) (statuses : List Status) : Prop :=
  (∃ value, ended = .ok value) ∨ ∃ status ∈ statuses, RaisesAs ended kind status

section Requests

variable {session : Session} {kind : FailureKind} {attempted : Bytes} {outcome : Outcome Value}
  {next : Value → Middleware → Except Stop Other × Session}

theorem raisesAs_goOn_iff
    (answers : ∀ value middleware, outcome = (.ok value, middleware) →
      ∃ answer, (next value middleware).1 = .ok answer) (status : Status) :
    RaisesAs (goOn session kind attempted next outcome).1 kind status ↔
      ∃ fault, outcome.1 = .error fault ∧ fault.status = status := by
  obtain ⟨fault | value, middleware⟩ := outcome
  · constructor
    · rintro ⟨message, same⟩
      cases same
      exact ⟨fault, rfl, rfl⟩
    · rintro ⟨other, same, rfl⟩
      cases same
      exact ⟨_, rfl⟩
  · obtain ⟨answer, told⟩ := answers value middleware rfl
    constructor
    · rintro ⟨message, same⟩
      cases told.symm.trans same
    · rintro ⟨other, same, _⟩
      cases same

theorem raisesOnly_goOn
    (answers : ∀ value middleware, outcome = (.ok value, middleware) →
      ∃ answer, (next value middleware).1 = .ok answer) {statuses : List Status}
    (only : ∀ fault, outcome.1 = .error fault → fault.status ∈ statuses) :
    RaisesOnly (goOn session kind attempted next outcome).1 kind statuses := by
  obtain ⟨fault | value, middleware⟩ := outcome
  · exact .inr ⟨fault.status, only fault rfl, _, rfl⟩
  · exact .inl (answers value middleware rfl)

end Requests

section Depends

variable {request : Request Value} {middleware : Middleware} {number : Nat} {down : Status}
  {others : List Status} {session : Session} {attempted : Bytes}
  {next : Value → Middleware → Except Stop Other × Session}

theorem raisesOnly_of_depends (depends : request.Depends middleware number down others)
    (answers : ∀ value after, request.outcome middleware = (.ok value, after) →
      ∃ answer, (next value after).1 = .ok answer) :
    RaisesOnly (goOn session request.kind attempted next (request.outcome middleware)).1 request.kind
      (down :: others) := by
  refine raisesOnly_goOn answers (fun fault failed => ?_)
  cases runs : middleware.transport.isValid number with
  | false =>
      obtain ⟨other, same, status⟩ := depends.down runs
      cases same.symm.trans failed
      exact List.mem_cons.2 (.inl status)
  | true => exact List.mem_cons_of_mem _ (depends.others runs fault failed)

/-- A request that depends on a context fails with its own status exactly where that context does not run. -/
theorem raisesAs_iff_of_depends (depends : request.Depends middleware number down others)
    (apart : down ∉ others)
    (answers : ∀ value after, request.outcome middleware = (.ok value, after) →
      ∃ answer, (next value after).1 = .ok answer) :
    RaisesAs (goOn session request.kind attempted next (request.outcome middleware)).1 request.kind
      down ↔ middleware.transport.isValid number = false := by
  refine (raisesAs_goOn_iff answers down).trans ⟨?_, depends.down⟩
  rintro ⟨fault, failed, rfl⟩
  cases runs : middleware.transport.isValid number with
  | false => rfl
  | true => exact absurd (depends.others runs fault failed) apart

theorem fails_of_depends (depends : request.Depends middleware number down others)
    (apart : down ∉ others)
    (answers : ∀ value after, request.outcome middleware = (.ok value, after) →
      ∃ answer, (next value after).1 = .ok answer) :
    let ended := (goOn session request.kind attempted next (request.outcome middleware)).1
    RaisesOnly ended request.kind (down :: others) ∧
      (RaisesAs ended request.kind down ↔ middleware.transport.isValid number = false) :=
  ⟨raisesOnly_of_depends depends answers, raisesAs_iff_of_depends depends apart answers⟩

end Depends

theorem raisesAs_zeroByte (kind : FailureKind) (attempted : Bytes) (status : Status) :
    RaisesAs (.error (.raised (.zeroByte kind attempted status)) : Except Stop Value) kind status :=
  ⟨_, rfl⟩

theorem fails_unless_hasNul {text attempted : Bytes} {kind : FailureKind} {status : Status}
    {statuses : List Status} {session : Session} {rest : Except Stop Value × Session}
    (holds : Except Stop Value → Prop) (listed : status ∈ statuses)
    (clean : RaisesOnly rest.1 kind statuses ∧ holds rest.1) :
    let ended := (if text.hasNul then
      (.error (.raised (.zeroByte kind attempted status)), session) else rest).1
    RaisesOnly ended kind statuses ∧ (text.hasNul = false → holds ended) := by
  cases text.hasNul with
  | true => exact ⟨.inr ⟨status, listed, raisesAs_zeroByte kind attempted status⟩, nofun⟩
  | false => exact ⟨clean.1, fun _ => clean.2⟩

theorem fst_run_publish {session : Session} {name : String} {publisher : PublisherObject}
    {datum : Datum} {payload accepted : Payload}
    (found : session.publisherNames.get? name = some publisher)
    (fits : datum.payload publisher.kind = .ok payload)
    (bounded : publisher.kind.accept payload = .ok accepted) :
    ((publish name (.given datum)).run session).1 =
      let encoded := session.noteLedger (fun ledger => ledger.noteAcquired publisher.kind)
      (goOn encoded .publish (Bytes.ofString "failed to publish")
        (fun _ middleware => (.ok .done, { encoded with middleware }))
        ((Request.publish (session.publisherSlot publisher.handle)
          (publisher.kind.encode accepted)).outcome encoded.middleware)).1 := by
  unfold publish findPublisher
  rw [run_find_bind found]
  dsimp only
  rw [run_bind, run_send fits bounded]
  dsimp only
  generalize (Request.publish _ _).outcome _ = outcome
  rcases outcome with ⟨_ | _, _⟩ <;> rfl

def decoded (buffered : Session) (kind : MessageKind) (taken : Option Layout) (middleware : Middleware) :
    Except Stop Answer × Session :=
  match taken with
  | none => (.ok (.message none), { buffered with middleware })
  | some filled =>
      match kind.decode filled with
      | .ok payload => (.ok (.message (some payload)), { buffered with middleware })
      | .error overlong => (.error (.raised (.overlong overlong)), { buffered with middleware })

theorem decoded_of_taken {buffered : Session} {state : SubscriptionState} {held : SubscriberEnd}
    (found : buffered.middleware.transport.subscribers.get? state.endpoint = some held)
    {buffer : Layout} {taken : Option Layout} {after : Middleware}
    (outcome : (Request.take (some state) buffer).outcome buffered.middleware = (.ok taken, after)) :
    ∃ answer, (decoded buffered state.kind taken after).1 = .ok answer := by
  cases taken with
  | none => exact ⟨_, rfl⟩
  | some filled =>
      obtain ⟨source, copied⟩ := Request.copied_of_taken found outcome
      obtain ⟨payload, read⟩ := MessageKind.decode_of_copy copied
      simp only [decoded, read]
      exact ⟨_, rfl⟩

theorem fst_run_take {session : Session} {name : String} {index : Nat}
    {subscription : SubscriptionObject}
    (found : session.namedSubscription? name = some (index, subscription)) :
    ((take name).run session).1 =
      let buffered := session.noteLedger (fun ledger => ledger.noteInit subscription.kind)
      (goOn buffered .take
        (Bytes.ofString "failed to take from " ++ buffered.handleKind subscription.handle)
        (decoded buffered subscription.kind)
        ((Request.take (buffered.subscriptionSlot subscription.handle)
          subscription.kind.fresh).outcome buffered.middleware)).1 := by
  unfold take findSubscription
  rw [run_find_bind found]
  dsimp only
  unfold takeMessage withBuffer noteLedger
  rw [run_bind, run_change_bind, run_ensuring, run_bind, run_takeInto]
  generalize (Request.take _ _).outcome _ = outcome
  rcases outcome with ⟨fault | _ | filled, middleware⟩
  · rfl
  · rfl
  · dsimp only [goOn]
    unfold decode decoded
    dsimp only
    cases subscription.kind.decode filled <;> rfl

end Run

namespace Session

/-- Whether a copy of a message of a kind is refused, when one is made now. -/
def refusesCopy (session : Session) (kind : MessageKind) (message : Layout) : Bool :=
  (session.middleware.ledger.copy kind message kind.fresh).1.isNone

/-- The message that waits longest for a subscription. -/
def front? (session : Session) (subscription : SubscriptionObject) : Option Layout :=
  (session.waiting subscription).head?.map
    (session.middleware.transport.store.content subscription.kind)

def ending (session : Session) (callback : Callback) (limit : Nat) (action : Action) :
    Except Stop Answer :=
  ((Run.perform callback limit action).run session).1

variable {session : Session}

/--
How actions fail.  Each that requests something raises failures of one kind only, with one of few statuses, whatever it is
given; and it is told exactly when one of them tells that the context was shut down, or that a copy was refused.  What is
published is a value of the kind, since any other datum is refused before anything is requested.
-/
structure Taxonomy (session : Session) (callback : Callback) (limit : Nat) : Prop where
  makeContext : ∀ name arguments,
    let ended := session.ending callback limit (.makeContext name arguments)
    Run.RaisesOnly ended .initialization [.invalidArgument] ∧
      (Run.RaisesAs ended .initialization .invalidArgument ↔
        arguments.any Bytes.hasNul = true ∨
          ∃ fault, Arguments.parse (some (arguments.map some)) arguments.length = .error fault)
  shutdown : ∀ name handle, session.contextNames.get? name = some handle →
    let ended := session.ending callback limit (.shutdown name)
    Run.RaisesOnly ended .general [.alreadyShutdown] ∧
      (Run.RaisesAs ended .general .alreadyShutdown ↔ session.isShutDown handle = true)
  makeNode : ∀ name context handle nodeName space, session.contextNames.get? context = some handle →
    let ended := session.ending callback limit (.makeNode name context nodeName space)
    Run.RaisesOnly ended .nodeCreation [.notInit, .nodeInvalidName, .nodeInvalidNamespace] ∧
      (nodeName.hasNul = false → space.hasNul = false →
        (Run.RaisesAs ended .nodeCreation .notInit ↔ session.isShutDown handle = true))
  makePublisher : ∀ name node index object kind topic qos,
    session.namedNode? node = some (index, object) →
      let ended := session.ending callback limit (.makePublisher name node kind topic qos)
      Run.RaisesOnly ended .publisherCreation [.nodeInvalid, .topicNameInvalid] ∧
        (topic.hasNul = false →
          (Run.RaisesAs ended .publisherCreation .nodeInvalid ↔
            session.isShutDown object.context = true))
  makeSubscription : ∀ name node index object kind topic qos registered script,
    session.namedNode? node = some (index, object) →
      let ended := session.ending callback limit
        (.makeSubscription name node kind topic qos registered script)
      Run.RaisesOnly ended .subscriptionCreation [.nodeInvalid, .topicNameInvalid] ∧
        (topic.hasNul = false →
          (Run.RaisesAs ended .subscriptionCreation .nodeInvalid ↔
            session.isShutDown object.context = true))
  publish : ∀ name publisher datum payload accepted,
    session.publisherNames.get? name = some publisher → datum.payload publisher.kind = .ok payload →
      publisher.kind.accept payload = .ok accepted →
        let ended := session.ending callback limit (.publish name (.given datum))
        ∃ context, session.contextOf? publisher.handle = some context ∧
          Run.RaisesOnly ended .publish [.publisherInvalid, .error] ∧
            (Run.RaisesAs ended .publish .publisherInvalid ↔ session.isShutDown context = true) ∧
            (Run.RaisesAs ended .publish .error ↔ session.isShutDown context = false ∧
              session.refusesCopy publisher.kind (publisher.kind.encode accepted) = true)
  take : ∀ name index subscription,
    session.namedSubscription? name = some (index, subscription) →
      let ended := session.ending callback limit (.take name)
      ∃ context, session.contextOf? subscription.handle = some context ∧
        Run.RaisesOnly ended .take [.subscriptionInvalid, .error] ∧
          (Run.RaisesAs ended .take .subscriptionInvalid ↔ session.isShutDown context = true) ∧
          (Run.RaisesAs ended .take .error ↔ session.isShutDown context = false ∧
            ∃ message, session.front? subscription = some message ∧
              session.refusesCopy subscription.kind message = true)
  countSubscriptions : ∀ name publisher, session.publisherNames.get? name = some publisher →
    let ended := session.ending callback limit (.countSubscriptions name)
    ∃ context, session.contextOf? publisher.handle = some context ∧
      Run.RaisesOnly ended .general [.publisherInvalid] ∧
        (Run.RaisesAs ended .general .publisherInvalid ↔ session.isShutDown context = true)
  countPublishers : ∀ name index subscription,
    session.namedSubscription? name = some (index, subscription) →
      let ended := session.ending callback limit (.countPublishers name)
      ∃ context, session.contextOf? subscription.handle = some context ∧
        Run.RaisesOnly ended .general [.subscriptionInvalid] ∧
          (Run.RaisesAs ended .general .subscriptionInvalid ↔ session.isShutDown context = true)

theorem refusesCopy_iff {kind : MessageKind} {message : Layout} :
    session.refusesCopy kind message = true ↔
      (session.middleware.ledger.copy kind message kind.fresh).1 = none :=
  Option.isNone_iff_eq_none

section Fields

variable {handles nodes subscriptions : List Nat} (callback : Callback) (limit : Nat)

theorem fails_makeContext (session : Session) (name : String) (arguments : List Bytes) :
    let ended := session.ending callback limit (.makeContext name arguments)
    Run.RaisesOnly ended .initialization [.invalidArgument] ∧
      (Run.RaisesAs ended .initialization .invalidArgument ↔
        arguments.any Bytes.hasNul = true ∨
          ∃ fault, Arguments.parse (some (arguments.map some)) arguments.length = .error fault) := by
  intro ended
  have run : ended = _ := congrArg Prod.fst (Run.run_makeContext session name arguments)
  rw [run]
  cases dirty : arguments.any Bytes.hasNul with
  | true =>
      exact ⟨.inr ⟨_, List.mem_singleton_self _, Run.raisesAs_zeroByte _ _ _⟩,
        fun _ => .inl rfl, fun _ => Run.raisesAs_zeroByte _ _ _⟩
  | false =>
      have outcome := Request.outcome_initContext session.middleware arguments
      have refused : ∀ fault, ((Request.initContext arguments).outcome session.middleware).1 =
          .error fault ↔
            Arguments.parse (some (arguments.map some)) arguments.length = .error fault := by
        intro fault
        rw [outcome]
        cases Arguments.parse (some (arguments.map some)) arguments.length with
        | ok read => exact ⟨nofun, nofun⟩
        | error other => rw [Except.error.injEq, Except.error.injEq]
      constructor
      · refine Run.raisesOnly_goOn (fun _ _ _ => ⟨_, rfl⟩) (fun fault failed => ?_)
        rw [Arguments.status_of_parse ((refused fault).1 failed)]
        exact List.mem_singleton_self _
      · refine (Run.raisesAs_goOn_iff (fun _ _ _ => ⟨_, rfl⟩) _).trans ?_
        constructor
        · exact fun ⟨fault, failed, _⟩ => .inr ⟨fault, (refused fault).1 failed⟩
        · rintro (dirty | ⟨fault, failed⟩)
          · cases dirty
          · exact ⟨fault, (refused fault).2 failed, Arguments.status_of_parse failed⟩

variable (linked : session.Linked) (owned : session.Owned handles nodes subscriptions)

include linked owned

theorem fails_makeNode (name context : String) (handle : Nat) (nodeName space : Bytes)
    (named : session.contextNames.get? context = some handle) :
    let ended := session.ending callback limit (.makeNode name context nodeName space)
    Run.RaisesOnly ended .nodeCreation [.notInit, .nodeInvalidName, .nodeInvalidNamespace] ∧
      (nodeName.hasNul = false → space.hasNul = false →
        (Run.RaisesAs ended .nodeCreation .notInit ↔ session.isShutDown handle = true)) := by
  intro ended
  obtain ⟨number, numbers⟩ := linked.numbers_of_contextName owned named
  have run : ended = _ := congrArg Prod.fst (Run.run_makeNode named name nodeName space)
  rw [numbers.1] at run
  rw [run, numbers.isShutDown_iff]
  have depends := Request.depends_initNode session.middleware nodeName space number
  have answers : ∀ state after,
      (Request.initNode nodeName space (some number)).outcome session.middleware = (.ok state, after) →
      ∃ answer, ((Run.describeNode session.forest.handles.next).run
        (session.nodeMade name nodeName handle state after)).1 = .ok answer := by
    intro state after _
    obtain ⟨_, _, _, told⟩ := Run.run_describeNode session.forest.handles.next
      (session.nodeMade name nodeName handle state after)
    exact ⟨_, congrArg Prod.fst told⟩
  exact Run.fails_unless_hasNul
    (fun ended => space.hasNul = false → (Run.RaisesAs ended _ _ ↔ _)) (by decide)
    (Run.fails_unless_hasNul (fun ended => Run.RaisesAs ended _ _ ↔ _) (by decide)
      (Run.fails_of_depends depends (by decide) answers))

theorem fails_makePublisher (name node : String) (index : Nat) (object : NodeObject)
    (kind : MessageKind) (topic : Bytes) (qos : Qos)
    (found : session.namedNode? node = some (index, object)) :
    let ended := session.ending callback limit (.makePublisher name node kind topic qos)
    Run.RaisesOnly ended .publisherCreation [.nodeInvalid, .topicNameInvalid] ∧
      (topic.hasNul = false →
        (Run.RaisesAs ended .publisherCreation .nodeInvalid ↔
          session.isShutDown object.context = true)) := by
  intro ended
  obtain ⟨state, slot, numbers⟩ := linked.namedNode owned found
  have run : ended = _ := congrArg Prod.fst (Run.run_makePublisher found name kind topic qos)
  rw [slot] at run
  rw [run, numbers.isShutDown_iff]
  have depends := Request.depends_initPublisher session.middleware state kind topic qos
  exact Run.fails_unless_hasNul (fun ended => Run.RaisesAs ended _ _ ↔ _) (by decide)
    (Run.fails_of_depends depends (by decide) (fun _ _ _ => ⟨_, rfl⟩))

theorem fails_makeSubscription (name node : String) (index : Nat) (object : NodeObject)
    (kind : MessageKind) (topic : Bytes) (qos : Qos) (registered : Bool) (script : Script)
    (found : session.namedNode? node = some (index, object)) :
    let ended := session.ending callback limit
      (.makeSubscription name node kind topic qos registered script)
    Run.RaisesOnly ended .subscriptionCreation [.nodeInvalid, .topicNameInvalid] ∧
      (topic.hasNul = false →
        (Run.RaisesAs ended .subscriptionCreation .nodeInvalid ↔
          session.isShutDown object.context = true)) := by
  intro ended
  obtain ⟨state, slot, numbers⟩ := linked.namedNode owned found
  have run : ended = _ := congrArg Prod.fst
    (Run.run_makeSubscription found name kind topic qos registered script)
  rw [slot] at run
  rw [run, numbers.isShutDown_iff]
  have depends := Request.depends_initSubscription session.middleware state kind topic qos
  exact Run.fails_unless_hasNul (fun ended => Run.RaisesAs ended _ _ ↔ _) (by decide)
    (Run.fails_of_depends depends (by decide) (fun _ _ _ => ⟨_, rfl⟩))

theorem fails_shutdown (name : String) (handle : Nat)
    (named : session.contextNames.get? name = some handle) :
    let ended := session.ending callback limit (.shutdown name)
    Run.RaisesOnly ended .general [.alreadyShutdown] ∧
      (Run.RaisesAs ended .general .alreadyShutdown ↔ session.isShutDown handle = true) := by
  intro ended
  obtain ⟨number, numbers⟩ := linked.numbers_of_contextName owned named
  have run : ended = _ := congrArg Prod.fst (Run.run_shutdown named)
  rw [numbers.1] at run
  rw [run, numbers.isShutDown_iff]
  have depends := Request.depends_shutdown session.middleware number
  exact Run.fails_of_depends depends nofun (fun _ _ _ => ⟨_, rfl⟩)

theorem fails_countSubscriptions (name : String) (publisher : PublisherObject)
    (named : session.publisherNames.get? name = some publisher) :
    let ended := session.ending callback limit (.countSubscriptions name)
    ∃ context, session.contextOf? publisher.handle = some context ∧
      Run.RaisesOnly ended .general [.publisherInvalid] ∧
        (Run.RaisesAs ended .general .publisherInvalid ↔ session.isShutDown context = true) := by
  intro ended
  obtain ⟨state, context, held, slot, _, contextOf, numbers, there⟩ := linked.namedPublisher owned named
  have run : ended = _ := congrArg Prod.fst (Run.run_countSubscriptions named)
  rw [slot] at run
  rw [run]
  refine ⟨context, contextOf, ?_⟩
  rw [numbers.isShutDown_iff]
  have depends := Request.depends_subscriptionCount there
  exact Run.fails_of_depends depends nofun (fun _ _ _ => ⟨_, rfl⟩)

theorem fails_countPublishers (name : String) (index : Nat) (subscription : SubscriptionObject)
    (found : session.namedSubscription? name = some (index, subscription)) :
    let ended := session.ending callback limit (.countPublishers name)
    ∃ context, session.contextOf? subscription.handle = some context ∧
      Run.RaisesOnly ended .general [.subscriptionInvalid] ∧
        (Run.RaisesAs ended .general .subscriptionInvalid ↔ session.isShutDown context = true) := by
  intro ended
  obtain ⟨state, context, held, slot, _, contextOf, numbers, there⟩ :=
    linked.namedSubscription owned found
  have run : ended = _ := congrArg Prod.fst (Run.run_countPublishers found)
  rw [slot] at run
  rw [run]
  refine ⟨context, contextOf, ?_⟩
  rw [numbers.isShutDown_iff]
  have depends := Request.depends_publisherCount there
  exact Run.fails_of_depends depends nofun (fun _ _ _ => ⟨_, rfl⟩)

theorem fails_publish (name : String) (publisher : PublisherObject) (datum : Datum)
    (payload accepted : Payload) (named : session.publisherNames.get? name = some publisher)
    (fits : datum.payload publisher.kind = .ok payload)
    (bounded : publisher.kind.accept payload = .ok accepted) :
    let ended := session.ending callback limit (.publish name (.given datum))
    ∃ context, session.contextOf? publisher.handle = some context ∧
      Run.RaisesOnly ended .publish [.publisherInvalid, .error] ∧
        (Run.RaisesAs ended .publish .publisherInvalid ↔ session.isShutDown context = true) ∧
        (Run.RaisesAs ended .publish .error ↔ session.isShutDown context = false ∧
          session.refusesCopy publisher.kind (publisher.kind.encode accepted) = true) := by
  intro ended
  obtain ⟨state, context, held, slot, kind, contextOf, numbers, there⟩ :=
    linked.namedPublisher owned named
  let encoded := session.noteLedger (fun ledger => ledger.noteAcquired publisher.kind)
  have run : ended = _ := Run.fst_run_publish named fits bounded
  rw [slot] at run
  rw [run]
  have there : encoded.middleware.transport.publishers.get? state.endpoint = some held := there
  have depends := Request.depends_publish there (publisher.kind.encode accepted)
  refine ⟨context, contextOf, Run.raisesOnly_of_depends depends (fun _ _ _ => ⟨_, rfl⟩), ?_, ?_⟩
  · rw [numbers.isShutDown_iff]
    exact Run.raisesAs_iff_of_depends depends (by decide) (fun _ _ _ => ⟨_, rfl⟩)
  · rw [numbers.runs_iff, refusesCopy_iff]
    refine (Run.raisesAs_goOn_iff (fun _ _ _ => ⟨_, rfl⟩) _).trans ?_
    refine (Request.publish_error_iff there _).trans ?_
    have copies := Ledger.fst_copy_of_refusals
      (show encoded.middleware.ledger.refusals = session.middleware.ledger.refusals from rfl)
      publisher.kind (publisher.kind.encode accepted) publisher.kind.fresh
    rw [kind, copies]
    exact Iff.rfl

theorem fails_take (name : String) (index : Nat) (subscription : SubscriptionObject)
    (found : session.namedSubscription? name = some (index, subscription)) :
    let ended := session.ending callback limit (.take name)
    ∃ context, session.contextOf? subscription.handle = some context ∧
      Run.RaisesOnly ended .take [.subscriptionInvalid, .error] ∧
        (Run.RaisesAs ended .take .subscriptionInvalid ↔ session.isShutDown context = true) ∧
        (Run.RaisesAs ended .take .error ↔ session.isShutDown context = false ∧
          ∃ message, session.front? subscription = some message ∧
            session.refusesCopy subscription.kind message = true) := by
  intro ended
  obtain ⟨state, context, held, slot, kind, contextOf, numbers, there⟩ :=
    linked.namedSubscription owned found
  let buffered := session.noteLedger (fun ledger => ledger.noteInit subscription.kind)
  have run : ended = _ := Run.fst_run_take found
  change ended = (Run.goOn buffered .take _ _
    ((Request.take (session.subscriptionSlot _) _).outcome _)).1 at run
  rw [slot] at run
  rw [run]
  have front : session.front? subscription = held.queue.waiting.head?.map
      (session.middleware.transport.store.content subscription.kind) := by
    unfold front?
    rw [waiting_of_endpoint slot there]
  have there : buffered.middleware.transport.subscribers.get? state.endpoint = some held := there
  have depends := Request.depends_take there subscription.kind.fresh
  have answers : ∀ taken after,
      (Request.take (some state) subscription.kind.fresh).outcome buffered.middleware =
        (.ok taken, after) →
      ∃ answer, (Run.decoded buffered subscription.kind taken after).1 = .ok answer :=
    fun _ _ outcome => kind ▸ Run.decoded_of_taken there outcome
  refine ⟨context, contextOf, Run.raisesOnly_of_depends depends answers, ?_, ?_⟩
  · rw [numbers.isShutDown_iff]
    exact Run.raisesAs_iff_of_depends depends (by decide) answers
  · rw [numbers.runs_iff, front]
    refine (Run.raisesAs_goOn_iff answers _).trans ?_
    refine (Request.take_error_iff there _).trans ?_
    rw [kind]
    have copies := fun sample => Ledger.fst_copy_of_refusals
      (show buffered.middleware.ledger.refusals = session.middleware.ledger.refusals from rfl)
      subscription.kind (session.middleware.transport.store.content subscription.kind sample)
      subscription.kind.fresh
    refine and_congr_right (fun _ => ⟨?_, ?_⟩)
    · rintro ⟨sample, waits, refused⟩
      exact ⟨_, congrArg (Option.map _) waits, refusesCopy_iff.2 ((copies sample).symm.trans refused)⟩
    · rintro ⟨message, waits, refused⟩
      obtain ⟨sample, first, rfl⟩ := Option.map_eq_some_iff.1 waits
      exact ⟨sample, first, (copies sample).trans (refusesCopy_iff.1 refused)⟩

end Fields

/--
Orderly actions lead through sessions in which every action that requests something fails in one kind of way only, whatever
it is given, and tells exactly that a context was shut down or that a copy was refused, where it does.  A context counts as
shut down if it was, at some time on the way.
-/
theorem failures_classified (actions : List Action) (orderly : orderlyAll actions = true) :
    (empty.run actions).Reached ∧
      ∀ session : Session, session.Reached →
        (∀ context, session.isShutDown context = true ↔ session.WasShutDown context) ∧
          ∀ (callback : Callback) (limit : Nat), session.Taxonomy callback limit := by
  refine ⟨reached_run actions orderly, fun session reached => ⟨reached.isShutDown_iff, ?_⟩⟩
  intro callback limit
  obtain ⟨scene, there, rfl⟩ := reached
  have linked := there.linked
  have owned := there.owned
  exact
    { makeContext := fails_makeContext callback limit scene.session
      shutdown := fails_shutdown callback limit linked owned
      makeNode := fails_makeNode callback limit linked owned
      makePublisher := fails_makePublisher callback limit linked owned
      makeSubscription := fails_makeSubscription callback limit linked owned
      publish := fails_publish callback limit linked owned
      take := fails_take callback limit linked owned
      countSubscriptions := fails_countSubscriptions callback limit linked owned
      countPublishers := fails_countPublishers callback limit linked owned }

/-- A publisher of a kind whose next copy is refused. -/
def refusing : List Action :=
  [.makeContext "context" [],
    .makeNode "node" "context" (Bytes.ofString "a") (Bytes.ofString "/"),
    .makePublisher "publisher" "node" .counted (Bytes.ofString "chatter") Qos.standard,
    .refuseCopies 1]

/-- A refused copy is told until the context is shut down, which is told from then on. -/
theorem failures_classified_refusing :
    let publish := Action.publish "publisher" (.given (.text (Bytes.ofString "1")))
    let callback := Run.callbackWithin 1 1
    let ended := empty.run (refusing ++ [.shutdown "context"])
    Run.RaisesAs ((empty.run refusing).ending callback 1 publish) .publish .error ∧
      Run.RaisesAs (ended.ending callback 1 publish) .publish .publisherInvalid ∧
      Run.RaisesAs (ended.ending callback 1 (.makeNode "other" "context" (Bytes.ofString "b") []))
        .nodeCreation .notInit := by
  intro publish callback ended
  obtain ⟨reached, fails⟩ := failures_classified refusing rfl
  obtain ⟨later, failsLater⟩ := failures_classified (refusing ++ [.shutdown "context"]) rfl
  obtain ⟨context, stands, _, _, refused⟩ := ((fails _ reached).2 callback 1).publish "publisher"
    { handle := 2, kind := .counted } (.text (Bytes.ofString "1")) (.number 1) (.number 1)
    (by decide +kernel) (by decide +kernel) (by decide +kernel)
  obtain ⟨_, standsLater, _, invalid, _⟩ := ((failsLater _ later).2 callback 1).publish "publisher"
    { handle := 2, kind := .counted } (.text (Bytes.ofString "1")) (.number 1) (.number 1)
    (by decide +kernel) (by decide +kernel) (by decide +kernel)
  have first : (empty.run refusing).contextOf? 2 = some 0 := by decide +kernel
  have last : ended.contextOf? 2 = some 0 := by decide +kernel
  cases stands.symm.trans first
  cases standsLater.symm.trans last
  obtain ⟨_, notInit⟩ := ((failsLater _ later).2 callback 1).makeNode "other" "context" 0
    (Bytes.ofString "b") [] (by decide +kernel)
  refine ⟨refused.2 (by decide +kernel), invalid.2 (by decide +kernel), ?_⟩
  exact (notInit (by decide +kernel) (by decide +kernel)).2 (by decide +kernel)

end Session

end PubSub
