import PubSub.Proofs.Calls.Queues
import PubSub.Proofs.Reach.Matching
import PubSub.Proofs.Validity.Ended

/-!
What a publisher feeds after its context has ended.  It publishes nothing any more; what it retains still goes to
subscriptions that come late, as long as the publisher is there, and to nobody else.
-/

namespace PubSub

namespace Workspace

variable {workspace : Workspace} {name : String}

/-- A new subscription is sent what a publisher of its topic retains: both are transient-local, and they match. -/
structure Replays (workspace : Workspace) (publisher : String) (action : Action) (name : String) :
    Prop where
  call : ∃ node kind topic qos,
    action = .initSubscription (some name) (some node) (some (.complete kind)) topic (some qos) ∧
      qos.resolve.isTransientLocal = true
  succeeded : (workspace.step action).1 = .status .ok
  free : workspace.subscriptions.get? name = none
  retains : ∃ held, workspace.publisherOf publisher = some held ∧ held.qos.isTransientLocal = true
  matched : (workspace.step action).2.matched publisher name = true

theorem queueOf_of_absent (absent : workspace.subscriptions.get? name = none) :
    workspace.queueOf name = [] := by
  unfold queueOf subscriberOf
  rw [absent]
  rfl

/-- A sample is retained by one publisher, so that whoever is sent it in a replay is sent it by that one. -/
theorem Wired.replayed_by (wired : Wired workspace) {publisher : String} {state : PublisherState}
    {held : PublisherEnd} (there : workspace.publishers.get? publisher = some state)
    (endpoint : workspace.middleware.transport.publishers.get? state.endpoint = some held)
    {sample : Nat} (member : sample ∈ held.history) {key : Bytes} {qos : Qos}
    (replayed : sample ∈ workspace.middleware.transport.replayed
      (workspace.middleware.pruneGraph.topic key) qos) :
    qos.isTransientLocal = true ∧ held.qos.isTransientLocal = true ∧
      held.qos.compatible qos = true ∧ key = state.key := by
  obtain ⟨late, index, other, listed, found, keeps, compatible, kept⟩ := Transport.mem_replayed replayed
  have same := wired.single index state.endpoint other held sample found endpoint kept member
  subst same
  cases found.symm.trans endpoint
  have known := (workspace.middleware.publishers_pruneGraph key).2 state.endpoint listed
  have present := (Arena.contains_iff _ _).2 ⟨held, endpoint⟩
  have place := wired.publishers.eq_of_snd_eq
    ((wired.publishers.mem_iff key state.endpoint).2 ⟨known, present⟩) (Registered.mem_ends there) rfl
  exact ⟨late, keeps, compatible, congrArg Prod.fst place⟩

/-- What waits for a new subscription was replayed, since its queue was empty. -/
theorem subscription_made {changed : Middleware} (noted : workspace.middleware.Noted changed)
    (topicName : Bytes) (kind : MessageKind) (qos : Qos) (context : Nat) {after : Workspace}
    (made : after =
      { workspace with
        middleware := (changed.registerSubscription topicName kind qos context).2
        subscriptions :=
          workspace.subscriptions.set name
            (changed.registerSubscription topicName kind qos context).1
        subscriptionKinds := workspace.subscriptionKinds.set name kind }) :
    after.publishers = workspace.publishers ∧
      after.middleware.transport.publishers = workspace.middleware.transport.publishers ∧
      ∃ state held, after.subscriptions.get? name = some state ∧
        after.middleware.transport.subscribers.get? state.endpoint = some held ∧ held.qos = qos ∧
        held.queue.waiting.Sublist (workspace.middleware.transport.replayed
          (workspace.middleware.pruneGraph.topic state.key) qos) := by
  obtain ⟨reason, ledger, rfl, _⟩ := noted
  obtain ⟨publishers, subscribers⟩ :=
    (workspace.middleware.recount reason ledger).transport.addSubscriber_ends
      (workspace.middleware.pruneGraph.topic
        (Middleware.topicKey topicName qos.plainTopic kind)) qos context
  have here := (subscribers workspace.middleware.transport.subscribers.next).trans (if_pos rfl)
  let state := ((workspace.middleware.recount reason ledger).registerSubscription topicName kind qos
    context).1
  subst made
  refine ⟨rfl, publishers, state, _, ?_, here, rfl, ?_⟩
  · exact (workspace.subscriptions.get?_set name name state).trans (if_pos rfl)
  · exact SampleQueue.pushAll_sublist _ _

theorem Wired.matched_of_replayed (wired : Wired workspace) {publisher : String} {held : PublisherEnd}
    (found : workspace.publisherOf publisher = some held) {sample : Nat}
    (member : sample ∈ held.history) {after : Workspace}
    (publishers : after.publishers = workspace.publishers)
    (ends : after.middleware.transport.publishers = workspace.middleware.transport.publishers)
    {state : SubscriptionState} {subscriber : SubscriberEnd}
    (mine : after.subscriptions.get? name = some state)
    (here : after.middleware.transport.subscribers.get? state.endpoint = some subscriber)
    (replayed : sample ∈ workspace.middleware.transport.replayed
      (workspace.middleware.pruneGraph.topic state.key) subscriber.qos) :
    subscriber.qos.isTransientLocal = true ∧ held.qos.isTransientLocal = true ∧
      after.matched publisher name = true := by
  obtain ⟨sender, there, endpoint⟩ := publisherOf_eq_some.1 found
  obtain ⟨late, keeps, compatible, equal⟩ := wired.replayed_by there endpoint member replayed
  rw [← publishers] at there
  rw [← ends] at endpoint
  refine ⟨late, keeps, ?_⟩
  rw [matched_eq there endpoint mine, here, Option.any_some, decide_eq_true equal, compatible]
  rfl

theorem Wired.replays (wired : Wired workspace) {publisher : String} {held : PublisherEnd}
    (found : workspace.publisherOf publisher = some held) {sample : Nat}
    (member : sample ∈ held.history) {action : Action}
    (puts : (workspace.queueOf name).count sample <
      ((workspace.step action).2.queueOf name).count sample) :
    workspace.Replays publisher action name := by
  obtain ⟨state, there, endpoint⟩ := publisherOf_eq_some.1 found
  have old := wired.sound.lt_next_of_history endpoint member
  have effect := workspace.step_effect action
  cases existing : workspace.subscriptions.get? name with
  | some mine =>
      -- A queue that is there already is fed by publishes only, and these make new samples.
      obtain ⟨subscriber, present⟩ := wired.exists_subscriber existing
      have known := subscriberOf_eq_some.2 ⟨mine, existing, present⟩
      exact absurd puts (Nat.not_lt.2 (effect.count_le wired known old))
  | none =>
      have put : sample ∈ (workspace.step action).2.queueOf name :=
        List.count_pos_iff.1 (Nat.lt_of_le_of_lt (Nat.zero_le _) puts)
      have appears : (workspace.step action).2.subscriptions.get? name ≠ none := by
        intro nothing
        rw [queueOf_of_absent nothing] at put
        cases put
      obtain ⟨node, kind, topic, qos, owner, changed, topicName, rfl, succeeded, noted, made⟩ :=
        effect.subscription_new existing appears
      obtain ⟨publishers, ends, state, subscriber, mine, here, same, fed⟩ :=
        subscription_made noted topicName kind qos.resolve owner.context made
      rw [queueOf_eq (subscriberOf_eq_some.2 ⟨state, mine, here⟩)] at put
      have replayed := fed.subset put
      rw [← same] at replayed
      obtain ⟨late, keeps, fits⟩ :=
        wired.matched_of_replayed found member publishers ends mine here replayed
      constructor
      · exact ⟨node, kind, topic, qos, rfl, same ▸ late⟩
      · exact succeeded
      · exact existing
      · exact ⟨held, found, keeps⟩
      · exact fits

theorem Ended.queueOf_publish {context : Nat} (ended : workspace.Ended context) {publisher : String}
    {held : PublisherEnd} (found : workspace.publisherOf publisher = some held)
    (its : held.context = context) {data : Option Datum} {answer : Answer} {after : Workspace}
    (effect : workspace.Effect (.publish (some publisher) data) answer after) (name : String) :
    after.queueOf name = workspace.queueOf name := by
  obtain ⟨state, there, endpoint⟩ := publisherOf_eq_some.1 found
  cases effect with
  | noted unmoved noted =>
      obtain ⟨reason, ledger, rfl, _⟩ := noted
      rfl
  | published content known publisherEnd runs =>
      cases there.symm.trans known
      cases endpoint.symm.trans publisherEnd
      rw [its, ended.isValid] at runs
      cases runs

/--
After a call has ended a context, no publish of its publishers fills a queue, and what they retain comes to a queue
by the replay to a new subscription only.
-/
theorem ended_feeds_by_replay_only (before : List Action) {action : Action} {context : Nat}
    (ends : (empty.run before).Ends action context)
    (succeeded : ((empty.run before).step action).1 = .status .ok) (later : List Action)
    {publisher : String} {held : PublisherEnd}
    (found : (((empty.run before).step action).2.run later).publisherOf publisher = some held)
    (its : held.context = context) :
    let workspace := ((empty.run before).step action).2.run later
    (∀ data name,
        (workspace.step (.publish (some publisher) data)).2.queueOf name = workspace.queueOf name) ∧
      ∀ sample ∈ held.history, ∀ next name,
        (workspace.queueOf name).count sample <
            ((workspace.step next).2.queueOf name).count sample →
          workspace.Replays publisher next name := by
  have wired := wired_empty.run before
  have ended := (ends.ended wired succeeded).run later
  have kept := (wired.step action).run later
  constructor
  · exact fun data name => ended.queueOf_publish found its (Workspace.step_effect _ _) name
  · exact fun sample member next name puts => kept.replays found member puts

/-- A publisher that retains a message in one context, and a node in another one. -/
def heir : List Action :=
  let name := some (Bytes.ofString "talker")
  let space := some (Bytes.ofString "/")
  [.initContext (some "left") (some []) 0,
    .initContext (some "right") (some []) 0,
    .initNode (some "here") name space (some "left") (some false),
    .initNode (some "there") name space (some "right") (some false),
    .initPublisher (some "publisher") (some "here") (some (.complete .int64))
      (some (Bytes.ofString "chatter")) (some { Qos.standard with durability := .transientLocal }),
    .publish (some "publisher") (some (.number 7))]

/-- A subscription in the other context, which asks for what was published before. -/
def inherits : Action :=
  .initSubscription (some "late") (some "there") (some (.complete .int64))
    (some (Bytes.ofString "chatter")) (some { Qos.standard with durability := .transientLocal })

/-- Who is sent the message after the shutdown is a new subscription that the publisher matches. -/
theorem ended_feeds_by_replay_only_heir :
    (((empty.run heir).step (.shutdown (some "left"))).2.step inherits).2.matched "publisher" "late" =
      true := by
  have ends : (empty.run heir).Ends (.shutdown (some "left")) 0 :=
    ⟨"left", by decide +kernel, .inl rfl⟩
  have found : (((empty.run heir).step (.shutdown (some "left"))).2.run []).publisherOf "publisher" =
      some
        { qos := { Qos.standard with durability := .transientLocal }
          context := 0
          history := [0] } := by
    decide +kernel
  have fed := (ended_feeds_by_replay_only heir ends (by decide +kernel) [] found rfl).2 0
    List.mem_cons_self inherits "late" (by decide +kernel)
  exact fed.matched

/-- A message that a publisher retained is taken from a subscription made after its context was shut down. -/
theorem fed_after_shutdown :
    ((empty.run heir).step (.shutdown (some "left"))).1 = .status .ok ∧
      (((empty.run heir).step (.shutdown (some "left"))).2.step inherits).1 = .status .ok ∧
      ((((empty.run heir).step (.shutdown (some "left"))).2.step inherits).2.step
        (.take (some "late") true)).1 = .message .ok (some (.number 7)) := by
  decide +kernel

end Workspace

end PubSub
