import PubSub.Proofs.Calls.Wired

/-!
Queues in one call.  A call leaves the queue of a subscription as it is, puts a new sample into it, takes its
front, or releases the subscription; the first is all that can happen where the context has ended.
-/

namespace PubSub

namespace SampleQueue

theorem push_sublist (queue : SampleQueue) (sample : Nat) :
    (queue.push sample).2.waiting.Sublist (queue.waiting ++ [sample]) := by
  obtain ⟨left, split, pushed⟩ := queue.push_cases sample
  rw [pushed, ← split]
  exact (List.sublist_append_right _ _).append_right [sample]

theorem pushAll_sublist (queue : SampleQueue) (samples : List Nat) :
    (queue.pushAll samples).waiting.Sublist (queue.waiting ++ samples) := by
  induction samples generalizing queue with
  | nil =>
      rw [List.append_nil]
      exact .refl _
  | cons sample rest ih =>
      have pushed := (queue.push_sublist sample).append_right rest
      rw [List.append_assoc, List.singleton_append] at pushed
      exact (ih (queue.push sample).2).trans pushed

end SampleQueue

namespace Workspace

/-- The subscriber behind a subscription of a name. -/
def subscriberOf (workspace : Workspace) (name : String) : Option SubscriberEnd :=
  (workspace.subscriptions.get? name).bind
    (fun state => workspace.middleware.transport.subscribers.get? state.endpoint)

def publisherOf (workspace : Workspace) (name : String) : Option PublisherEnd :=
  (workspace.publishers.get? name).bind
    (fun state => workspace.middleware.transport.publishers.get? state.endpoint)

def queueOf (workspace : Workspace) (name : String) : List Nat :=
  (workspace.subscriberOf name).elim [] (fun held => held.queue.waiting)

variable {workspace after : Workspace} {name : String} {held : SubscriberEnd}

theorem subscriberOf_eq_some :
    workspace.subscriberOf name = some held ↔ ∃ state, workspace.subscriptions.get? name = some state ∧
      workspace.middleware.transport.subscribers.get? state.endpoint = some held :=
  Option.bind_eq_some_iff

theorem publisherOf_eq_some {held : PublisherEnd} :
    workspace.publisherOf name = some held ↔ ∃ state, workspace.publishers.get? name = some state ∧
      workspace.middleware.transport.publishers.get? state.endpoint = some held :=
  Option.bind_eq_some_iff

theorem validNode?_slot {node : NodeState} (found : workspace.nodes.get? name = some node) :
    workspace.middleware.validNode? (slot workspace.nodes (some name)) =
      if workspace.middleware.transport.isValid node.context then some node else none := by
  unfold slot Middleware.validNode?
  rw [Option.map_some, found]

theorem validPublisher?_slot {state : PublisherState} {held : PublisherEnd}
    (found : workspace.publishers.get? name = some state)
    (endpoint : workspace.middleware.transport.publishers.get? state.endpoint = some held) :
    workspace.middleware.validPublisher? (slot workspace.publishers (some name)) =
      if workspace.middleware.transport.isValid held.context then some state else none := by
  unfold slot Middleware.validPublisher?
  rw [Option.map_some, found]
  dsimp only
  rw [endpoint]

theorem validSubscription?_slot {state : SubscriptionState}
    (found : workspace.subscriptions.get? name = some state)
    (endpoint : workspace.middleware.transport.subscribers.get? state.endpoint = some held) :
    workspace.middleware.validSubscription? (slot workspace.subscriptions (some name)) =
      if workspace.middleware.transport.isValid held.context then some state else none := by
  unfold slot Middleware.validSubscription?
  rw [Option.map_some, found]
  dsimp only
  rw [endpoint]

theorem queueOf_eq (found : workspace.subscriberOf name = some held) :
    workspace.queueOf name = held.queue.waiting := by
  unfold queueOf
  rw [found, Option.elim_some]

inductive Turned (transport : Transport) (held : SubscriberEnd) : SampleQueue → Prop
  | same : Turned transport held held.queue
  | pushed (runs : transport.isValid held.context = true) :
      Turned transport held (held.queue.push transport.store.samples.next).2
  | popped {sample : Nat} {queue : SampleQueue} (runs : transport.isValid held.context = true)
      (front : held.queue.pop = some (sample, queue)) : Turned transport held queue

theorem Turned.count_le {transport : Transport} {queue : SampleQueue}
    (turned : Turned transport held queue) {sample : Nat} (old : sample < transport.store.samples.next) :
    queue.waiting.count sample ≤ held.queue.waiting.count sample := by
  cases turned with
  | same => exact Nat.le_refl _
  | pushed runs =>
      have most := (held.queue.push_sublist transport.store.samples.next).count_le sample
      have other : [transport.store.samples.next].count sample = 0 := by
        apply List.count_eq_zero_of_not_mem
        rw [List.mem_singleton]
        exact Nat.ne_of_lt old
      rw [List.count_append, other] at most
      exact most
  | popped runs front =>
      rw [SampleQueue.waiting_of_pop front]
      exact List.count_le_count_cons

def Turns (workspace after : Workspace) (name : String) (held : SubscriberEnd) : Prop :=
  ∃ queue, after.subscriberOf name = some { held with queue } ∧
    Turned workspace.middleware.transport held queue

theorem turns_same (found : workspace.subscriberOf name = some held)
    (subscriptions : after.subscriptions.get? name = workspace.subscriptions.get? name)
    (subscribers : ∀ state, workspace.subscriptions.get? name = some state →
      after.middleware.transport.subscribers.get? state.endpoint =
        workspace.middleware.transport.subscribers.get? state.endpoint) :
    workspace.Turns after name held := by
  obtain ⟨state, here, there⟩ := subscriberOf_eq_some.1 found
  refine ⟨held.queue, subscriberOf_eq_some.2 ⟨state, subscriptions.trans here, ?_⟩, .same⟩
  exact (subscribers state here).trans there

theorem Wired.turns_published (wired : Wired workspace) (found : workspace.subscriberOf name = some held)
    {state : PublisherState} {sender : PublisherEnd}
    (endpoint : workspace.middleware.transport.publishers.get? state.endpoint = some sender)
    (store : SampleStore) :
    workspace.Turns
      (workspace.withMiddleware
        (workspace.middleware.withTransport
          ((workspace.middleware.transport.withStore store).sendOut
            (workspace.middleware.topic state.key) state.endpoint
            workspace.middleware.transport.store.samples.next))) name held := by
  obtain ⟨subscription, here, there⟩ := subscriberOf_eq_some.1 found
  have sent := ((workspace.middleware.transport.withStore store).publish_ends
    (workspace.middleware.topic state.key) endpoint workspace.middleware.transport.store.samples.next
    (wired.subscribers.nodup_receivers state.key sender.qos)).2.1 subscription.endpoint
  by_cases reached : subscription.endpoint ∈ workspace.middleware.transport.receivers
      (workspace.middleware.topic state.key) sender.qos
  · obtain ⟨_, other, same, receives⟩ := (Transport.mem_receivers _ _ _ _).1 reached
    rw [there, Option.some.injEq] at same
    subst other
    have runs := (Bool.and_eq_true _ _ ▸ receives).1
    refine ⟨_, subscriberOf_eq_some.2 ⟨subscription, here, ?_⟩, .pushed runs⟩
    exact sent.trans ((if_pos reached).trans (congrArg (Option.map _) there))
  · refine ⟨_, subscriberOf_eq_some.2 ⟨subscription, here, ?_⟩, .same⟩
    exact sent.trans ((if_neg reached).trans there)

theorem turns_took (found : workspace.subscriberOf name = some held) {other : SubscriberEnd}
    {endpoint sample : Nat} {taken : Transport} {ledger : Ledger}
    (there : workspace.middleware.transport.subscribers.get? endpoint = some other)
    (runs : workspace.middleware.transport.isValid other.context = true)
    (front : (workspace.middleware.withLedger ledger).transport.takeSample endpoint =
      some (sample, taken)) :
    workspace.Turns
      (workspace.withMiddleware
        (workspace.middleware.withTransport (taken.withStore (taken.store.release sample))))
      name held := by
  obtain ⟨state, here, present⟩ := subscriberOf_eq_some.1 found
  obtain ⟨same, queue, known, popped, rfl⟩ := Transport.takeSample_eq_some front
  cases there.symm.trans known
  have left := fun index => workspace.middleware.transport.subscribers.get?_modify endpoint index
    (fun old => { old with queue })
  by_cases mine : state.endpoint = endpoint
  · rw [mine] at present
    cases there.symm.trans present
    refine ⟨queue, subscriberOf_eq_some.2 ⟨state, here, ?_⟩, .popped runs popped⟩
    exact (left state.endpoint).trans ((if_pos mine).trans (congrArg (Option.map _) there))
  · refine ⟨held.queue, subscriberOf_eq_some.2 ⟨state, here, ?_⟩, .same⟩
    exact (left state.endpoint).trans ((if_neg mine).trans present)

theorem turns_subscriptionMade (found : workspace.subscriberOf name = some held) {other : String}
    (free : workspace.subscriptions.get? other = none) {changed : Middleware}
    (noted : workspace.middleware.Noted changed) (topicName : Bytes) (kind : MessageKind) (qos : Qos)
    (context : Nat) :
    workspace.Turns
      { workspace with
        middleware := (changed.registerSubscription topicName kind qos context).2
        subscriptions :=
          workspace.subscriptions.set other
            (changed.registerSubscription topicName kind qos context).1
        subscriptionKinds := workspace.subscriptionKinds.set other kind } name held := by
  obtain ⟨reason, ledger, rfl, _⟩ := noted
  obtain ⟨state, here, there⟩ := subscriberOf_eq_some.1 found
  have different : name ≠ other := by
    rintro rfl
    rw [free] at here
    cases here
  have old := workspace.middleware.transport.subscribers.lt_next_of_get? there
  have added := ((workspace.middleware.recount reason ledger).transport.addSubscriber_ends
    ((workspace.middleware.recount reason ledger).pruneGraph.topic
      (Middleware.topicKey topicName qos.plainTopic kind)) qos context).2 state.endpoint
  refine ⟨held.queue, subscriberOf_eq_some.2 ⟨state, ?_, ?_⟩, .same⟩
  · exact (workspace.subscriptions.get?_set other name _).trans ((if_neg different).trans here)
  · exact added.trans ((if_neg (Nat.ne_of_lt old)).trans there)

theorem Wired.turns_subscriptionReleased (wired : Wired workspace)
    (found : workspace.subscriberOf name = some held) {other : String} {gone : SubscriptionState}
    (there : workspace.subscriptions.get? other = some gone) (different : name ≠ other) :
    workspace.Turns
      { workspace with
        middleware :=
          workspace.middleware.withTransport
            (workspace.middleware.transport.dropSubscriber gone.endpoint)
        subscriptions := workspace.subscriptions.erase other } name held := by
  apply turns_same found
  · exact (workspace.subscriptions.get?_erase other name).trans (if_neg different)
  · intro state here
    have apart : state.endpoint ≠ gone.endpoint :=
      fun equal => different (wired.subscribers.name_eq there here equal)
    exact (workspace.middleware.transport.get?_dropSubscriber _ _).trans (if_neg apart)

/-- A subscription is released by its own call only, and until then a call can turn its queue only. -/
theorem Effect.subscriber {action : Action} {answer : Answer}
    (effect : workspace.Effect action answer after) (wired : Wired workspace)
    (found : workspace.subscriberOf name = some held) :
    (∃ node, action = .finiSubscription (some name) node) ∧ answer = .status .ok ∧
        after.subscriberOf name = none ∨
      workspace.Turns after name held := by
  cases effect with
  | noted unmoved noted =>
      obtain ⟨reason, ledger, rfl, _⟩ := noted
      exact .inr (turns_same found rfl (fun _ _ => rfl))
  | pruned number => exact .inr (turns_same found rfl (fun _ _ => rfl))
  | contextOpened arguments free => exact .inr (turns_same found rfl (fun _ _ => rfl))
  | contextEnded ending => exact .inr (turns_same found rfl (fun _ _ => rfl))
  | contextReleased ending => exact .inr (turns_same found rfl (fun _ _ => rfl))
  | nodeMade free context runs => exact .inr (turns_same found rfl (fun _ _ => rfl))
  | nodeReleased node => exact .inr (turns_same found rfl (fun _ _ => rfl))
  | publisherMade topicName free there runs noted =>
      obtain ⟨reason, ledger, rfl, _⟩ := noted
      exact .inr (turns_same found rfl (fun _ _ => rfl))
  | publisherReleased gone =>
      refine .inr (turns_same found rfl (fun state _ => ?_))
      exact congrArg (fun arena => arena.get? state.endpoint)
        (workspace.middleware.transport.subscribers_dropPublisher _)
  | published content publisher endpoint runs => exact .inr (wired.turns_published found endpoint _)
  | subscriptionMade topicName free there runs noted =>
      exact .inr (turns_subscriptionMade found free noted topicName _ _ _)
  | @subscriptionReleased other node state gone =>
      by_cases mine : name = other
      · subst mine
        refine .inl ⟨⟨node, rfl⟩, rfl, ?_⟩
        unfold subscriberOf
        dsimp only
        rw [Table.get?_erase, if_pos rfl, Option.bind_none]
      · exact .inr (wired.turns_subscriptionReleased found gone mine)
  | took subscription endpoint runs front =>
      have turns := turns_took found endpoint runs front
      exact .inr turns

theorem Effect.count_le {action : Action} {answer : Answer}
    (effect : workspace.Effect action answer after) (wired : Wired workspace)
    (found : workspace.subscriberOf name = some held) {sample : Nat}
    (old : sample < workspace.middleware.transport.store.samples.next) :
    (after.queueOf name).count sample ≤ (workspace.queueOf name).count sample := by
  rw [queueOf_eq found]
  rcases effect.subscriber wired found with ⟨_, _, gone⟩ | ⟨queue, left, turned⟩
  · unfold queueOf
    rw [gone]
    exact Nat.zero_le _
  · rw [queueOf_eq left]
    exact turned.count_le old

theorem Effect.subscription_new {action : Action} {answer : Answer}
    (effect : workspace.Effect action answer after)
    (free : workspace.subscriptions.get? name = none)
    (there : after.subscriptions.get? name ≠ none) :
    ∃ node kind topic qos, ∃ owner : NodeState, ∃ changed topicName,
      action = .initSubscription (some name) (some node) (some (.complete kind)) topic (some qos) ∧
      answer = .status .ok ∧ workspace.middleware.Noted changed ∧
      after =
        { workspace with
          middleware := (changed.registerSubscription topicName kind qos.resolve owner.context).2
          subscriptions :=
            workspace.subscriptions.set name
              (changed.registerSubscription topicName kind qos.resolve owner.context).1
          subscriptionKinds := workspace.subscriptionKinds.set name kind } := by
  cases effect with
  | @subscriptionMade other node kind topic qos owner changed topicName absent onNode runs noted =>
      have mine : name = other := by
        by_contra different
        exact there ((workspace.subscriptions.get?_set other name _).trans
          ((if_neg different).trans free))
      subst mine
      exact ⟨node, kind, topic, qos, owner, changed, topicName, rfl, rfl, noted, rfl⟩
  | @subscriptionReleased other node gone present =>
      refine absurd ?_ there
      refine (workspace.subscriptions.get?_erase other name).trans ?_
      split
      · rfl
      · exact free
  | _ => exact absurd free there

end Workspace

end PubSub
