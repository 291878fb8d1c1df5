import PubSub.Proofs.Calls.Effect
import PubSub.Proofs.Delivery.Messages

/-!
What holds of every workspace that calls can lead to: endpoints are listed under the keys of their topics, every
sample has one share for each place where it is kept, a context that goes by a name exists, and no sample is
retained twice.
-/

namespace PubSub

namespace Transport

variable {transport after : Transport}

def Single (transport : Transport) : Prop :=
  ∀ first second held other sample, transport.publishers.get? first = some held →
    transport.publishers.get? second = some other → sample ∈ held.history → sample ∈ other.history →
      first = second

theorem Single.of_less (single : transport.Single)
    (less : ∀ index held, after.publishers.get? index = some held →
      ∀ sample ∈ held.history, ∃ old, transport.publishers.get? index = some old ∧
        sample ∈ old.history) : after.Single := by
  intro first second held other sample here there member also
  obtain ⟨old, found, kept⟩ := less first held here sample member
  obtain ⟨older, present, left⟩ := less second other there sample also
  exact single first second old older sample found present kept left

theorem Single.remember (single : transport.Single) {publisher sample : Nat} {state : PublisherEnd}
    (new : ∀ index held, transport.publishers.get? index = some held → sample ∉ held.history)
    (found : ∀ index, after.publishers.get? index =
      if index = publisher then some (remembering sample state)
      else transport.publishers.get? index)
    (there : transport.publishers.get? publisher = some state) : after.Single := by
  have known : ∀ index held, after.publishers.get? index = some held → ∀ other ∈ held.history,
      (index = publisher ∧ other = sample) ∨
        ∃ old, transport.publishers.get? index = some old ∧ other ∈ old.history := by
    intro index held here other member
    rw [found] at here
    by_cases same : index = publisher
    · rw [if_pos same, Option.some.injEq] at here
      subst held
      unfold remembering at member
      split at member
      · rcases List.mem_append.1 ((Qos.newest_sublist _ _).subset member) with old | last
        · exact .inr ⟨state, same ▸ there, old⟩
        · exact .inl ⟨same, List.mem_singleton.1 last⟩
      · exact .inr ⟨state, same ▸ there, member⟩
    · rw [if_neg same] at here
      exact .inr ⟨held, here, member⟩
  intro first second held other kept here also member present
  rcases known first held here kept member with ⟨one, rfl⟩ | ⟨old, left, inside⟩
  · rcases known second other also kept present with ⟨two, _⟩ | ⟨older, right, within⟩
    · exact one.trans two.symm
    · exact absurd within (new second older right)
  · rcases known second other also kept present with ⟨_, rfl⟩ | ⟨older, right, within⟩
    · exact absurd inside (new first old left)
    · exact single first second old older kept left right inside within

theorem Sound.sendOut {sample : Nat} (sound : transport.Sound (fun other => [sample].count other))
    (topic : Topic) (publisher : Nat) :
    (transport.sendOut topic publisher sample).Sound (fun _ => 0) := by
  have shared : 0 < [sample].count sample := by
    rw [List.count_singleton_self]
    exact Nat.one_pos
  exact SampleStore.Sound.release (sound.publish topic publisher shared) sample (fun other => rfl)

theorem sameEnds_sendOut (transport : Transport) (topic : Topic) (publisher sample : Nat) :
    SameEnds transport (transport.sendOut topic publisher sample) :=
  (transport.sameEnds_publish topic publisher sample).trans (sameEnds_withStore _ _)

theorem Sound.insert (sound : transport.Sound (fun _ => 0)) (kind : MessageKind) (content : Layout)
    (ledger : Ledger) :
    (transport.withStore
      { ledger
        samples := (transport.store.samples.insert { kind, content, shares := 1 }).2 }).Sound
      (fun other => [transport.store.samples.next].count other) :=
  Arena.Owned.insert sound { kind, content, shares := 1 } rfl

theorem Sound.lt_next_of_history (sound : transport.Sound (fun _ => 0)) {publisher sample : Nat}
    {state : PublisherEnd} (found : transport.publishers.get? publisher = some state)
    (member : sample ∈ state.history) : sample < transport.store.samples.next := by
  obtain ⟨held, there⟩ := sound.exists_of_history found member
  exact transport.store.samples.lt_next_of_get? there

theorem Sound.lt_next_of_waiting (sound : transport.Sound (fun _ => 0)) {subscriber sample : Nat}
    {state : SubscriberEnd} (found : transport.subscribers.get? subscriber = some state)
    (member : sample ∈ state.queue.waiting) : sample < transport.store.samples.next := by
  obtain ⟨held, there⟩ := sound.exists_of_waiting found member
  exact transport.store.samples.lt_next_of_get? there

end Transport

namespace Workspace

variable {workspace : Workspace} {name : String}

/-- What every call keeps of how a workspace holds together. -/
structure Wired (workspace : Workspace) : Prop where
  sound : workspace.middleware.transport.Sound (fun _ => 0)
  publishers : Registered (workspace.publishers.ends PublisherState.place)
    (fun key => (workspace.middleware.topic key).publishers)
    workspace.middleware.transport.publishers.contains
    workspace.middleware.transport.publishers.next
  subscribers : Registered (workspace.subscriptions.ends SubscriptionState.place)
    (fun key => (workspace.middleware.topic key).subscribers)
    workspace.middleware.transport.subscribers.contains
    workspace.middleware.transport.subscribers.next
  contexts : ∀ name context, workspace.contexts.get? name = some context →
    ∃ state, workspace.middleware.transport.contexts.get? context = some state
  single : workspace.middleware.transport.Single

theorem wired_empty : Wired .empty := by
  constructor
  · exact Arena.owned_empty _ (fun _ => rfl)
  · exact ⟨fun _ => rfl, List.nodup_nil, fun _ _ member => nomatch member⟩
  · exact ⟨fun _ => rfl, List.nodup_nil, fun _ _ member => nomatch member⟩
  · exact fun _ _ found => nomatch found
  · exact fun _ _ _ _ _ found => nomatch found

theorem Wired.recount (wired : Wired workspace) (reason : Bytes) (ledger : Ledger) :
    Wired (workspace.withMiddleware (workspace.middleware.recount reason ledger)) :=
  ⟨wired.sound, wired.publishers, wired.subscribers, wired.contexts, wired.single⟩

theorem Wired.noted (wired : Wired workspace) {changed : Middleware}
    (noted : workspace.middleware.Noted changed) : Wired (workspace.withMiddleware changed) := by
  obtain ⟨reason, ledger, rfl, _⟩ := noted
  exact wired.recount reason ledger

theorem Wired.pruned (wired : Wired workspace) :
    Wired (workspace.withMiddleware workspace.middleware.pruneGraph) := by
  constructor
  · exact wired.sound
  · exact wired.publishers.relist
      (fun key => (workspace.middleware.publishers_pruneGraph key).1)
      (fun key => (workspace.middleware.publishers_pruneGraph key).2)
  · exact wired.subscribers.relist
      (fun key => (workspace.middleware.subscribers_pruneGraph key).1)
      (fun key => (workspace.middleware.subscribers_pruneGraph key).2)
  · exact wired.contexts
  · exact wired.single

theorem Wired.contextOpened (wired : Wired workspace) (arguments : Arguments) :
    Wired
      { workspace with
        middleware :=
          workspace.middleware.withTransport
            (workspace.middleware.transport.openContext arguments).2
        contexts := workspace.contexts.set name workspace.middleware.transport.contexts.next } := by
  have inserted := workspace.middleware.transport.contexts.get?_insert { valid := true, arguments }
  constructor
  · exact wired.sound
  · exact wired.publishers
  · exact wired.subscribers
  · intro other context found
    rw [Table.get?_set] at found
    by_cases same : other = name
    · rw [if_pos same, Option.some.injEq] at found
      exact ⟨_, (inserted context).trans (if_pos found.symm)⟩
    · rw [if_neg same] at found
      obtain ⟨state, there⟩ := wired.contexts other context found
      have old := workspace.middleware.transport.contexts.lt_next_of_get? there
      exact ⟨state, (inserted context).trans ((if_neg (Nat.ne_of_lt old)).trans there)⟩
  · exact wired.single

theorem Wired.contextEnded (wired : Wired workspace) (context : Nat) :
    Wired
      (workspace.withMiddleware
        (workspace.middleware.withTransport (workspace.middleware.transport.invalidate context))) := by
  constructor
  · exact wired.sound
  · exact wired.publishers
  · exact wired.subscribers
  · intro other number found
    obtain ⟨state, there⟩ := wired.contexts other number found
    have kept := workspace.middleware.transport.contexts.contains_modify context number
      (fun state => { state with valid := false })
    rw [(Arena.contains_iff _ _).2 ⟨state, there⟩] at kept
    exact (Arena.contains_iff _ _).1 kept
  · exact wired.single

theorem Wired.contextReleased (wired : Wired workspace) (context : Nat) :
    Wired
      { workspace with
        middleware :=
          workspace.middleware.withTransport (workspace.middleware.transport.invalidate context)
        contexts := workspace.contexts.erase name } := by
  have ended := wired.contextEnded context
  constructor
  · exact ended.sound
  · exact ended.publishers
  · exact ended.subscribers
  · intro other number found
    rw [Table.get?_erase] at found
    by_cases same : other = name
    · rw [if_pos same] at found
      cases found
    · rw [if_neg same] at found
      exact ended.contexts other number found
  · exact ended.single

theorem Wired.publisherMade (wired : Wired workspace)
    (free : workspace.publishers.get? name = none) (topicName : Bytes) (kind : MessageKind)
    (qos : Qos) (context : Nat) :
    Wired
      { workspace with
        middleware := (workspace.middleware.registerPublisher topicName kind qos context).2
        publishers :=
          workspace.publishers.set name
            (workspace.middleware.registerPublisher topicName kind qos context).1
        publisherKinds := workspace.publisherKinds.set name kind } := by
  constructor
  · exact wired.sound.addPublisher .empty qos context
  · exact wired.publishers.registerPublisher topicName kind qos context free
  · exact wired.subscribers.subscribers_registerPublisher topicName kind qos context
  · exact wired.contexts
  · refine wired.single.of_less (fun index held found sample member => ?_)
    have inserted := workspace.middleware.transport.publishers.get?_insert
      { qos, context, history := [] } index
    by_cases new : index = workspace.middleware.transport.publishers.next
    · rw [if_pos new] at inserted
      cases inserted.symm.trans found
      cases member
    · rw [if_neg new] at inserted
      exact ⟨held, inserted.symm.trans found, member⟩

theorem Wired.publisherReleased (wired : Wired workspace) {state : PublisherState}
    (found : workspace.publishers.get? name = some state) :
    Wired
      { workspace with
        middleware :=
          workspace.middleware.withTransport
            (workspace.middleware.transport.dropPublisher state.endpoint)
        publishers := workspace.publishers.erase name } := by
  have sound := wired.sound.dropPublisher state.endpoint
  have gone := workspace.middleware.transport.get?_dropPublisher state.endpoint
  have there := workspace.middleware.transport.contains_dropPublisher state.endpoint
  have next := workspace.middleware.transport.nextPublisher_dropPublisher state.endpoint
  have subscribers := workspace.middleware.transport.subscribers_dropPublisher state.endpoint
  have contexts := workspace.middleware.transport.contexts_dropPublisher state.endpoint
  generalize workspace.middleware.transport.dropPublisher state.endpoint = after at *
  constructor
  · exact sound
  · have dropped := wired.publishers.erase found there
    rw [← next] at dropped
    exact dropped
  · have same := wired.subscribers
    rw [← subscribers] at same
    exact same
  · intro other context known
    obtain ⟨held, present⟩ := wired.contexts other context known
    exact ⟨held, (congrArg (fun arena => arena.get? context) contexts).trans present⟩
  · refine wired.single.of_less (fun index held here sample member => ?_)
    have known := (gone index).symm.trans here
    by_cases same : index = state.endpoint
    · rw [if_pos same] at known
      cases known
    · rw [if_neg same] at known
      exact ⟨held, known, member⟩

theorem Wired.subscriptionMade (wired : Wired workspace)
    (free : workspace.subscriptions.get? name = none) (topicName : Bytes) (kind : MessageKind)
    (qos : Qos) (context : Nat) :
    Wired
      { workspace with
        middleware := (workspace.middleware.registerSubscription topicName kind qos context).2
        subscriptions :=
          workspace.subscriptions.set name
            (workspace.middleware.registerSubscription topicName kind qos context).1
        subscriptionKinds := workspace.subscriptionKinds.set name kind } := by
  let topic := workspace.middleware.pruneGraph.topic
    (Middleware.topicKey topicName qos.plainTopic kind)
  have same := (workspace.middleware.registerSubscription_transport topicName kind qos context).2
  have publishers := (workspace.middleware.transport.addSubscriber_ends topic qos context).1
  constructor
  · exact wired.sound.addSubscriber topic qos context
  · exact wired.publishers.publishers_registerSubscription topicName kind qos context
  · exact wired.subscribers.registerSubscription topicName kind qos context free
  · intro other number known
    obtain ⟨held, present⟩ := wired.contexts other number known
    exact ⟨held, (congrArg (fun arena => arena.get? number) same.contexts).trans present⟩
  · refine wired.single.of_less (fun index held here sample member => ⟨held, ?_, member⟩)
    exact (congrArg (fun arena => arena.get? index) publishers).symm.trans here

theorem Wired.subscriptionReleased (wired : Wired workspace) {state : SubscriptionState}
    (found : workspace.subscriptions.get? name = some state) :
    Wired
      { workspace with
        middleware :=
          workspace.middleware.withTransport
            (workspace.middleware.transport.dropSubscriber state.endpoint)
        subscriptions := workspace.subscriptions.erase name } := by
  have sound := wired.sound.dropSubscriber state.endpoint
  have there := workspace.middleware.transport.contains_dropSubscriber state.endpoint
  have next := workspace.middleware.transport.nextSubscriber_dropSubscriber state.endpoint
  have publishers := workspace.middleware.transport.publishers_dropSubscriber state.endpoint
  have contexts := workspace.middleware.transport.contexts_dropSubscriber state.endpoint
  generalize workspace.middleware.transport.dropSubscriber state.endpoint = after at *
  constructor
  · exact sound
  · have same := wired.publishers
    rw [← publishers] at same
    exact same
  · have dropped := wired.subscribers.erase found there
    rw [← next] at dropped
    exact dropped
  · intro other context known
    obtain ⟨held, present⟩ := wired.contexts other context known
    exact ⟨held, (congrArg (fun arena => arena.get? context) contexts).trans present⟩
  · refine wired.single.of_less (fun index held here sample member => ⟨held, ?_, member⟩)
    exact (congrArg (fun arena => arena.get? index) publishers).symm.trans here

theorem Wired.sameEnds (wired : Wired workspace) {after : Transport}
    (ends : workspace.middleware.transport.SameEnds after) (sound : after.Sound (fun _ => 0))
    (single : after.Single) :
    Wired (workspace.withMiddleware (workspace.middleware.withTransport after)) := by
  constructor
  · exact sound
  · have same := wired.publishers
    rw [← show _ = _ from funext ends.publishers, ← ends.nextPublisher] at same
    exact same
  · have same := wired.subscribers
    rw [← show _ = _ from funext ends.subscribers, ← ends.nextSubscriber] at same
    exact same
  · intro other context known
    obtain ⟨held, present⟩ := wired.contexts other context known
    exact ⟨held, (congrArg (fun arena => arena.get? context) ends.contexts).trans present⟩
  · exact single

theorem Wired.published (wired : Wired workspace) {state : PublisherState} {held : PublisherEnd}
    (endpoint : workspace.middleware.transport.publishers.get? state.endpoint = some held)
    (content : Layout) (ledger : Ledger) :
    Wired
      (workspace.withMiddleware
        (workspace.middleware.withTransport
          ((workspace.middleware.transport.withStore
            { ledger
              samples :=
                (workspace.middleware.transport.store.samples.insert
                  { kind := state.kind, content, shares := 1 }).2 }).sendOut
            (workspace.middleware.topic state.key) state.endpoint
            workspace.middleware.transport.store.samples.next))) := by
  have made := wired.sound.insert state.kind content ledger
  have distinct := wired.subscribers.nodup_receivers state.key held.qos
  have sent := fun store =>
    (workspace.middleware.transport.withStore store).publish_ends
      (workspace.middleware.topic state.key) endpoint
      workspace.middleware.transport.store.samples.next distinct
  apply wired.sameEnds
  · exact (Transport.sameEnds_withStore _ _).trans (Transport.sameEnds_sendOut _ _ _ _)
  · exact made.sendOut _ _
  · refine wired.single.remember (fun index other found member => ?_) (sent _).1 endpoint
    exact Nat.lt_irrefl _ (wired.sound.lt_next_of_history found member)

theorem Wired.took (wired : Wired workspace) {subscriber sample : Nat} {taken : Transport}
    {ledger : Ledger}
    (front : (workspace.middleware.withLedger ledger).transport.takeSample subscriber =
      some (sample, taken)) :
    Wired
      (workspace.withMiddleware
        (workspace.middleware.withTransport
          (taken.withStore (taken.store.release sample)))) := by
  have sound : (workspace.middleware.withLedger ledger).transport.Sound (fun _ => 0) := wired.sound
  apply wired.sameEnds
  · exact (Transport.sameEnds_withStore _ _).trans
      ((Transport.sameEnds_takeSample front).trans (Transport.sameEnds_withStore _ _))
  · exact (sound.takeSample front).giveUp taken.store.ledger
  · obtain ⟨_, _, _, _, rfl⟩ := Transport.takeSample_eq_some front
    exact wired.single

theorem Effect.wired {action : Action} {answer : Answer} {after : Workspace}
    (effect : workspace.Effect action answer after) (wired : Wired workspace) : Wired after := by
  cases effect with
  | noted unmoved noted => exact wired.noted noted
  | pruned number => exact wired.pruned
  | contextOpened arguments free => exact wired.contextOpened arguments
  | contextEnded found => exact wired.contextEnded _
  | contextReleased found => exact wired.contextReleased _
  | nodeMade free found runs =>
      exact ⟨wired.sound, wired.publishers, wired.subscribers, wired.contexts, wired.single⟩
  | nodeReleased name =>
      exact ⟨wired.sound, wired.publishers, wired.subscribers, wired.contexts, wired.single⟩
  | publisherMade topicName free there runs noted =>
      exact (wired.noted noted).publisherMade free topicName _ _ _
  | publisherReleased found => exact wired.publisherReleased found
  | published content found endpoint runs =>
      exact (wired.published endpoint content _).recount _ _
  | subscriptionMade topicName free there runs noted =>
      exact (wired.noted noted).subscriptionMade free topicName _ _ _
  | subscriptionReleased found => exact wired.subscriptionReleased found
  | took found endpoint runs front => exact (wired.took front).recount _ _

theorem Wired.step (wired : Wired workspace) (action : Action) : Wired (workspace.step action).2 :=
  (workspace.step_effect action).wired wired

theorem Wired.run (wired : Wired workspace) (actions : List Action) :
    Wired (workspace.run actions) :=
  run_keeps (fun _ action wired => wired.step action) wired actions

end Workspace

end PubSub
