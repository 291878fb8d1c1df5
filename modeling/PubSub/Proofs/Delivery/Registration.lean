import PubSub.Proofs.Delivery.Refinement

/-!
Endpoints that come and go.  A publisher that is registered retains nothing yet; a subscription that is
registered finds the newest of what the publishers that reach it retain.  What goes takes its own along and
leaves the others as they are.
-/

namespace PubSub

namespace Workspace

variable {workspace : Workspace} {bus : Bus} {name : String}

theorem Refines.addPublisher (refines : Refines workspace bus)
    (free : workspace.publishers.get? name = none) {context : Nat}
    (runs : workspace.middleware.transport.isValid context = true) (topicName : Bytes)
    (kind : MessageKind) (qos : Qos) :
    Refines
      { workspace with
        middleware := (workspace.middleware.registerPublisher topicName kind qos context).2
        publishers :=
          workspace.publishers.set name
            (workspace.middleware.registerPublisher topicName kind qos context).1
        publisherKinds := workspace.publisherKinds.set name kind }
      (bus.addSender name (.of topicName qos.plainTopic kind) kind qos) := by
  have sound : (workspace.middleware.registerPublisher topicName kind qos context).2.transport.Sound
      (fun _ => 0) :=
    refines.sound.addPublisher .empty qos context
  have untouched : workspace.middleware.transport.Untouched
      (workspace.middleware.registerPublisher topicName kind qos context).2.transport :=
    ⟨sound, (SampleStore.Later.refl _).agrees, fun _ valid => valid⟩
  have found : ∀ index,
      (workspace.middleware.registerPublisher topicName kind qos
          context).2.transport.publishers.get? index =
        if index = workspace.middleware.transport.publishers.next then
          some { qos, context, history := [] }
        else workspace.middleware.transport.publishers.get? index :=
    fun index => workspace.middleware.transport.publishers.get?_insert _ index
  refine ⟨sound, refines.whole, ?_, ?_, ?_, ?_⟩
  · apply Table.Alike.set _ free
    · refine ⟨rfl, rfl, ?_, ?_⟩
      · exact (workspace.publisherKinds.get?_set name name kind).trans (if_pos rfl)
      · exact ⟨_, (found _).trans (if_pos rfl), rfl, rfl, runs⟩
    · refine refines.senders.mono (fun other state sender known sends => ?_)
      have left := sends.untouched untouched (fun held there => by
        have old := workspace.middleware.transport.publishers.lt_next_of_get? there
        rw [found, if_neg (Nat.ne_of_lt old)]
        exact there)
      exact ⟨left.key, left.kind, (kind_of_set free kind known).trans left.buffer, left.retains⟩
  · refine refines.receivers.mono
      (fun other state receiver _ receives => receives.untouched untouched ?_)
    exact fun held there => there
  · exact refines.publishers.registerPublisher topicName kind qos context free
  · exact refines.subscribers.subscribers_registerPublisher topicName kind qos context

theorem Refines.dropPublisher (refines : Refines workspace bus) {state : PublisherState}
    (found : workspace.publishers.get? name = some state) :
    Refines
      { workspace with
        middleware :=
          workspace.middleware.withTransport
            (workspace.middleware.transport.dropPublisher state.endpoint)
        publishers := workspace.publishers.erase name }
      { bus with senders := bus.senders.erase name } := by
  have sound := refines.sound.dropPublisher state.endpoint
  have later := (workspace.middleware.transport.sharesOnly_dropPublisher state.endpoint).later
  have gone := workspace.middleware.transport.get?_dropPublisher state.endpoint
  have there := workspace.middleware.transport.contains_dropPublisher state.endpoint
  have next := workspace.middleware.transport.nextPublisher_dropPublisher state.endpoint
  have subscribers := workspace.middleware.transport.subscribers_dropPublisher state.endpoint
  have contexts := workspace.middleware.transport.contexts_dropPublisher state.endpoint
  generalize workspace.middleware.transport.dropPublisher state.endpoint = after at *
  have untouched : workspace.middleware.transport.Untouched after := by
    refine ⟨sound, later.agrees, fun context valid => ?_⟩
    unfold Transport.isValid
    rw [contexts]
    exact valid
  refine ⟨sound, refines.whole.later later, ?_, ?_, ?_, ?_⟩
  · refine (refines.senders.erase name).mono (fun other held sender left sends =>
      sends.untouched untouched ?_)
    intro known present
    rw [workspace.publishers.get?_erase] at left
    by_cases erased : other = name
    · rw [if_pos erased] at left
      cases left
    · rw [if_neg erased] at left
      have different : held.endpoint ≠ state.endpoint :=
        fun equal => erased (refines.publishers.name_eq found left equal)
      exact (gone _).trans ((if_neg different).trans present)
  · refine refines.receivers.mono
      (fun other held receiver _ receives => receives.untouched untouched ?_)
    intro known present
    exact (congrArg (fun arena => arena.get? held.endpoint) subscribers).trans present
  · have dropped := refines.publishers.erase found there
    rw [← next] at dropped
    exact dropped
  · have same := refines.subscribers
    rw [← subscribers] at same
    exact same

/-- What is replayed on a topic is what the senders of its channel retain. -/
theorem Refines.reads_replayed (refines : Refines workspace bus) (channel : Channel) (qos : Qos) :
    workspace.middleware.transport.store.Reads
      (workspace.middleware.transport.replayed (workspace.middleware.topic channel.key) qos)
      (bus.replayed channel qos) := by
  have live : workspace.middleware.transport.livePublishers (workspace.middleware.topic channel.key) =
      ((workspace.middleware.topic channel.key).publishers.filter
        workspace.middleware.transport.publishers.contains).filterMap
          (fun publisher => (workspace.middleware.transport.publishers.get? publisher).map
            (fun state => (publisher, state))) := by
    unfold Transport.livePublishers
    rw [List.filterMap_filter]
    apply List.filterMap_congr
    intro publisher _
    unfold Arena.contains
    cases workspace.middleware.transport.publishers.get? publisher <;> rfl
  have registered := refines.publishers.live channel.key
  rw [registered] at live
  unfold Transport.replayed Bus.replayed
  by_cases late : qos.isTransientLocal
  · rw [if_pos late, if_pos late, live]
    -- Publishers and senders stand side by side, in order of registration; those of other channels
    -- drop out of both lists.
    have alike := refines.senders
    unfold Table.Alike at alike
    unfold Table.ends Table.values
    generalize workspace.publishers.entries = entries at alike ⊢
    generalize bus.senders.entries = others at alike ⊢
    induction alike with
    | nil => exact SampleStore.reads_nil _
    | @cons entry other rest others here _ ih =>
        obtain ⟨_, sends⟩ := here
        obtain ⟨state, found, profile, reads, _⟩ := sends.retains
        rw [List.map_cons, List.map_cons, List.flatMap_cons]
        by_cases same : other.2.channel = channel
        · have key : (PublisherState.place entry.2).1 = channel.key := same ▸ sends.key
          have listed : (workspace.middleware.transport.publishers.get? entry.2.place.2).map
              (fun state => (entry.2.place.2, state)) = some (entry.2.place.2, state) :=
            congrArg (Option.map _) found
          rw [List.filter_cons_of_pos (by simp [key]), List.map_cons,
            List.filterMap_cons, listed]
          dsimp only
          rw [List.flatMap_cons]
          refine SampleStore.Reads.append ?_ ih
          rw [profile, decide_eq_true same, Bool.true_and]
          split
          · exact reads
          · exact SampleStore.reads_nil _
        · have key : ¬(PublisherState.place entry.2).1 = channel.key :=
            fun equal => same (Channel.key_injective (sends.key.symm.trans equal))
          rw [List.filter_cons_of_neg (by simp [key]), decide_eq_false same, Bool.false_and,
            Bool.false_and, if_neg Bool.false_ne_true, List.nil_append]
          exact ih
  · rw [if_neg late, if_neg late]
    exact SampleStore.reads_nil _

theorem Refines.addSubscription (refines : Refines workspace bus)
    (free : workspace.subscriptions.get? name = none) {context : Nat}
    (runs : workspace.middleware.transport.isValid context = true) (topicName : Bytes)
    (kind : MessageKind) {qos : Qos} (sized : qos.Sized) :
    Refines
      { workspace with
        middleware := (workspace.middleware.registerSubscription topicName kind qos context).2
        subscriptions :=
          workspace.subscriptions.set name
            (workspace.middleware.registerSubscription topicName kind qos context).1
        subscriptionKinds := workspace.subscriptionKinds.set name kind }
      (bus.addReceiver name (.of topicName qos.plainTopic kind) qos) := by
  have pruned : Refines (workspace.withMiddleware workspace.middleware.pruneGraph) bus :=
    refines.idle workspace.middleware.idle_pruneGraph rfl rfl rfl rfl
  have reads := pruned.reads_replayed (.of topicName qos.plainTopic kind) qos
  let topic := workspace.middleware.pruneGraph.topic
    (Middleware.topicKey topicName qos.plainTopic kind)
  have sound := refines.sound.addSubscriber topic qos context
  have later :=
    (workspace.middleware.transport.sharesOnly_addSubscriber topic qos context).later
  have same := workspace.middleware.transport.sameEnds_addSubscriber topic qos context
  obtain ⟨publishers, found⟩ :=
    workspace.middleware.transport.addSubscriber_ends topic qos context
  have untouched : workspace.middleware.transport.Untouched
      (workspace.middleware.transport.addSubscriber topic qos context).2.2 := by
    refine ⟨sound, later.agrees, fun running valid => ?_⟩
    unfold Transport.isValid
    rw [same.contexts]
    exact valid
  -- The queue was filled one sample after the other; of all that was replayed it has the newest.
  have fits := (SampleQueue.fits_ofQos qos).pushAll sized.countable
    (workspace.middleware.transport.replayed topic qos)
  refine ⟨sound, refines.whole.later later, ?_, ?_, ?_, ?_⟩
  · refine refines.senders.mono (fun other state sender _ sends => sends.untouched untouched ?_)
    intro held there
    exact (congrArg (fun arena => arena.get? state.endpoint) publishers).trans there
  · apply Table.Alike.set _ free
    · have here := (found workspace.middleware.transport.subscribers.next).trans (if_pos rfl)
      refine ⟨rfl, ?_, ?_, ?_⟩
      · exact (workspace.subscriptionKinds.get?_set name name kind).trans (if_pos rfl)
      · refine ⟨_, here, rfl, fits.1, ?_, untouched.valid context runs⟩
        have waiting := reads.newest qos
        rw [show (_ : SampleQueue).waiting = _ from fits.2]
        exact waiting.agrees untouched.agrees
          (fun sample member => sound.exists_of_waiting here (fits.2 ▸ member))
      · refine ⟨sized, Qos.excess_newest _ _, Qos.newest_sublist _ _, fun all => ?_⟩
        apply Qos.newest_of_excess
        unfold Transport.excess
        rw [show qos.history = .keepAll from all]
        rfl
    · refine refines.receivers.mono (fun other state receiver known receives => ?_)
      have left := receives.untouched untouched (fun held there => by
        have old := workspace.middleware.transport.subscribers.lt_next_of_get? there
        rw [found, if_neg (Nat.ne_of_lt old)]
        exact there)
      exact ⟨left.key, (kind_of_set free kind known).trans left.buffer, left.holds, left.faithful⟩
  · exact refines.publishers.publishers_registerSubscription topicName kind qos context
  · exact refines.subscribers.registerSubscription topicName kind qos context free

theorem Refines.dropSubscription (refines : Refines workspace bus) {state : SubscriptionState}
    (found : workspace.subscriptions.get? name = some state) :
    Refines
      { workspace with
        middleware :=
          workspace.middleware.withTransport
            (workspace.middleware.transport.dropSubscriber state.endpoint)
        subscriptions := workspace.subscriptions.erase name }
      { bus with receivers := bus.receivers.erase name } := by
  have sound := refines.sound.dropSubscriber state.endpoint
  have later := (workspace.middleware.transport.sharesOnly_dropSubscriber state.endpoint).later
  have gone := workspace.middleware.transport.get?_dropSubscriber state.endpoint
  have there := workspace.middleware.transport.contains_dropSubscriber state.endpoint
  have next := workspace.middleware.transport.nextSubscriber_dropSubscriber state.endpoint
  have publishers := workspace.middleware.transport.publishers_dropSubscriber state.endpoint
  have contexts := workspace.middleware.transport.contexts_dropSubscriber state.endpoint
  generalize workspace.middleware.transport.dropSubscriber state.endpoint = after at *
  have untouched : workspace.middleware.transport.Untouched after := by
    refine ⟨sound, later.agrees, fun context valid => ?_⟩
    unfold Transport.isValid
    rw [contexts]
    exact valid
  refine ⟨sound, refines.whole.later later, ?_, ?_, ?_, ?_⟩
  · refine refines.senders.mono
      (fun other held sender _ sends => sends.untouched untouched ?_)
    intro known present
    exact (congrArg (fun arena => arena.get? held.endpoint) publishers).trans present
  · refine (refines.receivers.erase name).mono (fun other held receiver left receives =>
      receives.untouched untouched ?_)
    intro known present
    rw [workspace.subscriptions.get?_erase] at left
    by_cases erased : other = name
    · rw [if_pos erased] at left
      cases left
    · rw [if_neg erased] at left
      have different : held.endpoint ≠ state.endpoint :=
        fun equal => erased (refines.subscribers.name_eq found left equal)
      exact (gone _).trans ((if_neg different).trans present)
  · have same := refines.publishers
    rw [← publishers] at same
    exact same
  · have dropped := refines.subscribers.erase found there
    rw [← next] at dropped
    exact dropped

end Workspace

end PubSub
