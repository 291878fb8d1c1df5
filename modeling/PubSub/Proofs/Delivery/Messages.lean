import PubSub.Proofs.Delivery.Refinement

/-!
Messages on their way.  A publish that succeeds puts its payload into the queues of all that its publisher
reaches, and a take that succeeds gets what waited longest.
-/

namespace PubSub

namespace Transport

variable {before after : Transport} {publisher endpoint sample : Nat} {receivers : List Nat}
  {payload : Payload}

structure Sent (before after : Transport) (publisher : Nat) (receivers : List Nat) (sample : Nat)
    (payload : Payload) : Prop where
  untouched : Untouched before after
  whole : before.store.Whole → after.store.Whole
  ends : SameEnds before after
  publishers : ∀ index state, before.publishers.get? index = some state →
    after.publishers.get? index =
      some (if index = publisher then remembering sample state else state)
  subscribers : ∀ index state, before.subscribers.get? index = some state →
    after.subscribers.get? index =
      some (if index ∈ receivers then pushed sample state else state)
  reads : ∀ (qos : Qos) (samples : List Nat) (payloads : List Payload),
    before.store.Reads samples payloads →
      (∀ member ∈ qos.newest (samples ++ [sample]),
        ∃ held, after.store.samples.get? member = some held) →
      after.store.Reads (qos.newest (samples ++ [sample])) (qos.newest (payloads ++ [payload]))

theorem Sound.sent (sound : before.Sound (fun _ => 0)) {kind : MessageKind} {message : Layout}
    (whole : message.Whole) {store : SampleStore}
    (made : before.store.create kind message = (some sample, store)) (topic : Topic)
    {state : PublisherEnd} (found : before.publishers.get? publisher = some state)
    (distinct : (before.receivers topic state.qos).Nodup) :
    let sent := (before.withStore store).publish topic publisher sample
    Sent before (sent.withStore (sent.store.release sample)) publisher
      (before.receivers topic state.qos) sample message.payload := by
  intro sent
  -- A sample that is displaced meanwhile may be gone afterwards; what any queue or history still has is
  -- there.
  obtain ⟨wholeAfter, spoken, kept⟩ := SampleStore.create_eq_some whole made
  -- The one who publishes has a share of the new sample until it is sent.
  have created : (before.withStore store).Sound (fun other => [sample].count other) :=
    (SampleStore.Sound.create_some sound made).congr (fun other => rfl)
  have shared : 0 < [sample].count sample := by
    rw [List.count_singleton_self]
    exact Nat.one_pos
  have released : (sent.withStore (sent.store.release sample)).Sound (fun _ => 0) :=
    SampleStore.Sound.release (created.publish topic publisher shared) sample (fun other => rfl)
  have later : store.Later (sent.store.release sample) :=
    (((before.withStore store).sharesOnly_publish topic publisher sample).trans
      (sent.store.sharesOnly_release sample)).later
  have ends : SameEnds before (sent.withStore (sent.store.release sample)) :=
    ((before.sameEnds_withStore store).trans
      ((before.withStore store).sameEnds_publish topic publisher sample)).trans
        (sent.sameEnds_withStore _)
  obtain ⟨publishers, subscribers, -⟩ :=
    (before.withStore store).publish_ends topic found sample distinct
  refine ⟨⟨released, ?_, ?_⟩, fun all => (wholeAfter all).later later, ends, ?_, ?_, ?_⟩
  · intro other held there same now
    exact later.agrees other held (kept other held there) same now
  · intro context valid
    unfold isValid
    rw [ends.contexts]
    exact valid
  · intro index held there
    refine (publishers index).trans ?_
    by_cases same : index = publisher
    · subst same
      rw [if_pos rfl, if_pos rfl]
      rw [found, Option.some.injEq] at there
      rw [there]
    · rw [if_neg same, if_neg same]
      exact there
  · intro index held there
    refine (subscribers index).trans ?_
    by_cases member : index ∈ before.receivers topic state.qos
    · rw [if_pos member]
      exact (if_pos member).trans (congrArg (Option.map (pushed sample)) there)
    · rw [if_neg member]
      exact (if_neg member).trans there
  · intro qos samples payloads reads present
    have one : store.Reads [sample] [message.payload] := by
      unfold SampleStore.Reads
      rw [List.map_singleton, List.map_singleton, spoken]
    exact (((reads.kept kept).append one).newest qos).agrees later.agrees present

theorem Sent.retains (sent : Sent before after publisher receivers sample payload) {sender : Sender}
    (retains : before.Retains publisher sender.qos sender.history) :
    after.Retains publisher (sender.remember payload).qos (sender.remember payload).history := by
  obtain ⟨state, found, profile, reads, valid⟩ := retains
  have there := (sent.publishers publisher state found).trans (congrArg some (if_pos rfl))
  have present : ∀ member ∈ (remembering sample state).history,
      ∃ held, after.store.samples.get? member = some held :=
    fun member kept => sent.untouched.sound.exists_of_history there kept
  have runs := sent.untouched.valid _ valid
  unfold remembering at there present
  unfold Sender.remember
  rw [profile] at there present
  by_cases keeps : sender.qos.isTransientLocal
  · rw [if_pos keeps] at there present ⊢
    exact ⟨_, there, rfl, sent.reads _ _ _ reads present, runs⟩
  · rw [if_neg keeps] at there present ⊢
    exact ⟨_, there, profile, reads.agrees sent.untouched.agrees present, runs⟩

theorem Sent.retains_other (sent : Sent before after publisher receivers sample payload) {qos : Qos}
    {history : List Payload} (retains : before.Retains endpoint qos history)
    (different : endpoint ≠ publisher) : after.Retains endpoint qos history :=
  retains.untouched sent.untouched (fun state found => by
    rw [sent.publishers endpoint state found, if_neg different])

theorem Sent.holds (sent : Sent before after publisher receivers sample payload)
    {receiver : Receiver} (faithful : receiver.Faithful)
    (holds : before.Holds endpoint receiver.qos receiver.pending) (member : endpoint ∈ receivers) :
    after.Holds endpoint (receiver.accept payload).qos (receiver.accept payload).pending := by
  obtain ⟨state, found, profile, fits, reads, valid⟩ := holds
  have there := sent.subscribers endpoint state found
  rw [if_pos member] at there
  refine ⟨_, there, profile, fits.push faithful.sized.countable sample, ?_, sent.untouched.valid _ valid⟩
  have waiting : (pushed sample state).queue.waiting = _ := fits.waiting_push faithful.sized.countable sample
  rw [faithful.pending_accept, waiting]
  apply sent.reads _ _ _ reads
  rw [← waiting]
  exact fun member kept => sent.untouched.sound.exists_of_waiting there kept

theorem Sent.holds_other (sent : Sent before after publisher receivers sample payload) {qos : Qos}
    {pending : List Payload} (holds : before.Holds endpoint qos pending)
    (outside : endpoint ∉ receivers) : after.Holds endpoint qos pending :=
  holds.untouched sent.untouched (fun state found => by
    rw [sent.subscribers endpoint state found, if_neg outside])

structure Took (before after : Transport) (subscriber : Nat) (payload : Payload) : Prop where
  untouched : Untouched before after
  whole : before.store.Whole → after.store.Whole
  ends : SameEnds before after
  publishers : after.publishers = before.publishers
  others : ∀ index, index ≠ subscriber →
    after.subscribers.get? index = before.subscribers.get? index
  front : ∀ qos pending, before.Holds subscriber qos pending →
    ∃ rest, pending = payload :: rest ∧ after.Holds subscriber qos rest

theorem waiting_of_takeSample_eq_none {transport : Transport} {subscriber : Nat}
    {state : SubscriberEnd} (found : transport.subscribers.get? subscriber = some state)
    (none : transport.takeSample subscriber = none) : state.queue.waiting = [] := by
  unfold takeSample SampleQueue.pop at none
  rw [found] at none
  cases waiting : state.queue.waiting with
  | nil => rfl
  | cons oldest rest => simp [waiting] at none

theorem Holds.nil_of_takeSample {transport : Transport} {subscriber : Nat} {qos : Qos}
    {pending : List Payload} (holds : transport.Holds subscriber qos pending)
    (none : transport.takeSample subscriber = none) : pending = [] := by
  obtain ⟨state, found, _, _, reads, _⟩ := holds
  rw [waiting_of_takeSample_eq_none found none] at reads
  exact List.eq_nil_of_length_eq_zero reads.length_eq.symm

theorem Sound.giveUp {transport : Transport} {outside : Nat → Nat}
    (sound : transport.Sound (fun other => outside other + [sample].count other)) (ledger : Ledger) :
    (transport.withStore (({ transport.store with ledger } : SampleStore).release sample)).Sound
      outside := by
  have shared : ({ transport.store with ledger } : SampleStore).Sound (fun other =>
      transport.historyShares other + transport.queueShares other + outside other +
        [sample].count other) :=
    SampleStore.Sound.congr sound (fun other => (Nat.add_assoc _ _ _).symm)
  exact shared.release sample (fun other => rfl)

theorem Sound.took (sound : before.Sound (fun _ => 0)) (whole : before.store.Whole)
    {subscriber : Nat} {state : SubscriberEnd}
    (found : before.subscribers.get? subscriber = some state) {taken : Transport}
    (took : before.takeSample subscriber = some (sample, taken)) :
    ∃ held, taken.store.samples.get? sample = some held ∧ held.content.Whole ∧
      ∀ ledger, Took before
        (taken.withStore (({ taken.store with ledger } : SampleStore).release sample)) subscriber
        held.content.payload := by
  have shared := sound.takeSample took
  have ends := sameEnds_takeSample took
  obtain ⟨same, queue, known, popped, rfl⟩ := takeSample_eq_some took
  cases found.symm.trans known
  have waiting := SampleQueue.waiting_of_pop popped
  obtain ⟨held, there⟩ := sound.exists_of_waiting found (waiting ▸ List.mem_cons_self)
  refine ⟨held, there, whole sample held there, fun ledger => ?_⟩
  have later : before.store.Later (({ before.store with ledger } : SampleStore).release sample) :=
    (SampleStore.sharesOnly_release { before.store with ledger } sample).later
  have untouched : Untouched before _ :=
    ⟨shared.giveUp ledger, later.agrees, fun context runs => runs⟩
  refine ⟨untouched, fun all => all.later later, ends.trans (sameEnds_withStore _ _), rfl,
    fun index different => ?_, ?_⟩
  · exact (before.subscribers.get?_modify subscriber index _).trans (if_neg different)
  · rintro qos pending ⟨same, here, profile, fits, reads, valid⟩
    rw [found, Option.some.injEq] at here
    subst same
    have left := (before.subscribers.get?_modify subscriber subscriber
      (fun old => { old with queue })).trans ((if_pos rfl).trans (congrArg _ found))
    unfold SampleStore.Reads at reads
    rw [waiting] at reads
    cases pending with
    | nil => cases reads
    | cons payload rest =>
        rw [List.map_cons, List.map_cons, List.cons.injEq] at reads
        have spoken : before.store.payload? sample = some held.content.payload :=
          congrArg (Option.map _) there
        rw [spoken, Option.some.injEq] at reads
        refine ⟨rest, by rw [reads.1], _, left, profile, (fits.pop popped).2, ?_, valid⟩
        exact SampleStore.Reads.agrees reads.2 later.agrees
          (fun member kept => untouched.sound.exists_of_waiting left kept)

end Transport

namespace Registered

variable {middleware : Middleware} {subscriptions : Table String SubscriptionState}

/-- Nobody is sent the same sample twice. -/
theorem nodup_receivers
    (registered : Registered (subscriptions.ends SubscriptionState.place)
      (fun key => (middleware.topic key).subscribers) middleware.transport.subscribers.contains
      middleware.transport.subscribers.next)
    (key : Bytes) (offered : Qos) :
    (middleware.transport.receivers (middleware.topic key) offered).Nodup := by
  have all := middleware.transport.receivers_sublist (middleware.topic key) offered
  have live : (middleware.topic key).subscribers.filter middleware.transport.subscribers.contains =
      _ := registered.live key
  rw [live] at all
  exact (registered.distinct.sublist (List.filter_sublist.map Prod.snd)).sublist all

theorem mem_receivers
    (registered : Registered (subscriptions.ends SubscriptionState.place)
      (fun key => (middleware.topic key).subscribers) middleware.transport.subscribers.contains
      middleware.transport.subscribers.next)
    {name : String} {state : SubscriptionState} {held : SubscriberEnd}
    (found : subscriptions.get? name = some state)
    (there : middleware.transport.subscribers.get? state.endpoint = some held) (key : Bytes)
    (offered : Qos) :
    state.endpoint ∈ middleware.transport.receivers (middleware.topic key) offered ↔
      state.key = key ∧ middleware.transport.receives offered held = true := by
  have listed := registered.mem_iff key state.endpoint
  have place : state.place ∈ subscriptions.ends SubscriptionState.place :=
    Registered.mem_ends found
  have present := (Arena.contains_iff _ _).2 ⟨held, there⟩
  rw [Transport.mem_receivers]
  constructor
  · rintro ⟨member, other, same, accepts⟩
    rw [there, Option.some.injEq] at same
    subst other
    have one := registered.eq_of_snd_eq (listed.2 ⟨member, present⟩) place rfl
    exact ⟨congrArg Prod.fst one.symm, accepts⟩
  · rintro ⟨rfl, accepts⟩
    exact ⟨(listed.1 place).1, held, there, accepts⟩

end Registered

namespace Workspace

variable {workspace : Workspace} {bus : Bus} {name : String}

/-- The subscriptions that receive what a publisher sends are those that the sender reaches. -/
theorem Refines.mem_receivers (refines : Refines workspace bus) (sender : Sender)
    {state : SubscriptionState} {receiver : Receiver}
    (found : workspace.subscriptions.get? name = some state)
    (receives : Receives workspace.subscriptionKinds workspace.middleware.transport name state
      receiver) :
    state.endpoint ∈ workspace.middleware.transport.receivers
        (workspace.middleware.topic sender.channel.key) sender.qos ↔
      sender.reaches receiver = true := by
  obtain ⟨held, there, profile, _, _, valid⟩ := receives.holds
  unfold Sender.reaches
  rw [refines.subscribers.mem_receivers found there, Bool.and_eq_true, decide_eq_true_iff,
    receives.key]
  unfold Transport.receives
  rw [valid, profile, Bool.true_and]
  exact and_congr_left' ⟨fun same => Channel.key_injective same.symm, fun same => by rw [same]⟩

theorem Refines.send (refines : Refines workspace bus) {state : PublisherState} {sender : Sender}
    (found : workspace.publishers.get? name = some state)
    (sends : Sends workspace.publisherKinds workspace.middleware.transport name state sender)
    {after : Transport} {sample : Nat} {payload : Payload}
    (sent : Transport.Sent workspace.middleware.transport after state.endpoint
      (workspace.middleware.transport.receivers (workspace.middleware.topic state.key) sender.qos)
      sample payload) :
    Refines (workspace.withMiddleware (workspace.middleware.withTransport after))
      (bus.send name sender payload) := by
  refine ⟨sent.untouched.sound, sent.whole refines.whole, ?_, ?_, ?_, ?_⟩
  · refine refines.senders.map _ (fun other held known there sending => ?_)
    by_cases same : other = name
    · subst same
      rw [found, Option.some.injEq] at there
      subst held
      rw [if_pos rfl]
      refine ⟨?_, ?_, ?_, sent.retains sending.retains⟩
      · rw [known.channel_remember]
        exact sending.key
      · rw [known.kind_remember]
        exact sending.kind
      · rw [known.kind_remember]
        exact sending.buffer
    · rw [if_neg same]
      refine ⟨sending.key, sending.kind, sending.buffer, sent.retains_other sending.retains ?_⟩
      exact fun equal => same (refines.publishers.name_eq found there equal)
  · refine refines.receivers.map _ (fun other held receiver there receives => ?_)
    have reached := refines.mem_receivers sender there receives
    rw [← sends.key] at reached
    by_cases reaches : sender.reaches receiver = true
    · rw [if_pos reaches]
      exact ⟨receives.key, receives.buffer,
        sent.holds receives.faithful receives.holds (reached.2 reaches),
        receives.faithful.accept payload⟩
    · rw [if_neg reaches]
      exact ⟨receives.key, receives.buffer,
        sent.holds_other receives.holds (fun member => reaches (reached.1 member)),
        receives.faithful⟩
  · have list := refines.publishers
    rw [← show _ = _ from funext sent.ends.publishers, ← sent.ends.nextPublisher] at list
    exact list
  · have list := refines.subscribers
    rw [← show _ = _ from funext sent.ends.subscribers, ← sent.ends.nextSubscriber] at list
    exact list

theorem Refines.take (refines : Refines workspace bus) {state : SubscriptionState}
    (found : workspace.subscriptions.get? name = some state) {after : Transport} {payload : Payload}
    (took : Transport.Took workspace.middleware.transport after state.endpoint payload) :
    Refines (workspace.withMiddleware (workspace.middleware.withTransport after))
      (bus.take name payload) := by
  refine ⟨took.untouched.sound, took.whole refines.whole, ?_, ?_, ?_, ?_⟩
  · refine refines.senders.mono (fun other held sender _ sends => sends.untouched took.untouched ?_)
    intro known present
    exact (congrArg (fun arena => arena.get? held.endpoint) took.publishers).trans present
  · refine refines.receivers.map _ (fun other held receiver there receives => ?_)
    by_cases same : other = name
    · subst same
      rw [found, Option.some.injEq] at there
      subst held
      rw [if_pos rfl]
      obtain ⟨rest, front, left⟩ := took.front _ _ receives.holds
      refine ⟨receives.key, receives.buffer, ?_, receives.faithful.take front⟩
      unfold Receiver.take
      rw [front]
      exact left
    · rw [if_neg same]
      refine receives.untouched took.untouched (fun known present => ?_)
      have different : held.endpoint ≠ state.endpoint :=
        fun equal => same (refines.subscribers.name_eq found there equal)
      exact (took.others held.endpoint different).trans present
  · have list := refines.publishers
    rw [← show _ = _ from funext took.ends.publishers, ← took.ends.nextPublisher] at list
    exact list
  · have list := refines.subscribers
    rw [← show _ = _ from funext took.ends.subscribers, ← took.ends.nextSubscriber] at list
    exact list

end Workspace

end PubSub
