import PubSub.Proofs.Delivery.Payload
import PubSub.Proofs.Endpoints

/-!
Endpoints and what they have in store: the payloads that wait for a subscription, and those that a publisher
retains.  Every operation of the transport is told by what it makes of each endpoint.
-/

namespace PubSub

namespace Transport

variable {transport after : Transport} {outside : Nat → Nat}

def pushed (sample : Nat) (state : SubscriberEnd) : SubscriberEnd :=
  { state with queue := (state.queue.push sample).2 }

theorem subscribers_deliver (transport : Transport) (subscriber sample other : Nat) :
    (transport.deliver subscriber sample).subscribers.get? other =
      if other = subscriber then (transport.subscribers.get? subscriber).map (pushed sample)
      else transport.subscribers.get? other := by
  unfold deliver
  cases found : transport.subscribers.get? subscriber with
  | none =>
      by_cases same : other = subscriber
      · rw [if_pos same, same, found]
        rfl
      · rw [if_neg same]
  | some state =>
      dsimp only
      rw [Arena.get?_modify]
      by_cases same : other = subscriber
      · rw [if_pos same, if_pos same, found]
        rfl
      · rw [if_neg same, if_neg same]

theorem subscribers_deliverEach (receivers : List Nat) (distinct : receivers.Nodup)
    (transport : Transport) (sample other : Nat) :
    (receivers.foldl (fun current subscriber => current.deliver subscriber sample)
        transport).subscribers.get? other =
      if other ∈ receivers then (transport.subscribers.get? other).map (pushed sample)
      else transport.subscribers.get? other := by
  induction receivers generalizing transport with
  | nil => exact (if_neg List.not_mem_nil).symm
  | cons subscriber rest ih =>
      rw [List.nodup_cons] at distinct
      rw [List.foldl_cons, ih distinct.2, subscribers_deliver]
      by_cases same : other = subscriber
      · subst other
        rw [if_neg distinct.1, if_pos rfl, if_pos List.mem_cons_self]
      · rw [if_neg same]
        have tail : other ∈ subscriber :: rest ↔ other ∈ rest := by
          rw [List.mem_cons]
          exact or_iff_right same
        exact (if_congr tail rfl rfl).symm

theorem subscribers_deliverAll (samples : List Nat) (transport : Transport) (subscriber other : Nat) :
    (samples.foldl (fun current sample => current.deliver subscriber sample)
        transport).subscribers.get? other =
      if other = subscriber then
        (transport.subscribers.get? subscriber).map
          (fun state => { state with queue := state.queue.pushAll samples })
      else transport.subscribers.get? other := by
  induction samples generalizing transport with
  | nil =>
      by_cases same : other = subscriber
      · rw [if_pos same, same]
        change transport.subscribers.get? subscriber = _
        cases transport.subscribers.get? subscriber <;> rfl
      · rw [if_neg same]
        rfl
  | cons sample rest ih =>
      rw [List.foldl_cons, ih, subscribers_deliver, subscribers_deliver, if_pos rfl, Option.map_map]
      by_cases same : other = subscriber
      · rw [if_pos same, if_pos same]
        rfl
      · rw [if_neg same, if_neg same, if_neg same]

def remembering (sample : Nat) (state : PublisherEnd) : PublisherEnd :=
  if state.qos.isTransientLocal then
    { state with history := state.qos.newest (state.history ++ [sample]) }
  else state

theorem publishers_remember (transport : Transport) (publisher sample other : Nat) :
    (transport.remember publisher sample).publishers.get? other =
      if other = publisher then (transport.publishers.get? publisher).map (remembering sample)
      else transport.publishers.get? other := by
  unfold remember
  cases found : transport.publishers.get? publisher with
  | none =>
      by_cases same : other = publisher
      · rw [if_pos same, same, found]
        rfl
      · rw [if_neg same]
  | some state =>
      dsimp only
      unfold remembering
      by_cases keeps : state.qos.isTransientLocal
      · rw [if_pos keeps, Arena.get?_modify]
        by_cases same : other = publisher
        · rw [if_pos same, if_pos same, found, Option.map_some, Option.map_some, if_pos keeps]
          rfl
        · rw [if_neg same, if_neg same]
      · rw [if_neg keeps]
        by_cases same : other = publisher
        · rw [if_pos same, same, found, Option.map_some, if_neg keeps]
        · rw [if_neg same]

theorem remember_rest (transport : Transport) (publisher sample : Nat) :
    (transport.remember publisher sample).subscribers = transport.subscribers ∧
      (transport.remember publisher sample).contexts = transport.contexts := by
  unfold remember
  split
  · exact ⟨rfl, rfl⟩
  · split <;> exact ⟨rfl, rfl⟩

theorem deliverEach_rest {Item : Type} (receiver content : Item → Nat) (items : List Item)
    (transport : Transport) :
    (items.foldl (fun current item => current.deliver (receiver item) (content item))
        transport).publishers = transport.publishers ∧
      (items.foldl (fun current item => current.deliver (receiver item) (content item))
        transport).contexts = transport.contexts := by
  induction items generalizing transport with
  | nil => exact ⟨rfl, rfl⟩
  | cons item rest ih =>
      obtain ⟨publishers, contexts⟩ := ih (transport.deliver (receiver item) (content item))
      exact ⟨publishers.trans (deliver_publishers _ _ _), contexts.trans (deliver_contexts _ _ _)⟩

theorem receivers_congr (topic : Topic) (offered : Qos)
    (subscribers : after.subscribers = transport.subscribers) (contexts : after.contexts = transport.contexts) :
    after.receivers topic offered = transport.receivers topic offered := by
  unfold receivers liveSubscribers receives isValid
  rw [subscribers, contexts]

theorem mem_receivers (transport : Transport) (topic : Topic) (offered : Qos) (subscriber : Nat) :
    subscriber ∈ transport.receivers topic offered ↔
      subscriber ∈ topic.subscribers ∧ ∃ state, transport.subscribers.get? subscriber = some state ∧
        transport.receives offered state = true := by
  unfold receivers liveSubscribers
  rw [List.mem_map]
  constructor
  · rintro ⟨⟨_, state⟩, member, rfl⟩
    obtain ⟨live, accepted⟩ := List.mem_filter.1 member
    obtain ⟨index, listed, there⟩ := List.mem_filterMap.1 live
    obtain ⟨held, found, same⟩ := Option.map_eq_some_iff.1 there
    cases same
    exact ⟨listed, state, found, accepted⟩
  · rintro ⟨listed, state, found, accepted⟩
    refine ⟨(subscriber, state), List.mem_filter.2 ⟨List.mem_filterMap.2 ?_, accepted⟩, rfl⟩
    exact ⟨subscriber, listed, congrArg (Option.map _) found⟩

theorem receivers_sublist (transport : Transport) (topic : Topic) (offered : Qos) :
    (transport.receivers topic offered).Sublist
      (topic.subscribers.filter transport.subscribers.contains) := by
  have live : (transport.liveSubscribers topic).map Prod.fst =
      topic.subscribers.filter transport.subscribers.contains := by
    unfold liveSubscribers Arena.contains
    induction topic.subscribers with
    | nil => rfl
    | cons subscriber rest ih =>
        cases found : transport.subscribers.get? subscriber with
        | none => simp [found, ih]
        | some state => simp [found, ih]
  rw [← live]
  exact List.filter_sublist.map Prod.fst

theorem publish_ends (transport : Transport) (topic : Topic) {publisher : Nat} {state : PublisherEnd}
    (found : transport.publishers.get? publisher = some state) (sample : Nat)
    (distinct : (transport.receivers topic state.qos).Nodup) :
    (∀ other, (transport.publish topic publisher sample).publishers.get? other =
      if other = publisher then some (remembering sample state)
      else transport.publishers.get? other) ∧
    (∀ other, (transport.publish topic publisher sample).subscribers.get? other =
      if other ∈ transport.receivers topic state.qos then
        (transport.subscribers.get? other).map (pushed sample)
      else transport.subscribers.get? other) ∧
    (transport.publish topic publisher sample).contexts = transport.contexts := by
  obtain ⟨subscribers, contexts⟩ := transport.remember_rest publisher sample
  have receivers := receivers_congr topic state.qos subscribers contexts
  have rest := deliverEach_rest (fun subscriber => subscriber) (fun _ => sample)
    (transport.receivers topic state.qos) (transport.remember publisher sample)
  have sent : transport.publish topic publisher sample =
      (transport.receivers topic state.qos).foldl
        (fun current subscriber => current.deliver subscriber sample)
        (transport.remember publisher sample) := by
    unfold publish
    rw [found]
    dsimp only
    rw [receivers]
  rw [sent]
  refine ⟨fun other => ?_, fun other => ?_, rest.2.trans contexts⟩
  · rw [rest.1, publishers_remember, found]
    rfl
  · rw [subscribers_deliverEach _ distinct, subscribers]

theorem addSubscriber_ends (transport : Transport) (topic : Topic) (qos : Qos) (context : Nat) :
    (transport.addSubscriber topic qos context).2.2.publishers = transport.publishers ∧
      ∀ other, (transport.addSubscriber topic qos context).2.2.subscribers.get? other =
        if other = transport.subscribers.next then
          some
            { qos
              context
              queue := (SampleQueue.ofQos qos).pushAll (transport.replayed topic qos) }
        else transport.subscribers.get? other := by
  have inserted := transport.subscribers.get?_insert { qos, context, queue := .ofQos qos }
  constructor
  · exact (deliverEach_rest (fun _ => transport.subscribers.next) (fun sample => sample) _ _).1
  · intro other
    refine (subscribers_deliverAll _ _ _ other).trans ?_
    by_cases new : other = transport.subscribers.next
    · rw [if_pos new, if_pos new]
      exact congrArg (Option.map _) ((inserted _).trans (if_pos rfl))
    · rw [if_neg new, if_neg new]
      exact (inserted other).trans (if_neg new)

theorem get?_dropPublisher (transport : Transport) (publisher other : Nat) :
    (transport.dropPublisher publisher).publishers.get? other =
      if other = publisher then none else transport.publishers.get? other := by
  unfold dropPublisher
  cases found : transport.publishers.get? publisher with
  | none =>
      by_cases same : other = publisher
      · rw [if_pos same, same, found]
      · rw [if_neg same]
  | some state => exact transport.publishers.get?_erase publisher other

theorem get?_dropSubscriber (transport : Transport) (subscriber other : Nat) :
    (transport.dropSubscriber subscriber).subscribers.get? other =
      if other = subscriber then none else transport.subscribers.get? other := by
  unfold dropSubscriber
  cases found : transport.subscribers.get? subscriber with
  | none =>
      by_cases same : other = subscriber
      · rw [if_pos same, same, found]
      · rw [if_neg same]
  | some state => exact transport.subscribers.get?_erase subscriber other

def Retains (transport : Transport) (endpoint : Nat) (qos : Qos) (history : List Payload) : Prop :=
  ∃ state, transport.publishers.get? endpoint = some state ∧ state.qos = qos ∧
    transport.store.Reads state.history history ∧ transport.isValid state.context = true

def Holds (transport : Transport) (endpoint : Nat) (qos : Qos) (pending : List Payload) : Prop :=
  ∃ state, transport.subscribers.get? endpoint = some state ∧ state.qos = qos ∧
    state.queue.Fits qos ∧ transport.store.Reads state.queue.waiting pending ∧
    transport.isValid state.context = true

structure Untouched (before after : Transport) : Prop where
  sound : after.Sound (fun _ => 0)
  agrees : before.store.Agrees after.store
  valid : ∀ context, before.isValid context = true → after.isValid context = true

theorem Retains.untouched {endpoint : Nat} {qos : Qos} {history : List Payload}
    (retains : transport.Retains endpoint qos history) (untouched : Untouched transport after)
    (kept : ∀ state, transport.publishers.get? endpoint = some state →
      after.publishers.get? endpoint = some state) :
    after.Retains endpoint qos history := by
  obtain ⟨state, found, profile, reads, valid⟩ := retains
  refine ⟨state, kept state found, profile, ?_, untouched.valid _ valid⟩
  exact reads.agrees untouched.agrees
    (fun sample member => untouched.sound.exists_of_history (kept state found) member)

theorem Holds.untouched {endpoint : Nat} {qos : Qos} {pending : List Payload}
    (holds : transport.Holds endpoint qos pending) (untouched : Untouched transport after)
    (kept : ∀ state, transport.subscribers.get? endpoint = some state →
      after.subscribers.get? endpoint = some state) :
    after.Holds endpoint qos pending := by
  obtain ⟨state, found, profile, fits, reads, valid⟩ := holds
  refine ⟨state, kept state found, profile, fits, ?_, untouched.valid _ valid⟩
  exact reads.agrees untouched.agrees
    (fun sample member => untouched.sound.exists_of_waiting (kept state found) member)

end Transport

end PubSub
