import PubSub.Proofs.Calls.Answers
import PubSub.Proofs.Calls.Queues

/-!
How many subscriptions a publisher is told of, and how many it reaches.  The count is of all that match, and a
publish goes to those of them whose context runs: the two differ by the subscriptions of contexts that have ended.
-/

namespace PubSub

/-- The subscribers of a topic that are there are those of the subscriptions that have its key. -/
theorem Registered.countP_liveSubscribers {middleware : Middleware}
    {subscriptions : Table String SubscriptionState}
    (registered : Registered (subscriptions.ends SubscriptionState.place)
      (fun key => (middleware.topic key).subscribers) middleware.transport.subscribers.contains
      middleware.transport.subscribers.next)
    (key : Bytes) (accepts : SubscriberEnd → Bool) :
    (middleware.transport.liveSubscribers (middleware.topic key)).countP
        (fun entry => accepts entry.2) =
      subscriptions.entries.countP (fun entry => decide (entry.2.key = key) &&
        (middleware.transport.subscribers.get? entry.2.endpoint).any accepts) := by
  have listed : (middleware.transport.liveSubscribers (middleware.topic key)).countP
      (fun entry => accepts entry.2) =
        ((middleware.topic key).subscribers.filter
          middleware.transport.subscribers.contains).countP
            (fun subscriber => (middleware.transport.subscribers.get? subscriber).any accepts) := by
    unfold Transport.liveSubscribers
    rw [List.countP_filterMap, List.countP_filter]
    apply List.countP_congr
    intro subscriber _
    unfold Arena.contains
    cases middleware.transport.subscribers.get? subscriber with
    | none => simp
    | some held => simp
  have live : (middleware.topic key).subscribers.filter middleware.transport.subscribers.contains =
      _ := registered.live key
  rw [listed, live, List.countP_map, List.countP_filter]
  unfold Table.ends
  rw [List.countP_map]
  apply List.countP_congr
  intro entry _
  simp only [Function.comp_apply, SubscriptionState.place, Bool.and_eq_true, decide_eq_true_eq]
  exact and_comm

namespace Workspace

variable {workspace before after : Workspace} {publisher name : String}

def gains (before after : Workspace) (name : String) : Bool :=
  (after.queueOf name).any
    (fun sample => (before.queueOf name).count sample < (after.queueOf name).count sample)

def reached (before after : Workspace) : Nat :=
  after.subscriptions.keys.countP (before.gains after)

/-- Whether a subscription is on the topic of a publisher, and its profile fits. -/
def matched (workspace : Workspace) (publisher name : String) : Bool :=
  decide ((workspace.subscriptions.get? name).map SubscriptionState.key =
      (workspace.publishers.get? publisher).map PublisherState.key) &&
    (workspace.publisherOf publisher).any (fun sender =>
      (workspace.subscriberOf name).any (fun held => sender.qos.compatible held.qos))

def runs (workspace : Workspace) (name : String) : Bool :=
  (workspace.subscriberOf name).any
    (fun held => workspace.middleware.transport.isValid held.context)

/-- How many subscriptions a publisher matches although their contexts have ended. -/
def stale (workspace : Workspace) (publisher : String) : Nat :=
  workspace.subscriptions.keys.countP
    (fun name => workspace.matched publisher name && !workspace.runs name)

theorem matched_eq {state : PublisherState} {sender : PublisherEnd} {other : SubscriptionState}
    (there : workspace.publishers.get? publisher = some state)
    (endpoint : workspace.middleware.transport.publishers.get? state.endpoint = some sender)
    (here : workspace.subscriptions.get? name = some other) :
    workspace.matched publisher name = (decide (other.key = state.key) &&
      (workspace.middleware.transport.subscribers.get? other.endpoint).any
        (fun held => sender.qos.compatible held.qos)) := by
  unfold matched publisherOf subscriberOf
  rw [there, here, Option.bind_some, Option.bind_some, endpoint, Option.any_some, Option.map_some,
    Option.map_some]
  simp only [Option.some.injEq]

theorem Wired.exists_subscriber (wired : Wired workspace) {state : SubscriptionState}
    (here : workspace.subscriptions.get? name = some state) :
    ∃ held, workspace.middleware.transport.subscribers.get? state.endpoint = some held :=
  (Arena.contains_iff _ _).1
    ((wired.subscribers.mem_iff state.key state.endpoint).1 (Registered.mem_ends here)).2

theorem Wired.subscriptionCount (wired : Wired workspace) {held : PublisherEnd}
    (found : workspace.publisherOf publisher = some held)
    (valid : workspace.middleware.transport.isValid held.context = true) :
    (workspace.step (.subscriptionCount (some publisher) true)).1 =
      .count .ok (some (workspace.subscriptions.keys.countP (workspace.matched publisher))) := by
  obtain ⟨state, there, endpoint⟩ := publisherOf_eq_some.1 found
  have usable : workspace.middleware.validPublisher? (slot workspace.publishers (some publisher)) =
      some state :=
    (validPublisher?_slot there endpoint).trans (if_pos valid)
  have count : workspace.middleware.transport.matchedSubscriptions
      (workspace.middleware.topic state.key) state.endpoint =
        workspace.subscriptions.keys.countP (workspace.matched publisher) := by
    unfold Transport.matchedSubscriptions Table.keys
    rw [endpoint, List.countP_map]
    dsimp only
    rw [wired.subscribers.countP_liveSubscribers state.key
      (fun subscriber => held.qos.compatible subscriber.qos)]
    apply List.countP_congr
    intro entry member
    have here := (workspace.subscriptions.get?_eq_some_iff entry.1 entry.2).2 member
    rw [Function.comp_apply, matched_eq there endpoint here]
  unfold Workspace.step
  dsimp only
  unfold Middleware.subscriptionCount
  rw [usable]
  dsimp only
  rw [if_pos rfl, count]
  rfl

theorem gains_of_pushed {held : SubscriberEnd} {sample : Nat}
    (found : before.subscriberOf name = some held)
    (there : after.subscriberOf name = some (Transport.pushed sample held))
    (new : sample ∉ held.queue.waiting) : before.gains after name = true := by
  have member : sample ∈ after.queueOf name := by
    rw [queueOf_eq there]
    unfold Transport.pushed SampleQueue.push
    dsimp only
    split <;> simp
  unfold gains
  rw [List.any_eq_true]
  refine ⟨sample, member, decide_eq_true ?_⟩
  rw [queueOf_eq found, List.count_eq_zero_of_not_mem new]
  exact List.count_pos_iff.2 member

theorem gains_of_same (same : after.subscriberOf name = before.subscriberOf name) :
    before.gains after name = false := by
  unfold gains queueOf
  rw [same]
  simp

theorem Wired.mem_receivers_iff (wired : Wired workspace) {sender : PublisherState} {held : PublisherEnd}
    (there : workspace.publishers.get? publisher = some sender)
    (endpoint : workspace.middleware.transport.publishers.get? sender.endpoint = some held)
    {state : SubscriptionState} (here : workspace.subscriptions.get? name = some state) :
    state.endpoint ∈ workspace.middleware.transport.receivers
        (workspace.middleware.topic sender.key) held.qos ↔
      (workspace.matched publisher name && workspace.runs name) = true := by
  obtain ⟨subscriber, present⟩ := wired.exists_subscriber here
  have mine := subscriberOf_eq_some.2 ⟨state, here, present⟩
  rw [wired.subscribers.mem_receivers here present, matched_eq there endpoint here, present]
  unfold Transport.receives runs
  rw [mine, Option.any_some, Option.any_some, Bool.and_eq_true, Bool.and_eq_true, Bool.and_eq_true,
    decide_eq_true_eq]
  constructor
  · rintro ⟨same, valid, compatible⟩
    exact ⟨⟨same, compatible⟩, valid⟩
  · rintro ⟨⟨same, compatible⟩, valid⟩
    exact ⟨same, valid, compatible⟩

/-- A publish that succeeds puts a sample into the queues of those that its publisher sends to. -/
theorem Wired.gains_publish (wired : Wired workspace) {data : Option Datum}
    (effect : workspace.Effect (.publish (some publisher) data) (.status .ok) after)
    {held : PublisherEnd} (found : workspace.publisherOf publisher = some held)
    {state : SubscriptionState} (here : workspace.subscriptions.get? name = some state) :
    workspace.gains after name = (workspace.matched publisher name && workspace.runs name) := by
  obtain ⟨sender, there, endpoint⟩ := publisherOf_eq_some.1 found
  obtain ⟨subscriber, present⟩ := wired.exists_subscriber here
  have mine := subscriberOf_eq_some.2 ⟨state, here, present⟩
  have receives := wired.mem_receivers_iff there endpoint here
  cases effect with
  | noted unmoved noted => exact absurd rfl (unmoved rfl)
  | @published _ datum state' held' reason first last content known publisherEnd valid =>
      cases there.symm.trans known
      cases endpoint.symm.trans publisherEnd
      have sent := fun store => ((workspace.middleware.transport.withStore store).publish_ends
        (workspace.middleware.topic sender.key) endpoint
        workspace.middleware.transport.store.samples.next
        (wired.subscribers.nodup_receivers sender.key held.qos)).2.1 state.endpoint
      by_cases reached : state.endpoint ∈ workspace.middleware.transport.receivers
          (workspace.middleware.topic sender.key) held.qos
      · rw [receives.1 reached]
        refine gains_of_pushed mine (subscriberOf_eq_some.2 ⟨state, here, ?_⟩)
          (fun member => Nat.lt_irrefl _ (wired.sound.lt_next_of_waiting present member))
        exact (sent _).trans ((if_pos reached).trans (congrArg (Option.map _) present))
      · rw [Bool.eq_false_iff.2 (fun accepted => reached (receives.2 accepted))]
        apply gains_of_same
        refine Eq.trans (subscriberOf_eq_some.2 ⟨state, here, ?_⟩) mine.symm
        exact (sent _).trans ((if_neg reached).trans present)

theorem Wired.reached_publish (wired : Wired workspace) {data : Option Datum}
    (effect : workspace.Effect (.publish (some publisher) data) (.status .ok) after)
    {held : PublisherEnd} (found : workspace.publisherOf publisher = some held) :
    workspace.reached after =
      workspace.subscriptions.keys.countP
        (fun name => workspace.matched publisher name && workspace.runs name) := by
  have same : after.subscriptions = workspace.subscriptions := by
    cases effect with
    | noted unmoved noted => rfl
    | published content known endpoint valid => rfl
  unfold reached
  rw [same]
  apply List.countP_congr
  intro name member
  obtain ⟨state, here⟩ := (workspace.subscriptions.mem_keys_iff name).1 member
  rw [wired.gains_publish effect found here]

/-- A publisher is told of all that it reaches, and of what is stale. -/
theorem count_eq_reached_add_stale (workspace : Workspace) (publisher : String)
    (names : List String) :
    names.countP (workspace.matched publisher) =
      names.countP (fun name => workspace.matched publisher name && workspace.runs name) +
        names.countP (fun name => workspace.matched publisher name && !workspace.runs name) := by
  induction names with
  | nil => rfl
  | cons name rest ih =>
      rw [List.countP_cons, List.countP_cons, List.countP_cons, ih]
      cases workspace.matched publisher name <;> cases workspace.runs name <;> simp <;> omega

theorem stale_eq_zero_iff :
    workspace.stale publisher = 0 ↔
      ∀ name, workspace.matched publisher name = true → workspace.runs name = true := by
  unfold stale
  rw [List.countP_eq_zero]
  constructor
  · intro none name matched
    have there : name ∈ workspace.subscriptions.keys := by
      unfold Workspace.matched subscriberOf at matched
      rw [Table.mem_keys_iff]
      cases here : workspace.subscriptions.get? name with
      | none => simp [here] at matched
      | some state => exact ⟨state, rfl⟩
    have kept := none name there
    rw [matched, Bool.true_and, Bool.not_eq_true, Bool.not_eq_false'] at kept
    exact kept
  · intro all name _ stale
    rw [Bool.and_eq_true, Bool.not_eq_true'] at stale
    rw [all name stale.1] at stale
    cases stale.2

/--
In every state the count of a publisher that is valid is the number of subscriptions that a publish reaches, and of
those that match although their contexts have ended; it is the former alone where there are none of the latter.
-/
theorem subscriptionCount_eq_reached_add_stale (actions : List Action) {publisher : String}
    {held : PublisherEnd} (found : (empty.run actions).publisherOf publisher = some held)
    (valid : (empty.run actions).middleware.transport.isValid held.context = true) :
    ∃ number, ((empty.run actions).step (.subscriptionCount (some publisher) true)).1 =
        .count .ok (some number) ∧
      ∀ data, ((empty.run actions).step (.publish (some publisher) data)).1 = .status .ok →
        let reached :=
          (empty.run actions).reached ((empty.run actions).step (.publish (some publisher) data)).2
        number = reached + (empty.run actions).stale publisher ∧
          (number = reached ↔ ∀ name, (empty.run actions).matched publisher name = true →
            (empty.run actions).runs name = true) := by
  have wired := wired_empty.run actions
  generalize empty.run actions = workspace at *
  refine ⟨_, wired.subscriptionCount found valid, ?_⟩
  intro data succeeded reached
  have split := workspace.count_eq_reached_add_stale publisher workspace.subscriptions.keys
  have effect := workspace.step_effect (.publish (some publisher) data)
  rw [succeeded] at effect
  rw [← wired.reached_publish effect found] at split
  constructor
  · exact split
  · rw [← stale_eq_zero_iff, split]
    exact Nat.add_eq_left

/-- A publisher in one context, and a subscription in another one, which has ended. -/
def deaf : List Action :=
  let topic := some (Bytes.ofString "chatter")
  let name := some (Bytes.ofString "talker")
  let space := some (Bytes.ofString "/")
  [.initContext (some "left") (some []) 0,
    .initContext (some "right") (some []) 0,
    .initNode (some "here") name space (some "left") (some false),
    .initNode (some "there") name space (some "right") (some false),
    .initPublisher (some "publisher") (some "here") (some (.complete .counted)) topic
      (some Qos.standard),
    .initSubscription (some "subscription") (some "there") (some (.complete .counted)) topic
      (some Qos.standard),
    .shutdown (some "right")]

/-- What the count tells too much is the one subscription that is stale. -/
theorem subscriptionCount_deaf :
    ((empty.run deaf).step (.subscriptionCount (some "publisher") true)).1 =
        .count .ok (some ((empty.run deaf).stale "publisher")) := by
  have found : (empty.run deaf).publisherOf "publisher" =
      some { qos := Qos.standard, context := 0, history := [] } := by
    decide +kernel
  obtain ⟨number, told, rest⟩ :=
    subscriptionCount_eq_reached_add_stale deaf found (by decide +kernel)
  have sent := (rest (some (.number 1)) (by decide +kernel)).1
  have nobody : (empty.run deaf).reached
      ((empty.run deaf).step (.publish (some "publisher") (some (.number 1)))).2 = 0 := by
    decide +kernel
  rw [nobody, Nat.zero_add] at sent
  rw [told, sent]

/-- A publisher is told of one subscription, and what it publishes reaches none. -/
theorem count_exceeds_reached :
    ((empty.run deaf).step (.subscriptionCount (some "publisher") true)).1 = .count .ok (some 1) ∧
      ((empty.run deaf).step (.publish (some "publisher") (some (.number 1)))).1 = .status .ok ∧
      (empty.run deaf).reached
        ((empty.run deaf).step (.publish (some "publisher") (some (.number 1)))).2 = 0 := by
  decide +kernel

end Workspace

end PubSub
