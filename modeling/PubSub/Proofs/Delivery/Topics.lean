import PubSub.Middleware.Subscription
import PubSub.Proofs.Delivery.Registered
import PubSub.Proofs.Initialisation

/-!
Topics in the graph.  Dropping the topics that are not in use loses no endpoint that is there, and registering
an endpoint changes the topic of its own key only.
-/

namespace PubSub

theorem Table.get?_filter {Key Value : Type} [DecidableEq Key] (table : Table Key Value)
    (accepts : Key × Value → Bool) (key : Key) :
    (table.filter accepts).get? key = (table.get? key).filter (fun value => accepts (key, value)) := by
  apply Option.ext
  intro value
  rw [Option.filter_eq_some_iff, get?_eq_some_iff, get?_eq_some_iff]
  exact List.mem_filter

namespace Middleware

/-- A topic that is not in use is as good as none. -/
theorem topic_pruneGraph (middleware : Middleware) (key : Bytes) :
    middleware.pruneGraph.topic key =
      if inUse middleware.transport (middleware.topic key) then middleware.topic key else .empty := by
  unfold pruneGraph topic
  dsimp only
  rw [Table.get?_filter]
  cases found : middleware.graph.get? key with
  | none => exact (ite_self _).symm
  | some topic =>
      rw [Option.filter_some, Option.getD_some]
      by_cases used : inUse middleware.transport topic
      · rw [if_pos used, if_pos used, Option.getD_some]
      · rw [if_neg used, if_neg used, Option.getD_none]

theorem publishers_pruneGraph (middleware : Middleware) (key : Bytes) :
    (middleware.pruneGraph.topic key).publishers.filter middleware.transport.publishers.contains =
        (middleware.topic key).publishers.filter middleware.transport.publishers.contains ∧
      ∀ index ∈ (middleware.pruneGraph.topic key).publishers,
        index ∈ (middleware.topic key).publishers := by
  rw [topic_pruneGraph]
  by_cases used : inUse middleware.transport (middleware.topic key)
  · rw [if_pos used]
    exact ⟨rfl, fun _ member => member⟩
  · rw [if_neg used]
    unfold inUse at used
    rw [Bool.or_eq_true, not_or, Bool.not_eq_true, Bool.not_eq_true, List.any_eq_false] at used
    refine ⟨?_, fun index member => nomatch member⟩
    exact (List.filter_eq_nil_iff.2 used.1).symm

theorem subscribers_pruneGraph (middleware : Middleware) (key : Bytes) :
    (middleware.pruneGraph.topic key).subscribers.filter middleware.transport.subscribers.contains =
        (middleware.topic key).subscribers.filter middleware.transport.subscribers.contains ∧
      ∀ index ∈ (middleware.pruneGraph.topic key).subscribers,
        index ∈ (middleware.topic key).subscribers := by
  rw [topic_pruneGraph]
  by_cases used : inUse middleware.transport (middleware.topic key)
  · rw [if_pos used]
    exact ⟨rfl, fun _ member => member⟩
  · rw [if_neg used]
    unfold inUse at used
    rw [Bool.or_eq_true, not_or, Bool.not_eq_true, Bool.not_eq_true, List.any_eq_false,
      List.any_eq_false] at used
    refine ⟨?_, fun index member => nomatch member⟩
    exact (List.filter_eq_nil_iff.2 used.2).symm

theorem topic_registerPublisher (middleware : Middleware) (topicName : Bytes) (kind : MessageKind)
    (qos : Qos) (context : Nat) (other : Bytes) :
    (middleware.registerPublisher topicName kind qos context).2.topic other =
      if other = topicKey topicName qos.plainTopic kind then
        { middleware.pruneGraph.topic other with
          publishers :=
            (middleware.pruneGraph.topic other).publishers.filter
                middleware.transport.publishers.contains ++
              [middleware.transport.publishers.next] }
      else middleware.pruneGraph.topic other := by
  unfold registerPublisher
  dsimp only
  generalize topicKey topicName qos.plainTopic kind = key
  unfold topic
  dsimp only
  rw [Table.get?_set]
  by_cases same : other = key
  · subst other
    rw [if_pos rfl, if_pos rfl]
    rfl
  · rw [if_neg same, if_neg same]

theorem topic_registerSubscription (middleware : Middleware) (topicName : Bytes) (kind : MessageKind)
    (qos : Qos) (context : Nat) (other : Bytes) :
    (middleware.registerSubscription topicName kind qos context).2.topic other =
      if other = topicKey topicName qos.plainTopic kind then
        { middleware.pruneGraph.topic other with
          subscribers :=
            (middleware.pruneGraph.topic other).subscribers.filter
                middleware.transport.subscribers.contains ++
              [middleware.transport.subscribers.next] }
      else middleware.pruneGraph.topic other := by
  unfold registerSubscription
  dsimp only
  generalize topicKey topicName qos.plainTopic kind = key
  unfold topic
  dsimp only
  rw [Table.get?_set]
  by_cases same : other = key
  · subst other
    rw [if_pos rfl, if_pos rfl]
    rfl
  · rw [if_neg same, if_neg same]

end Middleware

namespace Registered

variable {middleware : Middleware} {publishers : Table String PublisherState}
  {subscriptions : Table String SubscriptionState} {name : String} (topicName : Bytes)
  (kind : MessageKind) (qos : Qos) (context : Nat)

theorem registerPublisher
    (registered : Registered (publishers.ends PublisherState.place)
      (fun key => (middleware.topic key).publishers) middleware.transport.publishers.contains
      middleware.transport.publishers.next)
    (free : publishers.get? name = none) :
    let made := middleware.registerPublisher topicName kind qos context
    Registered ((publishers.set name made.1).ends PublisherState.place)
      (fun key => (made.2.topic key).publishers) made.2.transport.publishers.contains
      made.2.transport.publishers.next := by
  have topics := middleware.topic_registerPublisher topicName kind qos context
  have pruned := registered.relist (fun key => (middleware.publishers_pruneGraph key).1)
    (fun key => (middleware.publishers_pruneGraph key).2)
  apply pruned.set free rfl
  · exact fun index => middleware.transport.publishers.contains_insert _ index
  · exact congrArg Topic.publishers ((topics _).trans (if_pos rfl))
  · exact fun other different => congrArg Topic.publishers ((topics other).trans (if_neg different))

theorem subscribers_registerPublisher
    (registered : Registered (subscriptions.ends SubscriptionState.place)
      (fun key => (middleware.topic key).subscribers) middleware.transport.subscribers.contains
      middleware.transport.subscribers.next) :
    let made := middleware.registerPublisher topicName kind qos context
    Registered (subscriptions.ends SubscriptionState.place)
      (fun key => (made.2.topic key).subscribers) made.2.transport.subscribers.contains
      made.2.transport.subscribers.next := by
  have topics := middleware.topic_registerPublisher topicName kind qos context
  have pruned := registered.relist (fun key => (middleware.subscribers_pruneGraph key).1)
    (fun key => (middleware.subscribers_pruneGraph key).2)
  apply pruned.relist
  · intro key
    rw [topics]
    split <;> rfl
  · intro key
    rw [topics]
    split <;> exact fun _ member => member

theorem registerSubscription
    (registered : Registered (subscriptions.ends SubscriptionState.place)
      (fun key => (middleware.topic key).subscribers) middleware.transport.subscribers.contains
      middleware.transport.subscribers.next)
    (free : subscriptions.get? name = none) :
    let made := middleware.registerSubscription topicName kind qos context
    Registered ((subscriptions.set name made.1).ends SubscriptionState.place)
      (fun key => (made.2.topic key).subscribers) made.2.transport.subscribers.contains
      made.2.transport.subscribers.next := by
  have topics := middleware.topic_registerSubscription topicName kind qos context
  have same := (middleware.registerSubscription_transport topicName kind qos context).2
  have pruned := registered.relist (fun key => (middleware.subscribers_pruneGraph key).1)
    (fun key => (middleware.subscribers_pruneGraph key).2)
  intro made
  have next : made.2.transport.subscribers.next = middleware.transport.subscribers.next + 1 :=
    same.nextSubscriber
  rw [next]
  apply pruned.set free rfl
  · exact fun index => (same.subscribers index).trans
      (middleware.transport.subscribers.contains_insert _ index)
  · exact congrArg Topic.subscribers ((topics _).trans (if_pos rfl))
  · exact fun other different => congrArg Topic.subscribers ((topics other).trans (if_neg different))

theorem publishers_registerSubscription
    (registered : Registered (publishers.ends PublisherState.place)
      (fun key => (middleware.topic key).publishers) middleware.transport.publishers.contains
      middleware.transport.publishers.next) :
    let made := middleware.registerSubscription topicName kind qos context
    Registered (publishers.ends PublisherState.place)
      (fun key => (made.2.topic key).publishers) made.2.transport.publishers.contains
      made.2.transport.publishers.next := by
  have topics := middleware.topic_registerSubscription topicName kind qos context
  have same := (middleware.registerSubscription_transport topicName kind qos context).2
  have pruned := registered.relist (fun key => (middleware.publishers_pruneGraph key).1)
    (fun key => (middleware.publishers_pruneGraph key).2)
  intro made
  have next : made.2.transport.publishers.next = middleware.transport.publishers.next :=
    same.nextPublisher
  have there : made.2.transport.publishers.contains = middleware.transport.publishers.contains :=
    funext same.publishers
  rw [next, there]
  apply pruned.relist
  · intro key
    rw [topics]
    split <;> rfl
  · intro key
    rw [topics]
    split <;> exact fun _ member => member

end Registered

end PubSub
