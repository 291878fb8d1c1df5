import Mathlib.Data.List.Dedup
import Mathlib.Data.List.Perm.Lattice
import PubSub.Proofs.Calls.Failure
import PubSub.Proofs.Graph.Keyed

/-!
The topics in use.  The graph has one topic for each name, mark and type that an endpoint uses, and the endpoints that
have these in common are on the same one.
-/

namespace PubSub

open Name (IsFullTopic)

/-- What topics are told apart by: the full name, whether it is plain, and the name of the type. -/
structure TopicIdentity where
  topicName : Bytes
  plainTopic : Bool
  typeName : Bytes
  deriving DecidableEq

def TopicIdentity.key (identity : TopicIdentity) : Bytes :=
  Middleware.marked identity.topicName identity.plainTopic ++ 10 :: identity.typeName

theorem TopicIdentity.eq_of_key {first second : TopicIdentity} (full : IsFullTopic first.topicName)
    (also : IsFullTopic second.topicName) (same : first.key = second.key) : first = second := by
  obtain ⟨topicName, plainTopic, typeName⟩ := first
  obtain ⟨name, plain, type⟩ := Middleware.key_injective full also same
  dsimp only at name plain type
  subst name plain type
  rfl

namespace Registered

variable {State : Type} {table : Table String State} {place : State → Bytes × Nat}
  {listed : Bytes → List Nat} {contains : Nat → Bool} {next : Nat} {name : String} {state : State}

theorem listed_iff (registered : Registered (table.ends place) listed contains next)
    (found : table.get? name = some state) (key : Bytes) :
    (place state).2 ∈ listed key ↔ key = (place state).1 := by
  have there := (registered.mem_iff (place state).1 (place state).2).1 (mem_ends found)
  constructor
  · intro member
    have also := (registered.mem_iff key (place state).2).2 ⟨member, there.2⟩
    exact congrArg Prod.fst (registered.eq_of_snd_eq also (mem_ends found) rfl)
  · rintro rfl
    exact there.1

theorem exists_of_listed (registered : Registered (table.ends place) listed contains next)
    {key : Bytes} {index : Nat} (member : index ∈ listed key) (there : contains index = true) :
    ∃ name state, table.get? name = some state ∧ place state = (key, index) := by
  obtain ⟨⟨name, state⟩, entry, same⟩ :=
    List.mem_map.1 ((registered.mem_iff key index).2 ⟨member, there⟩)
  exact ⟨name, state, (table.get?_eq_some_iff name state).2 entry, same⟩

end Registered

namespace Middleware

variable {middleware : Middleware} {key : Bytes} {topic : Topic}

theorem topic_of_get? (found : middleware.graph.get? key = some topic) :
    middleware.topic key = topic := by
  unfold Middleware.topic
  rw [found, Option.getD_some]

theorem get?_of_listed (lists : middleware.topic key ≠ .empty) :
    middleware.graph.get? key = some (middleware.topic key) := by
  unfold Middleware.topic at lists ⊢
  cases found : middleware.graph.get? key with
  | none =>
      rw [found] at lists
      exact absurd rfl lists
  | some topic => rfl

theorem mem_keys_pruneGraph : key ∈ middleware.pruneGraph.graph.keys ↔
    ∃ topic, middleware.graph.get? key = some topic ∧ inUse middleware.transport topic = true := by
  rw [Table.mem_keys_iff]
  unfold pruneGraph
  dsimp only
  rw [Table.get?_filter]
  simp only [Option.filter_eq_some_iff]

end Middleware

inductive EndpointName where
  | publisher (name : String)
  | subscription (name : String)

namespace Workspace

variable {workspace after : Workspace} {name : String}

def publisherTopic (workspace : Workspace) (state : PublisherState) : TopicIdentity :=
  { topicName := state.topicName
    plainTopic := (workspace.publisherQos? state).any Qos.plainTopic
    typeName := state.kind.typeName }

def subscriptionTopic (workspace : Workspace) (state : SubscriptionState) : TopicIdentity :=
  { topicName := state.topicName
    plainTopic := (workspace.subscriptionQos? state).any Qos.plainTopic
    typeName := state.kind.typeName }

def topicOf? (workspace : Workspace) : EndpointName → Option TopicIdentity
  | .publisher name => (workspace.publishers.get? name).map workspace.publisherTopic
  | .subscription name => (workspace.subscriptions.get? name).map workspace.subscriptionTopic

def topicsUsed (workspace : Workspace) : List TopicIdentity :=
  workspace.publishers.values.map workspace.publisherTopic ++
    workspace.subscriptions.values.map workspace.subscriptionTopic

/-- Whether an endpoint that is there is listed in the topic that the graph has under a key. -/
def IsOn (workspace : Workspace) (key : Bytes) (endpoint : EndpointName) : Prop :=
  ∃ topic, workspace.middleware.graph.get? key = some topic ∧
    match endpoint with
    | .publisher name => ∃ state, workspace.publishers.get? name = some state ∧
        state.endpoint ∈ topic.publishers
    | .subscription name => ∃ state, workspace.subscriptions.get? name = some state ∧
        state.endpoint ∈ topic.subscribers

theorem IsOn.exists_topic {key : Bytes} {endpoint : EndpointName} (on : workspace.IsOn key endpoint) :
    ∃ identity, workspace.topicOf? endpoint = some identity := by
  obtain ⟨topic, _, there⟩ := on
  cases endpoint with
  | publisher name =>
      obtain ⟨state, found, _⟩ := there
      exact ⟨workspace.publisherTopic state, congrArg (Option.map workspace.publisherTopic) found⟩
  | subscription name =>
      obtain ⟨state, found, _⟩ := there
      exact ⟨workspace.subscriptionTopic state, congrArg (Option.map workspace.subscriptionTopic) found⟩

theorem mem_topicsUsed {identity : TopicIdentity} :
    identity ∈ workspace.topicsUsed ↔ ∃ endpoint, workspace.topicOf? endpoint = some identity := by
  have listed : ∀ {State : Type} (table : Table String State) (use : State → TopicIdentity),
      identity ∈ table.values.map use ↔ ∃ name, (table.get? name).map use = some identity := by
    intro State table use
    unfold Table.values
    rw [List.map_map, List.mem_map]
    constructor
    · rintro ⟨⟨name, state⟩, entry, rfl⟩
      exact ⟨name, by rw [(table.get?_eq_some_iff name state).2 entry]; rfl⟩
    · rintro ⟨name, uses⟩
      obtain ⟨state, found, same⟩ := Option.map_eq_some_iff.1 uses
      exact ⟨(name, state), (table.get?_eq_some_iff name state).1 found, same⟩
  unfold topicsUsed
  rw [List.mem_append, listed, listed]
  constructor
  · rintro (⟨name, uses⟩ | ⟨name, uses⟩)
    · exact ⟨.publisher name, uses⟩
    · exact ⟨.subscription name, uses⟩
  · rintro ⟨name | name, uses⟩
    · exact .inl ⟨name, uses⟩
    · exact .inr ⟨name, uses⟩

theorem Keyed.full (keyed : Keyed workspace) {endpoint : EndpointName} {identity : TopicIdentity}
    (uses : workspace.topicOf? endpoint = some identity) : IsFullTopic identity.topicName := by
  cases endpoint with
  | publisher name =>
      obtain ⟨state, found, rfl⟩ := Option.map_eq_some_iff.1 uses
      exact keyed.named.publishers name state found
  | subscription name =>
      obtain ⟨state, found, rfl⟩ := Option.map_eq_some_iff.1 uses
      exact keyed.named.subscriptions name state found

theorem Keyed.publisher_key (keyed : Keyed workspace) {state : PublisherState}
    (found : workspace.publishers.get? name = some state) :
    state.key = (workspace.publisherTopic state).key := by
  obtain ⟨qos, there, key⟩ := keyed.publishers name state found
  unfold publisherTopic TopicIdentity.key
  rw [there]
  exact key.trans (Middleware.topicKey_eq _ _ _)

theorem Keyed.subscription_key (keyed : Keyed workspace) {state : SubscriptionState}
    (found : workspace.subscriptions.get? name = some state) :
    state.key = (workspace.subscriptionTopic state).key := by
  obtain ⟨qos, there, key⟩ := keyed.subscriptions name state found
  unfold subscriptionTopic TopicIdentity.key
  rw [there]
  exact key.trans (Middleware.topicKey_eq _ _ _)

theorem Keyed.isOn_iff (keyed : Keyed workspace) {endpoint : EndpointName} {identity : TopicIdentity}
    (uses : workspace.topicOf? endpoint = some identity) (key : Bytes) :
    workspace.IsOn key endpoint ↔ key = identity.key := by
  cases endpoint with
  | publisher name =>
      obtain ⟨state, found, rfl⟩ := Option.map_eq_some_iff.1 uses
      rw [← keyed.publisher_key found]
      refine Iff.trans ?_ (keyed.wired.publishers.listed_iff found key)
      constructor
      · rintro ⟨topic, there, other, same, member⟩
        cases found.symm.trans same
        rw [Middleware.topic_of_get? there]
        exact member
      · intro member
        have lists : workspace.middleware.topic key ≠ .empty :=
          fun none => by rw [none] at member; cases member
        exact ⟨_, Middleware.get?_of_listed lists, state, found, member⟩
  | subscription name =>
      obtain ⟨state, found, rfl⟩ := Option.map_eq_some_iff.1 uses
      rw [← keyed.subscription_key found]
      refine Iff.trans ?_ (keyed.wired.subscribers.listed_iff found key)
      constructor
      · rintro ⟨topic, there, other, same, member⟩
        cases found.symm.trans same
        rw [Middleware.topic_of_get? there]
        exact member
      · intro member
        have lists : workspace.middleware.topic key ≠ .empty :=
          fun none => by rw [none] at member; cases member
        exact ⟨_, Middleware.get?_of_listed lists, state, found, member⟩

/-- A topic is in use exactly while an endpoint is on it. -/
theorem Keyed.inUse_iff (keyed : Keyed workspace) {key : Bytes} {topic : Topic}
    (there : workspace.middleware.graph.get? key = some topic) :
    Middleware.inUse workspace.middleware.transport topic = true ↔
      ∃ endpoint, workspace.IsOn key endpoint := by
  have lists := Middleware.topic_of_get? there
  unfold Middleware.inUse
  rw [Bool.or_eq_true, List.any_eq_true, List.any_eq_true]
  constructor
  · rintro (⟨index, member, lives⟩ | ⟨index, member, lives⟩)
    · obtain ⟨name, state, found, place⟩ :=
        keyed.wired.publishers.exists_of_listed (lists ▸ member) lives
      cases place
      exact ⟨.publisher name, topic, there, state, found, member⟩
    · obtain ⟨name, state, found, place⟩ :=
        keyed.wired.subscribers.exists_of_listed (lists ▸ member) lives
      cases place
      exact ⟨.subscription name, topic, there, state, found, member⟩
  · rintro ⟨name | name, found⟩
    · obtain ⟨other, same, state, known, member⟩ := found
      cases there.symm.trans same
      have registered := keyed.wired.publishers
      exact .inl ⟨state.endpoint, member, ((registered.mem_iff _ _).1 (Registered.mem_ends known)).2⟩
    · obtain ⟨other, same, state, known, member⟩ := found
      cases there.symm.trans same
      have registered := keyed.wired.subscribers
      exact .inr ⟨state.endpoint, member, ((registered.mem_iff _ _).1 (Registered.mem_ends known)).2⟩

theorem Keyed.mem_keys_iff (keyed : Keyed workspace) (key : Bytes) :
    key ∈ workspace.middleware.pruneGraph.graph.keys ↔
      ∃ identity ∈ workspace.topicsUsed, identity.key = key := by
  rw [Middleware.mem_keys_pruneGraph]
  constructor
  · rintro ⟨topic, there, used⟩
    obtain ⟨endpoint, on⟩ := (keyed.inUse_iff there).1 used
    obtain ⟨identity, uses⟩ := on.exists_topic
    exact ⟨identity, mem_topicsUsed.2 ⟨endpoint, uses⟩, ((keyed.isOn_iff uses key).1 on).symm⟩
  · rintro ⟨identity, member, rfl⟩
    obtain ⟨endpoint, uses⟩ := mem_topicsUsed.1 member
    have on := (keyed.isOn_iff uses identity.key).2 rfl
    obtain ⟨topic, there, _⟩ := id on
    exact ⟨topic, there, (keyed.inUse_iff there).2 ⟨endpoint, on⟩⟩

/-- The graph has as many topics in use as there are identities among the endpoints. -/
theorem Keyed.topicCount_eq (keyed : Keyed workspace) :
    workspace.middleware.topicCount.1 = workspace.topicsUsed.dedup.length := by
  have apart : (workspace.topicsUsed.dedup.map TopicIdentity.key).Nodup := by
    refine List.Nodup.map_on ?_ (List.nodup_dedup _)
    intro first member second also same
    obtain ⟨_, uses⟩ := mem_topicsUsed.1 (List.mem_dedup.1 member)
    obtain ⟨_, other⟩ := mem_topicsUsed.1 (List.mem_dedup.1 also)
    exact TopicIdentity.eq_of_key (keyed.full uses) (keyed.full other) same
  have same : workspace.middleware.pruneGraph.graph.keys.Perm
      (workspace.topicsUsed.dedup.map TopicIdentity.key) := by
    refine (List.perm_ext_iff_of_nodup workspace.middleware.pruneGraph.graph.distinct apart).2 ?_
    intro key
    rw [← Table.keys, keyed.mem_keys_iff, List.mem_map]
    simp only [List.mem_dedup]
  calc workspace.middleware.topicCount.1
      = workspace.middleware.pruneGraph.graph.keys.length := (List.length_map _).symm
    _ = (workspace.topicsUsed.dedup.map TopicIdentity.key).length := same.length_eq
    _ = workspace.topicsUsed.dedup.length := List.length_map _

theorem Effect.graph_of_failed {action : Action} {answer : Answer}
    (effect : workspace.Effect action answer after) (failed : answer.failed = true) :
    after.middleware.graph = workspace.middleware.graph := by
  cases effect with
  | noted unmoved noted =>
      obtain ⟨reason, ledger, rfl, _⟩ := noted
      rfl
  | took => rfl
  | _ => cases failed

/-- What the graph tells of the endpoints that are there. -/
structure TracksTopics (workspace : Workspace) : Prop where
  /-- Every topic in use is counted once. -/
  count : (workspace.step .topicCount).1 = .topics workspace.topicsUsed.dedup.length
  /-- Every endpoint is on the topic that has the key of its identity, and on no other. -/
  placed : ∀ endpoint identity, workspace.topicOf? endpoint = some identity →
    ∀ key, workspace.IsOn key endpoint ↔ key = identity.key
  /-- Endpoints are on the same topic exactly if they have its name, its mark and its type in common. -/
  shared : ∀ first second identity other, workspace.topicOf? first = some identity →
    workspace.topicOf? second = some other →
      ((∃ key, workspace.IsOn key first ∧ workspace.IsOn key second) ↔ identity = other)
  full : ∀ endpoint identity, workspace.topicOf? endpoint = some identity →
    IsFullTopic identity.topicName
  /-- No two identities with full names have the same key, whatever their types are called. -/
  keys : ∀ identity other : TopicIdentity, IsFullTopic identity.topicName →
    IsFullTopic other.topicName → identity.key = other.key → identity = other
  failed : ∀ action, (workspace.step action).1.failed = true →
    (workspace.step action).2.middleware.graph = workspace.middleware.graph

/-- After any calls, the graph tracks the topics that endpoints use, and no others. -/
theorem tracks_topics (actions : List Action) : (empty.run actions).TracksTopics := by
  have keyed : Keyed (empty.run actions) := keyed_empty.run actions
  constructor
  · exact congrArg Answer.topics keyed.topicCount_eq
  · exact fun _ _ uses => keyed.isOn_iff uses
  · intro first second identity other uses also
    constructor
    · rintro ⟨key, here, there⟩
      have same := ((keyed.isOn_iff uses key).1 here).symm.trans ((keyed.isOn_iff also key).1 there)
      exact TopicIdentity.eq_of_key (keyed.full uses) (keyed.full also) same
    · rintro rfl
      exact ⟨identity.key, (keyed.isOn_iff uses _).2 rfl, (keyed.isOn_iff also _).2 rfl⟩
  · exact fun _ _ uses => keyed.full uses
  · exact fun _ _ full also same => TopicIdentity.eq_of_key full also same
  · exact fun action => (Workspace.step_effect _ action).graph_of_failed

end Workspace

end PubSub
