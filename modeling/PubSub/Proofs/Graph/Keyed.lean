import PubSub.Proofs.Calls.Queues
import PubSub.Proofs.Graph.Keys

/-!
Endpoints and their keys.  Along every run, an endpoint that is there has a full topic name, and its key is that of its
name, its profile and its kind.
-/

namespace PubSub

open Name (IsFullTopic)

theorem Transport.qos_remembering (sample : Nat) (state : PublisherEnd) :
    (remembering sample state).qos = state.qos := by
  unfold remembering
  split <;> rfl

namespace Middleware

variable {middleware : Middleware} {node : Option (Slot NodeState)} {support : Option TypeSupport}
  {topic : Option Bytes} {options : Option Qos}

theorem resolveTopic_full {owner : NodeState} {name full : Bytes}
    (resolved : (middleware.resolveTopic owner name).1 = .ok full) : IsFullTopic full := by
  unfold resolveTopic at resolved
  dsimp only at resolved
  generalize (if owner.useArguments then _ else _) = rules at resolved
  cases outcome : (owner.owner.resolve rules name).result with
  | error fault =>
      rw [outcome] at resolved
      cases resolved
  | ok reached =>
      rw [outcome] at resolved
      cases resolved
      exact Name.Owner.resolve_full outcome

theorem initPublisher_full {slot : Option (Slot PublisherState)} {state : PublisherState}
    (made : (middleware.initPublisher slot node support topic options).1 = .ok state) :
    IsFullTopic state.topicName := by
  unfold initPublisher at made
  split at made
  · split at made
    · cases made
    · split at made
      · cases made
      · split at made
        · cases made
        · rename_i name qos kind unused owner _
          generalize resolution : middleware.resolveTopic owner _ = outcome at made
          rcases outcome with ⟨fault | full, resolved⟩
          · cases made
          · cases made
            exact resolveTopic_full (congrArg Prod.fst resolution)
  · cases made

theorem initSubscription_full {slot : Option (Slot SubscriptionState)} {state : SubscriptionState}
    (made : (middleware.initSubscription slot node support topic options).1 = .ok state) :
    IsFullTopic state.topicName := by
  unfold initSubscription at made
  split at made
  · split at made
    · cases made
    · split at made
      · cases made
      · split at made
        · cases made
        · rename_i name qos kind unused owner _
          generalize resolution : middleware.resolveTopic owner _ = outcome at made
          rcases outcome with ⟨fault | full, resolved⟩
          · cases made
          · cases made
            exact resolveTopic_full (congrArg Prod.fst resolution)
  · cases made

end Middleware

namespace Workspace

variable {workspace after : Workspace} {name : String}

def Action.bringsEndpoint : Action → Bool
  | .initPublisher _ _ _ _ _ => true
  | .initSubscription _ _ _ _ _ => true
  | _ => false

structure Named (workspace : Workspace) : Prop where
  publishers : ∀ name state, workspace.publishers.get? name = some state → IsFullTopic state.topicName
  subscriptions : ∀ name state, workspace.subscriptions.get? name = some state →
    IsFullTopic state.topicName

theorem named_empty : Named .empty :=
  ⟨fun _ _ found => (nomatch found), fun _ _ found => nomatch found⟩

theorem Effect.named {action : Action} {answer : Answer}
    (effect : workspace.Effect action answer after) (quiet : action.bringsEndpoint = false)
    (named : Named workspace) : Named after := by
  cases effect with
  | publisherMade => cases quiet
  | subscriptionMade => cases quiet
  | publisherReleased gone =>
      exact ⟨fun name state found => named.publishers name state (Table.get?_of_erase found),
        named.subscriptions⟩
  | subscriptionReleased gone =>
      exact ⟨named.publishers,
        fun name state found => named.subscriptions name state (Table.get?_of_erase found)⟩
  | _ => exact ⟨named.publishers, named.subscriptions⟩

theorem Named.initPublisher (named : Named workspace) (publisher node : Option String)
    (support : Option TypeSupport) (topic : Option Bytes) (options : Option Qos) :
    Named (workspace.step (.initPublisher publisher node support topic options)).2 := by
  unfold Workspace.step
  dsimp only
  cases outcome : workspace.middleware.initPublisher (slot workspace.publishers publisher)
      (slot workspace.nodes node) support topic options with
  | mk result changed =>
      cases result with
      | error fault => exact ⟨named.publishers, named.subscriptions⟩
      | ok state =>
          have full := Middleware.initPublisher_full (congrArg Prod.fst outcome)
          refine ⟨fun name held found => ?_, named.subscriptions⟩
          cases publisher with
          | none => exact named.publishers name held found
          | some made =>
              dsimp only [fillSlot] at found
              rw [Table.get?_set] at found
              split at found
              · cases found
                exact full
              · exact named.publishers name held found

theorem Named.initSubscription (named : Named workspace) (subscription node : Option String)
    (support : Option TypeSupport) (topic : Option Bytes) (options : Option Qos) :
    Named (workspace.step (.initSubscription subscription node support topic options)).2 := by
  unfold Workspace.step
  dsimp only
  cases outcome : workspace.middleware.initSubscription (slot workspace.subscriptions subscription)
      (slot workspace.nodes node) support topic options with
  | mk result changed =>
      cases result with
      | error fault => exact ⟨named.publishers, named.subscriptions⟩
      | ok state =>
          have full := Middleware.initSubscription_full (congrArg Prod.fst outcome)
          refine ⟨named.publishers, fun name held found => ?_⟩
          cases subscription with
          | none => exact named.subscriptions name held found
          | some made =>
              dsimp only [fillSlot] at found
              rw [Table.get?_set] at found
              split at found
              · cases found
                exact full
              · exact named.subscriptions name held found

theorem Named.step (named : Named workspace) (action : Action) : Named (workspace.step action).2 := by
  cases action with
  | initPublisher publisher node support topic options =>
      exact named.initPublisher publisher node support topic options
  | initSubscription subscription node support topic options =>
      exact named.initSubscription subscription node support topic options
  | _ => exact (workspace.step_effect _).named rfl named

theorem Named.run (named : Named workspace) (actions : List Action) : Named (workspace.run actions) :=
  run_keeps (fun _ action named => named.step action) named actions

def publisherQos? (workspace : Workspace) (state : PublisherState) : Option Qos :=
  (workspace.middleware.transport.publishers.get? state.endpoint).map PublisherEnd.qos

def subscriptionQos? (workspace : Workspace) (state : SubscriptionState) : Option Qos :=
  (workspace.middleware.transport.subscribers.get? state.endpoint).map SubscriberEnd.qos

/-- A publisher after a call was there with the same profile, or is new with the key of its own. -/
theorem Effect.publisherQos? {action : Action} {answer : Answer}
    (effect : workspace.Effect action answer after) (wired : Wired workspace) {state : PublisherState}
    (found : after.publishers.get? name = some state) :
    workspace.publishers.get? name = some state ∧
        after.publisherQos? state = workspace.publisherQos? state ∨
      ∃ qos, after.publisherQos? state = some qos ∧
        state.key = Middleware.topicKey state.topicName qos.plainTopic state.kind := by
  cases effect with
  | noted unmoved noted =>
      obtain ⟨reason, ledger, rfl, _⟩ := noted
      exact .inl ⟨found, rfl⟩
  | @publisherMade made node kind topic qos owner changed topicName free there runs noted =>
      obtain ⟨reason, ledger, rfl, _⟩ := noted
      have inserted := workspace.middleware.transport.publishers.get?_insert
        { qos := qos.resolve, context := owner.context, history := [] } state.endpoint
      dsimp only at found
      rw [Table.get?_set] at found
      by_cases mine : name = made
      · rw [if_pos mine, Option.some.injEq] at found
        subst found
        exact .inr ⟨qos.resolve,
          congrArg (Option.map PublisherEnd.qos) (inserted.trans (if_pos rfl)), rfl⟩
      · rw [if_neg mine] at found
        have old : state.endpoint < workspace.middleware.transport.publishers.next :=
          wired.publishers.lt_next (Registered.mem_ends found)
        exact .inl ⟨found, congrArg (Option.map PublisherEnd.qos)
          (inserted.trans (if_neg (Nat.ne_of_lt old)))⟩
  | @publisherReleased gone node released known =>
      dsimp only at found
      rw [Table.get?_erase] at found
      by_cases mine : name = gone
      · rw [if_pos mine] at found
        cases found
      · rw [if_neg mine] at found
        have apart : state.endpoint ≠ released.endpoint :=
          fun same => mine (wired.publishers.name_eq known found same)
        have kept := workspace.middleware.transport.get?_dropPublisher released.endpoint state.endpoint
        rw [if_neg apart] at kept
        exact .inl ⟨found, congrArg (Option.map PublisherEnd.qos) kept⟩
  | @published sender datum its held reason first last content known endpoint runs =>
      have sent := fun store => ((workspace.middleware.transport.withStore store).publish_ends
        (workspace.middleware.topic its.key) endpoint workspace.middleware.transport.store.samples.next
        (wired.subscribers.nodup_receivers its.key held.qos)).1 state.endpoint
      refine .inl ⟨found, (congrArg (Option.map PublisherEnd.qos) (sent _)).trans ?_⟩
      by_cases mine : state.endpoint = its.endpoint
      · rw [if_pos mine]
        unfold publisherQos?
        rw [mine, endpoint]
        exact congrArg some (Transport.qos_remembering _ held)
      · rw [if_neg mine]
        rfl
  | subscriptionMade topicName free there runs noted =>
      obtain ⟨reason, ledger, rfl, _⟩ := noted
      refine .inl ⟨found, ?_⟩
      exact congrArg (fun arena => (arena.get? state.endpoint).map PublisherEnd.qos)
        (Transport.addSubscriber_ends (workspace.middleware.recount reason ledger).transport _ _ _).1
  | subscriptionReleased gone =>
      refine .inl ⟨found, ?_⟩
      exact congrArg (fun arena => (arena.get? state.endpoint).map PublisherEnd.qos)
        (workspace.middleware.transport.publishers_dropSubscriber _)
  | took known endpoint runs front =>
      obtain ⟨_, _, _, _, rfl⟩ := Transport.takeSample_eq_some front
      exact .inl ⟨found, rfl⟩
  | _ => exact .inl ⟨found, rfl⟩

theorem Effect.subscriptionQos? {action : Action} {answer : Answer}
    (effect : workspace.Effect action answer after) (wired : Wired workspace)
    {state : SubscriptionState} (found : after.subscriptions.get? name = some state) :
    workspace.subscriptions.get? name = some state ∧
        after.subscriptionQos? state = workspace.subscriptionQos? state ∨
      ∃ qos, after.subscriptionQos? state = some qos ∧
        state.key = Middleware.topicKey state.topicName qos.plainTopic state.kind := by
  cases effect with
  | noted unmoved noted =>
      obtain ⟨reason, ledger, rfl, _⟩ := noted
      exact .inl ⟨found, rfl⟩
  | publisherMade topicName free there runs noted =>
      obtain ⟨reason, ledger, rfl, _⟩ := noted
      exact .inl ⟨found, rfl⟩
  | publisherReleased known =>
      refine .inl ⟨found, ?_⟩
      exact congrArg (fun arena => (arena.get? state.endpoint).map SubscriberEnd.qos)
        (workspace.middleware.transport.subscribers_dropPublisher _)
  | @published sender datum its held reason first last content known endpoint runs =>
      have sent := fun store => ((workspace.middleware.transport.withStore store).publish_ends
        (workspace.middleware.topic its.key) endpoint workspace.middleware.transport.store.samples.next
        (wired.subscribers.nodup_receivers its.key held.qos)).2.1 state.endpoint
      refine .inl ⟨found, (congrArg (Option.map SubscriberEnd.qos) (sent _)).trans ?_⟩
      split
      · exact Option.map_map _ _ _
      · rfl
  | @subscriptionMade made node kind topic qos owner changed topicName free there runs noted =>
      obtain ⟨reason, ledger, rfl, _⟩ := noted
      have added := fun topic => (Transport.addSubscriber_ends
        (workspace.middleware.recount reason ledger).transport topic qos.resolve owner.context).2
          state.endpoint
      dsimp only at found
      rw [Table.get?_set] at found
      by_cases mine : name = made
      · rw [if_pos mine, Option.some.injEq] at found
        subst found
        exact .inr ⟨qos.resolve,
          congrArg (Option.map SubscriberEnd.qos) ((added _).trans (if_pos rfl)), rfl⟩
      · rw [if_neg mine] at found
        have old : state.endpoint < workspace.middleware.transport.subscribers.next :=
          wired.subscribers.lt_next (Registered.mem_ends found)
        exact .inl ⟨found, congrArg (Option.map SubscriberEnd.qos)
          ((added _).trans (if_neg (Nat.ne_of_lt old)))⟩
  | @subscriptionReleased gone node released known =>
      dsimp only at found
      rw [Table.get?_erase] at found
      by_cases mine : name = gone
      · rw [if_pos mine] at found
        cases found
      · rw [if_neg mine] at found
        have apart : state.endpoint ≠ released.endpoint :=
          fun same => mine (wired.subscribers.name_eq known found same)
        have kept := workspace.middleware.transport.get?_dropSubscriber released.endpoint state.endpoint
        rw [if_neg apart] at kept
        exact .inl ⟨found, congrArg (Option.map SubscriberEnd.qos) kept⟩
  | @took taker withBuffer answer its held sample taken reason first last known endpoint runs front =>
      obtain ⟨_, queue, _, _, rfl⟩ := Transport.takeSample_eq_some front
      have moved := workspace.middleware.transport.subscribers.get?_modify its.endpoint state.endpoint
        (fun old => { old with queue })
      refine .inl ⟨found, (congrArg (Option.map SubscriberEnd.qos) moved).trans ?_⟩
      by_cases mine : state.endpoint = its.endpoint
      · rw [if_pos mine, ← mine]
        exact Option.map_map _ _ _
      · rw [if_neg mine]
        rfl
  | _ => exact .inl ⟨found, rfl⟩

structure Keyed (workspace : Workspace) : Prop where
  wired : Wired workspace
  named : Named workspace
  publishers : ∀ name state, workspace.publishers.get? name = some state →
    ∃ qos, workspace.publisherQos? state = some qos ∧
      state.key = Middleware.topicKey state.topicName qos.plainTopic state.kind
  subscriptions : ∀ name state, workspace.subscriptions.get? name = some state →
    ∃ qos, workspace.subscriptionQos? state = some qos ∧
      state.key = Middleware.topicKey state.topicName qos.plainTopic state.kind

theorem keyed_empty : Keyed .empty :=
  ⟨wired_empty, named_empty, fun _ _ found => (nomatch found), fun _ _ found => nomatch found⟩

theorem Keyed.step (keyed : Keyed workspace) (action : Action) : Keyed (workspace.step action).2 := by
  have effect := workspace.step_effect action
  refine ⟨keyed.wired.step action, keyed.named.step action, ?_, ?_⟩
  · intro name state found
    rcases effect.publisherQos? keyed.wired found with ⟨before, same⟩ | new
    · rw [same]
      exact keyed.publishers name state before
    · exact new
  · intro name state found
    rcases effect.subscriptionQos? keyed.wired found with ⟨before, same⟩ | new
    · rw [same]
      exact keyed.subscriptions name state before
    · exact new

theorem Keyed.run (keyed : Keyed workspace) (actions : List Action) : Keyed (workspace.run actions) :=
  run_keeps (fun _ action keyed => keyed.step action) keyed actions

end Workspace

end PubSub
