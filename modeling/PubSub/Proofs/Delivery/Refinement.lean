import PubSub.Proofs.Delivery.Bus
import PubSub.Proofs.Delivery.Ends
import PubSub.Proofs.Delivery.Topics
import PubSub.Proofs.Initialisation

/-!
A workspace that refines a bus: what waits for each subscription, and what each publisher retains, is what the
bus has.  Calls that neither fill nor empty a queue or a history keep this.
-/

namespace PubSub

namespace Receiver

variable {receiver : Receiver}

/-- What came was taken in order, or waits, or was dropped before its turn; keep-all drops nothing. -/
structure Faithful (receiver : Receiver) : Prop where
  sized : receiver.qos.Sized
  bounded : Transport.excess receiver.qos receiver.pending.length = 0
  ordered : (receiver.taken ++ receiver.pending).Sublist receiver.arrived
  complete : receiver.qos.history = .keepAll →
    receiver.taken ++ receiver.pending = receiver.arrived

theorem Faithful.pending_accept (faithful : receiver.Faithful) (payload : Payload) :
    (receiver.accept payload).pending = receiver.qos.newest (receiver.pending ++ [payload]) := by
  have bounded := faithful.bounded
  unfold accept isFull Qos.newest
  unfold Transport.excess at bounded ⊢
  rw [List.length_append, List.length_singleton]
  by_cases last : receiver.qos.history = .keepLast
  · have positive := faithful.sized.positive last
    rw [if_pos last] at bounded ⊢
    by_cases full : receiver.qos.depth.toNat ≤ receiver.pending.length
    -- No more waited than is kept, so at most one is too many.
    · have one : receiver.pending.length + 1 - receiver.qos.depth.toNat = 1 := by omega
      rw [one, List.drop_append_of_le_length (by omega), List.drop_one]
      simp [last, full]
    · have none : receiver.pending.length + 1 - receiver.qos.depth.toNat = 0 := by omega
      rw [none, List.drop_zero]
      simp [full]
  · rw [if_neg last, List.drop_zero]
    simp [last]

theorem Faithful.accept (faithful : receiver.Faithful) (payload : Payload) :
    (receiver.accept payload).Faithful := by
  have pending := faithful.pending_accept payload
  refine ⟨faithful.sized, ?_, ?_, ?_⟩
  · rw [pending]
    exact Qos.excess_newest _ _
  · have newer : ((receiver.taken ++ receiver.pending) ++ [payload]).Sublist
        (receiver.accept payload).arrived :=
      faithful.ordered.append (.refl _)
    rw [pending]
    rw [List.append_assoc] at newer
    exact ((List.Sublist.refl receiver.taken).append (Qos.newest_sublist _ _)).trans newer
  · intro all
    have history : receiver.qos.history = .keepAll := all
    have none : Transport.excess receiver.qos (receiver.pending ++ [payload]).length = 0 := by
      unfold Transport.excess
      rw [history]
      rfl
    rw [pending, Qos.newest_of_excess none, ← List.append_assoc]
    exact congrArg (· ++ [payload]) (faithful.complete history)

theorem Faithful.take (faithful : receiver.Faithful) {payload : Payload} {rest : List Payload}
    (front : receiver.pending = payload :: rest) : (receiver.take payload).Faithful := by
  have moved : (receiver.take payload).taken ++ (receiver.take payload).pending =
      receiver.taken ++ receiver.pending := by
    unfold Receiver.take
    rw [front, List.append_assoc]
    rfl
  have bounded := faithful.bounded
  refine ⟨faithful.sized, ?_, ?_, ?_⟩
  · unfold Receiver.take
    unfold Transport.excess at bounded ⊢
    rw [front] at bounded
    rw [front]
    dsimp only [List.tail_cons]
    rw [List.length_cons] at bounded
    by_cases last : receiver.qos.history = .keepLast
    · rw [if_pos last] at bounded ⊢
      omega
    · exact if_neg last
  · rw [moved]
    exact faithful.ordered
  · intro all
    rw [moved]
    exact faithful.complete all

end Receiver

section Ends

variable {kinds : Table String MessageKind} {transport after : Transport} {name : String}

/-- A publisher is a sender: it has its channel and its kind, and retains what the sender does. -/
structure Sends (kinds : Table String MessageKind) (transport : Transport) (name : String)
    (state : PublisherState) (sender : Sender) : Prop where
  key : state.key = sender.channel.key
  kind : state.kind = sender.kind
  buffer : kinds.get? name = some sender.kind
  retains : transport.Retains state.endpoint sender.qos sender.history

/-- A subscription is a receiver: it has its channel, and what waits for it is what waits there. -/
structure Receives (kinds : Table String MessageKind) (transport : Transport) (name : String)
    (state : SubscriptionState) (receiver : Receiver) : Prop where
  key : state.key = receiver.channel.key
  buffer : kinds.get? name = some state.kind
  holds : transport.Holds state.endpoint receiver.qos receiver.pending
  faithful : receiver.Faithful

theorem Sends.untouched {state : PublisherState} {sender : Sender}
    (sends : Sends kinds transport name state sender) (untouched : transport.Untouched after)
    (kept : ∀ held, transport.publishers.get? state.endpoint = some held →
      after.publishers.get? state.endpoint = some held) : Sends kinds after name state sender :=
  ⟨sends.key, sends.kind, sends.buffer, sends.retains.untouched untouched kept⟩

theorem Receives.untouched {state : SubscriptionState} {receiver : Receiver}
    (receives : Receives kinds transport name state receiver) (untouched : transport.Untouched after)
    (kept : ∀ held, transport.subscribers.get? state.endpoint = some held →
      after.subscribers.get? state.endpoint = some held) : Receives kinds after name state receiver :=
  ⟨receives.key, receives.buffer, receives.holds.untouched untouched kept, receives.faithful⟩

theorem kind_of_set {State : Type} {table : Table String State} (free : table.get? name = none)
    (kind : MessageKind) {other : String} {state : State} (found : table.get? other = some state) :
    (kinds.set name kind).get? other = kinds.get? other := by
  have different : other ≠ name := by
    rintro rfl
    rw [free] at found
    cases found
  rw [kinds.get?_set, if_neg different]

end Ends

namespace Workspace

/-- A workspace has the publishers and the subscriptions of a bus, with what they have in store. -/
structure Refines (workspace : Workspace) (bus : Bus) : Prop where
  sound : workspace.middleware.transport.Sound (fun _ => 0)
  whole : workspace.middleware.transport.store.Whole
  senders : workspace.publishers.Alike
    (Sends workspace.publisherKinds workspace.middleware.transport) bus.senders
  receivers : workspace.subscriptions.Alike
    (Receives workspace.subscriptionKinds workspace.middleware.transport) bus.receivers
  publishers : Registered (workspace.publishers.ends PublisherState.place)
    (fun key => (workspace.middleware.topic key).publishers)
    workspace.middleware.transport.publishers.contains
    workspace.middleware.transport.publishers.next
  subscribers : Registered (workspace.subscriptions.ends SubscriptionState.place)
    (fun key => (workspace.middleware.topic key).subscribers)
    workspace.middleware.transport.subscribers.contains
    workspace.middleware.transport.subscribers.next

theorem refines_empty : Refines .empty .empty := by
  refine ⟨?_, ?_, Table.alike_empty _, Table.alike_empty _, ?_, ?_⟩
  · exact Arena.owned_empty _ (fun _ => rfl)
  · intro sample held found
    cases found
  · exact ⟨fun _ => rfl, List.nodup_nil, fun _ _ member => nomatch member⟩
  · exact ⟨fun _ => rfl, List.nodup_nil, fun _ _ member => nomatch member⟩

end Workspace

/--
A call that leaves samples and endpoints alone and ends no context; the lists of topics may lose what is gone.
-/
structure Middleware.Idle (before after : Middleware) : Prop where
  samples : after.transport.store.samples = before.transport.store.samples
  publishers : after.transport.publishers = before.transport.publishers
  subscribers : after.transport.subscribers = before.transport.subscribers
  valid : ∀ context, before.transport.isValid context = true → after.transport.isValid context = true
  listedPublishers : ∀ key,
    (after.topic key).publishers.filter before.transport.publishers.contains =
        (before.topic key).publishers.filter before.transport.publishers.contains ∧
      ∀ index ∈ (after.topic key).publishers, index ∈ (before.topic key).publishers
  listedSubscribers : ∀ key,
    (after.topic key).subscribers.filter before.transport.subscribers.contains =
        (before.topic key).subscribers.filter before.transport.subscribers.contains ∧
      ∀ index ∈ (after.topic key).subscribers, index ∈ (before.topic key).subscribers

namespace Middleware

variable {before after : Middleware}

theorem Idle.of_same (samples : after.transport.store.samples = before.transport.store.samples)
    (publishers : after.transport.publishers = before.transport.publishers)
    (subscribers : after.transport.subscribers = before.transport.subscribers)
    (valid : ∀ context, before.transport.isValid context = true →
      after.transport.isValid context = true) (graph : after.graph = before.graph) :
    Idle before after := by
  have topics : ∀ key, after.topic key = before.topic key := by
    intro key
    unfold topic
    rw [graph]
  refine ⟨samples, publishers, subscribers, valid, fun key => ?_, fun key => ?_⟩
  · rw [topics]
    exact ⟨rfl, fun _ member => member⟩
  · rw [topics]
    exact ⟨rfl, fun _ member => member⟩

theorem Idle.of_eq (transport : after.transport = before.transport) (graph : after.graph = before.graph) :
    Idle before after := by
  apply Idle.of_same _ _ _ _ graph
  · rw [transport]
  · rw [transport]
  · rw [transport]
  · rw [transport]
    exact fun _ valid => valid

theorem idle_withLedger (middleware : Middleware) (ledger : Ledger) :
    Idle middleware (middleware.withLedger ledger) :=
  .of_same rfl rfl rfl (fun _ valid => valid) rfl

theorem idle_pruneGraph (middleware : Middleware) : Idle middleware middleware.pruneGraph :=
  ⟨rfl, rfl, rfl, fun _ valid => valid, middleware.publishers_pruneGraph,
    middleware.subscribers_pruneGraph⟩

theorem idle_openContext (middleware : Middleware) (arguments : Arguments) :
    Idle middleware (middleware.withTransport (middleware.transport.openContext arguments).2) := by
  refine .of_same rfl rfl rfl (fun context valid => ?_) rfl
  have old : context ≠ middleware.transport.contexts.next := by
    rintro rfl
    unfold Transport.isValid at valid
    rw [Arena.get?_next] at valid
    cases valid
  unfold Transport.isValid Transport.openContext withTransport
  dsimp only
  rw [Arena.get?_insert, if_neg old]
  exact valid

end Middleware

namespace Workspace

variable {workspace after : Workspace} {bus : Bus}

theorem Refines.idle (refines : Refines workspace bus)
    (idle : workspace.middleware.Idle after.middleware)
    (publishers : after.publishers = workspace.publishers)
    (subscriptions : after.subscriptions = workspace.subscriptions)
    (publisherKinds : after.publisherKinds = workspace.publisherKinds)
    (subscriptionKinds : after.subscriptionKinds = workspace.subscriptionKinds) :
    Refines after bus := by
  have sound : after.middleware.transport.Sound (fun _ => 0) := by
    unfold Transport.Sound Transport.historyShares Transport.queueShares SampleStore.Sound
    rw [idle.samples, idle.publishers, idle.subscribers]
    exact refines.sound
  have agrees : workspace.middleware.transport.store.Agrees after.middleware.transport.store := by
    intro sample held found same there
    rw [idle.samples, found, Option.some.injEq] at there
    rw [there]
  have untouched : Transport.Untouched workspace.middleware.transport after.middleware.transport :=
    ⟨sound, agrees, idle.valid⟩
  refine ⟨sound, ?_, ?_, ?_, ?_, ?_⟩
  · intro sample held found
    rw [idle.samples] at found
    exact refines.whole sample held found
  · rw [publishers, publisherKinds]
    refine refines.senders.mono (fun name state sender _ sends => sends.untouched untouched ?_)
    rw [idle.publishers]
    exact fun _ found => found
  · rw [subscriptions, subscriptionKinds]
    refine refines.receivers.mono
      (fun name state receiver _ receives => receives.untouched untouched ?_)
    rw [idle.subscribers]
    exact fun _ found => found
  · rw [publishers, idle.publishers]
    exact refines.publishers.relist (fun key => (idle.listedPublishers key).1)
      (fun key => (idle.listedPublishers key).2)
  · rw [subscriptions, idle.subscribers]
    exact refines.subscribers.relist (fun key => (idle.listedSubscribers key).1)
      (fun key => (idle.listedSubscribers key).2)

end Workspace

end PubSub
