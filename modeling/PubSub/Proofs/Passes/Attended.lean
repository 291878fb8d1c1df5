import PubSub.Proofs.Passes.Follows
import PubSub.Proofs.Passes.Hearing

/-!
Subscriptions that are attended.  Nothing fails when such a subscription is visited: its context runs, its messages
can be copied, its callback is not running and only listens.  What is in front, if anything is, is handed to the
listener, and all else stays as it is, so that every subscription that was attended still is.
-/

namespace PubSub

theorem SampleStore.Proper.later {store after : SampleStore} (proper : store.Proper) (later : store.Later after) :
    after.Proper := by
  intro sample held found
  obtain ⟨before, there, kind, content⟩ := later sample held found
  rw [← kind, ← content]
  exact proper sample before there

theorem SubscriptionObject.eq_of_bare {held other : SubscriptionObject} (same : other.bare = held.bare) :
    other = { held with owners := other.owners } := by
  obtain ⟨_, _, _, _, _, _⟩ := held
  obtain ⟨_, _, _, _, _, _⟩ := other
  cases same
  rfl

/-- A callback of a subscription does nothing but what a listener says, whoever owns the subscription. -/
def Listens (callback : Callback) (listener : Listener) (index : Nat) (held : SubscriptionObject) : Prop :=
  ∀ owners message later, (callback { held with owners } message).run later =
    ((listener index message later.memory).1.mapError Stop.raised,
      later.withMemory (listener index message later.memory).2)

namespace Session

variable {session before after : Session} {callback : Callback} {listener : Listener} {index : Nat}
  {held : SubscriptionObject} {state : SubscriptionState}

/-- Samples are kept as long as they wait and hold values of their kinds, and each subscription has its own endpoint. -/
structure Fit (session : Session) : Prop where
  sound : session.middleware.transport.Sound (fun _ => 0)
  proper : session.middleware.transport.store.Proper
  apart : ∀ first second here there (state other : SubscriptionState),
    session.subscriptions.get? first = some here → session.subscriptions.get? second = some there →
      session.subscriptionSlot here.handle = some state → session.subscriptionSlot there.handle = some other →
        state.endpoint = other.endpoint → first = second

/-- Nothing fails when a subscription is visited, whatever waits for it. -/
structure Attends (session : Session) (callback : Callback) (listener : Listener) (index : Nat)
    (held : SubscriptionObject) (state : SubscriptionState) : Prop where
  found : session.subscriptions.get? index = some held
  idle : held.busy = false
  slot : session.subscriptionSlot held.handle = some state
  kind : state.kind = held.kind
  runs : ∃ endpoint, session.middleware.transport.subscribers.get? state.endpoint = some endpoint ∧
    session.middleware.transport.isValid endpoint.context = true
  copies : ∀ sample ∈ session.waiting held,
    (session.middleware.ledger.copy held.kind
      (session.middleware.transport.store.content held.kind sample) held.kind.fresh).1 ≠ none
  listens : Listens callback listener index held

def Attended (session : Session) (callback : Callback) (listener : Listener) (index : Nat) : Prop :=
  ∃ held state, session.Attends callback listener index held state

theorem slot_of_forest (same : after.forest = before.forest) (handle : Nat) :
    after.subscriptionSlot handle = before.subscriptionSlot handle := by
  unfold subscriptionSlot
  rw [same]

theorem exists_of_mem_waiting {sample : Nat} (waits : sample ∈ session.waiting held) :
    ∃ state endpoint, session.subscriptionSlot held.handle = some state ∧
      session.middleware.transport.subscribers.get? state.endpoint = some endpoint ∧
      sample ∈ endpoint.queue.waiting := by
  unfold waiting at waits
  cases slot : session.subscriptionSlot held.handle with
  | none =>
      rw [slot] at waits
      cases waits
  | some state =>
      rw [slot] at waits
      dsimp only at waits
      cases there : session.middleware.transport.subscribers.get? state.endpoint with
      | none =>
          rw [there] at waits
          cases waits
      | some endpoint =>
          rw [there] at waits
          exact ⟨state, endpoint, rfl, there, waits⟩

section Follows

variable (follows : before.Follows after)
include follows

theorem Follows.found (found : before.subscriptions.get? index = some held) :
    ∃ owners, after.subscriptions.get? index = some { held with owners } := by
  have same := follows.objects index
  rw [found, Option.map_some, Option.map_eq_some_iff] at same
  obtain ⟨other, there, bare⟩ := same
  exact ⟨other.owners, there.trans (congrArg some (SubscriptionObject.eq_of_bare bare))⟩

theorem Follows.found_before (found : after.subscriptions.get? index = some held) :
    ∃ owners, before.subscriptions.get? index = some { held with owners } := by
  have same := (follows.objects index).symm
  rw [found, Option.map_some, Option.map_eq_some_iff] at same
  obtain ⟨other, there, bare⟩ := same
  exact ⟨other.owners, there.trans (congrArg some (SubscriptionObject.eq_of_bare bare))⟩

theorem Follows.waits {sample : Nat} (known : before.subscriptionSlot held.handle = some state)
    {endpoint : SubscriberEnd}
    (there : before.middleware.transport.subscribers.get? state.endpoint = some endpoint)
    (waits : sample ∈ after.waiting held) : sample ∈ before.waiting held := by
  obtain ⟨left, present, _, suffix⟩ := follows.middleware.endpoints _ _ there
  have slot := (slot_of_forest follows.forest held.handle).trans known
  rw [waiting_of_endpoint slot present] at waits
  rw [waiting_of_endpoint known there]
  exact suffix.subset waits

theorem Follows.told (sound : after.middleware.transport.Sound (fun _ => 0)) {sample : Nat}
    (waits : sample ∈ after.waiting held) :
    after.middleware.transport.store.payload? sample = before.middleware.transport.store.payload? sample ∧
      ∀ kind, after.middleware.transport.store.content kind sample =
        before.middleware.transport.store.content kind sample := by
  obtain ⟨_, _, _, there, member⟩ := exists_of_mem_waiting waits
  obtain ⟨stored, present⟩ := sound.exists_of_waiting there member
  obtain ⟨old, was, _, same⟩ := follows.middleware.later sample stored present
  unfold SampleStore.payload? SampleStore.content
  rw [present, was, Option.map_some, Option.map_some]
  exact ⟨congrArg (fun content => some content.payload) same.symm, fun _ => same.symm⟩

theorem Follows.pending (sound : after.middleware.transport.Sound (fun _ => 0))
    (there : after.subscriptions.get? index = some held) {samples : List Nat}
    (waits : after.waiting held = samples) :
    after.pending index = samples.filterMap before.middleware.transport.store.payload? := by
  rw [pending_of_found there, ← waits]
  exact List.filterMap_congr (fun sample member => (follows.told sound member).1)

theorem Follows.fit (fit : before.Fit) : after.Fit where
  sound := follows.middleware.sound fit.sound
  proper := fit.proper.later follows.middleware.later
  apart first second here there state other found present slot also same := by
    obtain ⟨_, early⟩ := follows.found_before found
    obtain ⟨_, late⟩ := follows.found_before present
    rw [slot_of_forest follows.forest] at slot also
    exact fit.apart first second _ _ state other early late slot also same

theorem Follows.attended (fit : before.Fit) (attended : before.Attended callback listener index) :
    after.Attended callback listener index := by
  obtain ⟨held, state, attends⟩ := attended
  obtain ⟨owners, found⟩ := follows.found attends.found
  obtain ⟨endpoint, there, runs⟩ := attends.runs
  obtain ⟨left, present, same, _⟩ := follows.middleware.endpoints _ _ there
  refine ⟨{ held with owners }, state, found, attends.idle,
    (slot_of_forest follows.forest held.handle).trans attends.slot, attends.kind, ⟨left, present, ?_⟩,
    fun sample waits => ?_, fun owners => attends.listens owners⟩
  · rw [same, follows.middleware.runs]
    exact runs
  · have told := (follows.told (follows.middleware.sound fit.sound) waits).2 held.kind
    dsimp only
    rw [told, Ledger.fst_copy_of_refusals follows.middleware.refusals]
    exact attends.copies sample (follows.waits attends.slot there waits)

end Follows

end Session

end PubSub
