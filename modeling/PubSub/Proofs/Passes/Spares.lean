import PubSub.Proofs.Client.Takes
import PubSub.Proofs.Passes.Lists
import PubSub.Proofs.Payloads.Deliveries

/-!
Whose queue changes.  Letting go of what is kept takes no message: an endpoint that is left has the queue that it had.
A take changes the queue of its own subscription, which loses the message in front at most, and no other.
-/

namespace PubSub

namespace Session

variable {session before between after : Session} {handles nodes subscriptions : List Nat}

theorem waiting_congr {subscription : SubscriptionObject} (forest : after.forest = before.forest)
    (same : ∀ state, before.subscriptionSlot subscription.handle = some state →
      after.middleware.transport.subscribers.get? state.endpoint =
        before.middleware.transport.subscribers.get? state.endpoint) :
    after.waiting subscription = before.waiting subscription := by
  have slot : after.subscriptionSlot subscription.handle = before.subscriptionSlot subscription.handle := by
    unfold subscriptionSlot
    rw [forest]
  unfold waiting
  rw [slot]
  cases there : before.subscriptionSlot subscription.handle with
  | none => rfl
  | some state =>
      dsimp only
      rw [same state there]

theorem fewer_finalize (held : Handle Resource) (parent : Option (Handle Resource))
    (state : Middleware × Nat) :
    state.1.transport.subscribers.Fewer id (finalize held parent state).1.transport.subscribers := by
  obtain ⟨middleware, faults⟩ := state
  obtain ⟨_, resource, _, _⟩ := held
  unfold finalize finiResource
  cases resource with
  | context slot => cases slot <;> exact .refl _
  | node slot => exact .refl _
  | publisher slot =>
      have dropped : ∀ publisher,
          (middleware.transport.dropPublisher publisher).subscribers = middleware.transport.subscribers := by
        intro publisher
        unfold Transport.dropPublisher
        split <;> rfl
      dsimp only
      unfold Middleware.finiPublisher
      rcases slot with _ | state <;> rcases nodeSlot parent with _ | _ | node
      case some.some.some =>
        change Arena.Fewer id _ (middleware.transport.dropPublisher state.endpoint).subscribers
        rw [dropped]
        exact .refl _
      all_goals exact .refl _
  | subscription slot =>
      dsimp only
      unfold Middleware.finiSubscription
      rcases slot with _ | state <;> rcases nodeSlot parent with _ | _ | node
      case some.some.some =>
        change Arena.Fewer id _ (middleware.transport.dropSubscriber state.endpoint).subscribers
        unfold Transport.dropSubscriber
        split
        · exact .refl _
        · exact middleware.transport.subscribers.fewer_erase _
      all_goals exact .refl _

theorem fewer_release (forest : Forest Resource) (handle : Nat) (state : Middleware × Nat) :
    state.1.transport.subscribers.Fewer id
      (forest.release finalize handle state).2.1.transport.subscribers := by
  -- By induction on the number of the handle: a parent has a smaller one.
  induction handle using Nat.strongRecOn generalizing forest state with
  | ind handle ih =>
      rw [Forest.release]
      cases forest.get? handle with
      | none => exact .refl _
      | some held =>
          dsimp only
          split
          · exact .refl _
          · have closed := fewer_finalize held (held.parent.bind forest.get?) state
            split
            · exact closed
            · split
              · rename_i parent _ older
                exact closed.trans (ih parent older _ _)
              · exact closed

structure Spares (before after : Session) : Prop where
  handles : before.forest.handles.Fewer Handle.content after.forest.handles
  endpoints : before.middleware.transport.subscribers.Fewer id after.middleware.transport.subscribers
  calls : after.calls = before.calls

theorem Spares.refl (session : Session) : session.Spares session :=
  ⟨.refl _, .refl _, rfl⟩

theorem Spares.trans (early : before.Spares between) (late : between.Spares after) :
    before.Spares after :=
  ⟨early.handles.trans late.handles, early.endpoints.trans late.endpoints,
    late.calls.trans early.calls⟩

theorem Spares.of_eq (forest : after.forest = before.forest) (middleware : after.middleware = before.middleware)
    (calls : after.calls = before.calls) : before.Spares after :=
  ⟨forest ▸ .refl _, middleware ▸ .refl _, calls⟩

theorem spares_foldl {change : Session → Nat → Session}
    (spares : ∀ (session : Session) item, session.Spares (change session item)) (items : List Nat)
    (session : Session) : session.Spares (items.foldl change session) := by
  induction items generalizing session with
  | nil => exact .refl session
  | cons item rest ih => exact (spares session item).trans (ih _)

theorem spares_releaseHandle (session : Session) (handle : Nat) :
    session.Spares (session.releaseHandle handle) :=
  ⟨(session.shrinks_releaseHandle handle).handles,
    fewer_release session.forest handle (session.middleware, session.faults), rfl⟩

theorem spares_releaseNode (session : Session) (index : Nat) :
    session.Spares (session.releaseNode index) := by
  unfold releaseNode
  split
  · exact .refl session
  · split
    · exact .of_eq rfl rfl rfl
    · have erased : session.Spares { session with nodes := session.nodes.erase index } :=
        .of_eq rfl rfl rfl
      exact (erased.trans (spares_releaseHandle _ _)).trans (spares_releaseHandle _ _)

theorem spares_releaseSubscription (session : Session) (index : Nat) :
    session.Spares (session.releaseSubscription index) := by
  unfold releaseSubscription
  split
  · exact .refl session
  · split
    · exact .of_eq rfl rfl rfl
    · have erased : session.Spares
          { session with subscriptions := session.subscriptions.erase index } := .of_eq rfl rfl rfl
      exact erased.trans (spares_releaseHandle _ _)

/--
A take changes nothing but the middleware, and there no endpoint but that of its subscription, whose queue loses what is
in front at most.
-/
theorem takeInto_changes {subscription : SubscriptionObject} {buffer : Layout}
    {ended : Except Stop (Option Layout)}
    (took : (Run.takeInto subscription buffer).run session = (ended, after)) :
    (∃ middleware, after = { session with middleware }) ∧
      (∃ front : Option Nat, session.waiting subscription = front.toList ++ after.waiting subscription) ∧
      ∀ endpoint, (∀ state, session.subscriptionSlot subscription.handle = some state →
          state.endpoint ≠ endpoint) →
        after.middleware.transport.subscribers.get? endpoint =
          session.middleware.transport.subscribers.get? endpoint := by
  rw [Run.run_takeInto, Request.outcome_take] at took
  rcases session.middleware.take_cases (some (session.subscriptionSlot subscription.handle))
      (some buffer) with
    ⟨fault, _, refused⟩ | ⟨_, idle⟩ |
      ⟨state, sample, taken, reason, ledger, _, there, front, left, told⟩
  · rw [refused] at took
    cases took
    exact ⟨⟨_, rfl⟩, ⟨none, rfl⟩, fun _ _ => rfl⟩
  · rw [idle] at took
    cases took
    exact ⟨⟨_, rfl⟩, ⟨none, rfl⟩, fun _ _ => rfl⟩
  · have slot : session.subscriptionSlot subscription.handle = some state := Option.some.inj there
    have others : ∀ endpoint, state.endpoint ≠ endpoint →
        taken.subscribers.get? endpoint = session.middleware.transport.subscribers.get? endpoint := by
      obtain ⟨held, queue, _, _, rfl⟩ := Transport.takeSample_eq_some front
      intro endpoint other
      exact (Arena.get?_modify _ _ _ _).trans (if_neg other.symm)
    generalize session.middleware.take _ _ = outcome at took left told
    obtain ⟨result, changed⟩ := outcome
    dsimp only at left told
    subst left
    rcases told with rfl | ⟨filled, rfl, _⟩
    · cases took
      exact ⟨⟨_, rfl⟩, ⟨some sample, waiting_of_takeSample slot front rfl rfl⟩,
        fun endpoint apart => others endpoint (apart state slot)⟩
    · cases took
      exact ⟨⟨_, rfl⟩, ⟨some sample, waiting_of_takeSample slot front rfl rfl⟩,
        fun endpoint apart => others endpoint (apart state slot)⟩

theorem endpoint_ne {first second : SubscriptionObject} {state other : SubscriptionState}
    (owned : session.Owned handles nodes subscriptions) (apart : first.handle ≠ second.handle)
    (here : session.subscriptionSlot first.handle = some state)
    (there : session.subscriptionSlot second.handle = some other) : state.endpoint ≠ other.endpoint := by
  obtain ⟨_, held, found, its, _⟩ := holds_of_subscriptionSlot here
  obtain ⟨_, elder, present, theirs, _⟩ := holds_of_subscriptionSlot there
  intro same
  refine apart (owned.intact.native.subscriptions.unique state.endpoint _ _ _ _
    (Forest.identity?_of_get? found) (Forest.identity?_of_get? present) ?_ ?_)
  · rw [Handle.content, its]
    rfl
  · rw [Handle.content, theirs, same]
    rfl

structure TakesFrom (session : Session) (subscription : SubscriptionObject) (after : Session) : Prop where
  own : ∃ front : Option Nat, session.waiting subscription = front.toList ++ after.waiting subscription
  others : ∀ other : SubscriptionObject, other.handle ≠ subscription.handle →
    after.waiting other = session.waiting other

theorem takesFrom_of_owned (owned : session.Owned handles nodes subscriptions)
    {subscription : SubscriptionObject} {buffer : Layout} {ended : Except Stop (Option Layout)}
    (took : (Run.takeInto subscription buffer).run session = (ended, after)) :
    session.TakesFrom subscription after := by
  obtain ⟨⟨middleware, rfl⟩, own, same⟩ := takeInto_changes took
  refine ⟨own, fun other apart => waiting_congr rfl (fun state slot => ?_)⟩
  exact same state.endpoint (fun here found => endpoint_ne owned apart.symm found slot)

end Session

end PubSub
