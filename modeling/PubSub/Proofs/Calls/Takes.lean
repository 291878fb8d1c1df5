import PubSub.Proofs.Calls.Contents
import PubSub.Proofs.Calls.Queues
import PubSub.Proofs.Delivery.Run

/-!
Takes, and the messages they lose.  A take that comes to the queue removes the oldest message before it is copied:
it tells the message, or the copy is refused and the message is lost.  Every other failure leaves the queue alone.
-/

namespace PubSub

namespace Middleware

/-- A take fails before it comes to the queue, finds nothing there, or removes the oldest sample. -/
theorem take_cases (middleware : Middleware) (slot : Option (Slot SubscriptionState))
    (message : Option Layout) :
    (∃ fault, fault.status ≠ .error ∧ middleware.take slot message = middleware.fail fault) ∨
      message ≠ none ∧ middleware.take slot message = (.ok none, middleware) ∨
      ∃ state sample taken reason ledger, message ≠ none ∧ slot = some (some state) ∧
        middleware.transport.takeSample state.endpoint = some (sample, taken) ∧
        (middleware.take slot message).2 =
          (middleware.withTransport (taken.withStore (taken.store.release sample))).recount
            reason ledger ∧
        ((middleware.take slot message).1 = .error (.messageNotCopied state.kind.typeName) ∨
          ∃ filled, (middleware.take slot message).1 = .ok (some filled) ∧
            ∀ stored, taken.store.samples.get? sample = some stored → stored.content.Whole →
              filled.payload = stored.content.payload) := by
  unfold take
  cases valid : middleware.validSubscription? slot with
  | none => exact .inl ⟨.subscriptionNotValid, nofun, rfl⟩
  | some state =>
      have there := (validSubscription?_cases valid).1
      cases message with
      | none => exact .inl ⟨.missingMessage, nofun, rfl⟩
      | some layout =>
          refine .inr ?_
          dsimp only
          cases took : middleware.transport.takeSample state.endpoint with
          | none => exact .inl ⟨nofun, rfl⟩
          | some front =>
              obtain ⟨sample, taken⟩ := front
              refine .inr ⟨state, sample, taken, ?_⟩
              dsimp only
              generalize copy : taken.store.ledger.copy state.kind _ layout = outcome
              obtain ⟨copied, ledger⟩ := outcome
              dsimp only
              have samples := taken.store.samples_release ledger sample
              generalize ({ taken.store with ledger } : SampleStore).release sample = released
                at samples
              obtain ⟨last, left⟩ := released
              dsimp only at samples
              subst left
              cases copied with
              | none => exact ⟨_, last, nofun, there, took, rfl, .inl rfl⟩
              | some filled =>
                  refine ⟨_, last, nofun, there, took, rfl, .inr ⟨filled, rfl, ?_⟩⟩
                  intro stored found whole
                  rw [found] at copy
                  exact (Ledger.copy_eq_some whole copy).2

end Middleware

namespace Workspace

variable {workspace after : Workspace} {name : String} {held : SubscriberEnd}

theorem waiting_eq (workspace : Workspace) (name : String) :
    workspace.waiting name =
      (workspace.subscriberOf name).map (fun held =>
        held.queue.waiting.map workspace.middleware.transport.store.payload?) := by
  unfold waiting subscriberOf
  rw [Option.map_bind]
  rfl

theorem Wired.payloads_eq (wired : Wired after)
    (later : workspace.middleware.transport.store.Later after.middleware.transport.store)
    (there : after.subscriberOf name = some held) :
    held.queue.waiting.map after.middleware.transport.store.payload? =
      held.queue.waiting.map workspace.middleware.transport.store.payload? := by
  obtain ⟨state, _, endpoint⟩ := subscriberOf_eq_some.1 there
  apply List.map_congr_left
  intro sample waits
  obtain ⟨stored, present⟩ := wired.sound.exists_of_waiting endpoint waits
  obtain ⟨before, found, _, same⟩ := later sample stored present
  unfold SampleStore.payload?
  rw [present, found, Option.map_some, Option.map_some, same]

/-- What a call made of the oldest message, if it came to one: told it, or lost it where a copy was refused. -/
def Answer.removed? : Answer → Option (Option Payload)
  | .message .ok (some payload) => some (some payload)
  | .message .error none => some none
  | _ => none

theorem removed?_failure {fault : Fault} (other : fault.status ≠ .error) :
    (Answer.message fault.status none).removed? = none := by
  cases fault <;> first | rfl | exact absurd rfl other

/-- What a take leaves, and what it removed: nothing, or the sample in front, which it tells or loses. -/
inductive Takes (workspace : Workspace) (state : SubscriptionState) :
    Option (Option Payload) → Workspace → Prop
  | nothing {changed : Middleware} (noted : workspace.middleware.Noted changed) :
      Takes workspace state none (workspace.withMiddleware changed)
  | front {sample : Nat} {taken : Transport} {told : Option Payload} {reason : Bytes}
      {first last : Ledger}
      (front : (workspace.middleware.withLedger first).transport.takeSample state.endpoint =
        some (sample, taken))
      (tells : told = none ∨ ∀ stored, taken.store.samples.get? sample = some stored →
        stored.content.Whole → told = some stored.content.payload) :
      Takes workspace state (some told)
        (workspace.withMiddleware
          ((workspace.middleware.withTransport
            (taken.withStore (taken.store.release sample))).recount reason last))

theorem Legible.takes (legible : Legible workspace) {state : SubscriptionState}
    (found : workspace.subscriptions.get? name = some state) (withBuffer : Bool) :
    workspace.Takes state (workspace.step (.take (some name) withBuffer)).1.removed?
      (workspace.step (.take (some name) withBuffer)).2 := by
  cases withBuffer with
  | false =>
      unfold Workspace.step
      dsimp only
      rcases workspace.middleware.take_cases (slot workspace.subscriptions (some name)) none with
        ⟨fault, other, failed⟩ | ⟨absent, _⟩ | ⟨_, _, _, _, _, absent, _⟩
      · rw [failed]
        change workspace.Takes state (Answer.message fault.status none).removed? _
        rw [removed?_failure other]
        exact .nothing (workspace.middleware.noted_fail fault)
      · exact absurd rfl absent
      · exact absurd rfl absent
  | true =>
      have kind : kindOf workspace.subscriptionKinds (some name) = some state.kind :=
        legible.buffered name state found
      unfold Workspace.step
      dsimp only
      rw [kind]
      dsimp only
      unfold takeFilled
      dsimp only
      rcases (workspace.middleware.withLedger
          (workspace.middleware.ledger.noteInit state.kind)).take_cases
            (slot workspace.subscriptions (some name)) (some state.kind.fresh) with
        ⟨fault, other, failed⟩ | ⟨_, idle⟩ |
          ⟨same, sample, taken, reason, ledger, _, there, front, left, told⟩
      · rw [failed]
        change workspace.Takes state (Answer.message fault.status none).removed? _
        rw [removed?_failure other]
        exact .nothing (Middleware.noted_fail _ fault).around
      · rw [idle]
        exact .nothing (Middleware.Noted.refl _).around
      · cases (slot_eq found).symm.trans there
        generalize (workspace.middleware.withLedger
          (workspace.middleware.ledger.noteInit state.kind)).take _ _ = outcome at left told ⊢
        obtain ⟨result, after⟩ := outcome
        dsimp only at left told
        subst left
        rcases told with rfl | ⟨filled, rfl, reads⟩
        · exact .front front (.inl rfl)
        · refine .front front (.inr (fun stored held whole => ?_))
          exact congrArg some (reads stored held whole)

theorem Wired.subscriberOf_requeued (wired : Wired workspace) {state : SubscriptionState}
    (found : workspace.subscriptions.get? name = some state)
    (endpoint : workspace.middleware.transport.subscribers.get? state.endpoint = some held)
    (queue : SampleQueue) (changed : Middleware)
    (subscribers : changed.transport.subscribers =
      workspace.middleware.transport.subscribers.modify state.endpoint
        (fun old => { old with queue })) :
    (workspace.withMiddleware changed).subscriberOf name = some { held with queue } ∧
      ∀ other, other ≠ name →
        (workspace.withMiddleware changed).subscriberOf other = workspace.subscriberOf other := by
  have moved := fun index => workspace.middleware.transport.subscribers.get?_modify state.endpoint
    index (fun old => { old with queue })
  rw [← subscribers] at moved
  constructor
  · refine subscriberOf_eq_some.2 ⟨state, found, ?_⟩
    exact (moved state.endpoint).trans ((if_pos rfl).trans (congrArg (Option.map _) endpoint))
  · intro other different
    unfold subscriberOf
    cases here : workspace.subscriptions.get? other with
    | none => exact congrArg (fun known => Option.bind known _) here
    | some subscription =>
        have apart : subscription.endpoint ≠ state.endpoint :=
          fun same => different (wired.subscribers.name_eq found here same)
        refine (congrArg (fun known => Option.bind known _) here).trans ?_
        exact (moved subscription.endpoint).trans (if_neg apart)

theorem Wired.waiting_kept (left : Wired after)
    (later : workspace.middleware.transport.store.Later after.middleware.transport.store)
    (same : after.subscriberOf name = workspace.subscriberOf name) :
    after.waiting name = workspace.waiting name := by
  rw [waiting_eq, waiting_eq, ← same]
  cases there : after.subscriberOf name with
  | none => rfl
  | some held => exact congrArg some (left.payloads_eq later there)

/-- What a take leaves of the queues, one by one. -/
theorem Takes.waiting {state : SubscriptionState} {removed : Option (Option Payload)}
    (takes : workspace.Takes state removed after) (legible : Legible workspace) (wired : Wired workspace)
    (left : Wired after) (found : workspace.subscriptions.get? name = some state) :
    (∀ other, other ≠ name → after.waiting other = workspace.waiting other) ∧
      (removed = none ∧ after.waiting name = workspace.waiting name ∨
        ∃ told payload rest, removed = some told ∧ workspace.waiting name = some (some payload :: rest) ∧
          after.waiting name = some rest ∧ (told = none ∨ told = some payload)) := by
  cases takes with
  | nothing noted =>
      obtain ⟨reason, ledger, rfl, _⟩ := noted
      exact ⟨fun _ _ => rfl, .inl ⟨rfl, rfl⟩⟩
  | @front sample taken told reason first last front tells =>
      obtain ⟨held, queue, endpoint, popped, subscribed⟩ := Transport.takeSample_eq_some front
      have waits := SampleQueue.waiting_of_pop popped
      obtain ⟨mine, others⟩ := wired.subscriberOf_requeued found endpoint queue
        ((workspace.middleware.withTransport
          (taken.withStore (taken.store.release sample))).recount reason last)
        (congrArg Transport.subscribers subscribed)
      have later : workspace.middleware.transport.store.Later (taken.store.release sample) := by
        rw [subscribed]
        exact (SampleStore.sharesOnly_release _ sample).later
      constructor
      · exact fun other different => left.waiting_kept later (others other different)
      · obtain ⟨stored, present⟩ :=
          wired.sound.exists_of_waiting endpoint (waits ▸ List.mem_cons_self)
        have reads : workspace.middleware.transport.store.payload? sample =
            some stored.content.payload := congrArg (Option.map _) present
        refine .inr ⟨told, stored.content.payload,
          queue.waiting.map workspace.middleware.transport.store.payload?, rfl, ?_, ?_, ?_⟩
        · rw [waiting_eq, subscriberOf_eq_some.2 ⟨state, found, endpoint⟩, Option.map_some, waits,
            List.map_cons, reads]
        · rw [waiting_eq, mine]
          exact congrArg some (left.payloads_eq later mine)
        · subst subscribed
          exact tells.imp_right (fun reads => reads stored present (legible.whole sample stored present))

/-- Whether a call only takes from a subscription, or lets copies fail. -/
def Action.takesFrom (name : String) : Action → Bool
  | .take subscription _ => subscription = some name
  | .refuseCopies _ => true
  | _ => false

def answers (workspace : Workspace) : List Action → List Answer
  | [] => []
  | action :: rest => (workspace.step action).1 :: (workspace.step action).2.answers rest

/-- Takes remove messages from the front of a queue, and each message is told as it is or not at all. -/
structure Drained (workspace after : Workspace) (name : String) (removed : List (Option Payload)) :
    Prop where
  queue : ∃ gone : List Payload, ∃ left,
    workspace.waiting name = some (gone.map some ++ left) ∧ after.waiting name = some left ∧
      List.Forall₂ (fun told payload => told = none ∨ told = some payload) removed gone
  others : ∀ other, other ≠ name → after.waiting other = workspace.waiting other

theorem drained_refl {queue : List (Option Payload)} (there : workspace.waiting name = some queue) :
    workspace.Drained workspace name [] :=
  ⟨⟨[], queue, there, there, .nil⟩, fun _ _ => rfl⟩

theorem Drained.trans {between : Workspace} {removed more : List (Option Payload)}
    (first : workspace.Drained between name removed) (rest : between.Drained after name more) :
    workspace.Drained after name (removed ++ more) := by
  obtain ⟨gone, left, before, here, told⟩ := first.queue
  obtain ⟨others, remaining, again, there, also⟩ := rest.queue
  cases here.symm.trans again
  refine ⟨⟨gone ++ others, remaining, ?_, there, List.rel_append told also⟩, ?_⟩
  · rw [before, List.map_append, List.append_assoc]
  · exact fun other different => (rest.others other different).trans (first.others other different)

theorem Wired.drained_step (wired : Wired workspace) (legible : Legible workspace)
    {queue : List (Option Payload)} (there : workspace.waiting name = some queue) {action : Action}
    (takes : action.takesFrom name = true) :
    workspace.Drained (workspace.step action).2 name
      (workspace.step action).1.removed?.toList := by
  cases action with
  | take subscription withBuffer =>
      obtain rfl := of_decide_eq_true takes
      obtain ⟨state, found, _⟩ := Option.bind_eq_some_iff.1 there
      obtain ⟨others, kept | ⟨told, payload, rest, removed, before, left, tells⟩⟩ :=
        (legible.takes found withBuffer).waiting legible wired (wired.step _) found
      · rw [kept.1]
        exact ⟨⟨[], queue, there, kept.2.trans there, .nil⟩, others⟩
      · rw [removed]
        exact ⟨⟨[payload], rest, before, left, .cons tells .nil⟩, others⟩
  | refuseCopies count => exact ⟨⟨[], queue, there, there, .nil⟩, fun _ _ => rfl⟩
  | _ => cases takes

theorem Wired.drained_run (wired : Wired workspace) (legible : Legible workspace)
    {queue : List (Option Payload)} (there : workspace.waiting name = some queue)
    (takes : List Action) (only : ∀ action ∈ takes, action.takesFrom name = true) :
    workspace.Drained (workspace.run takes) name
      ((workspace.answers takes).filterMap Answer.removed?) := by
  induction takes generalizing workspace queue with
  | nil => exact drained_refl there
  | cons action rest ih =>
      have first := wired.drained_step legible there (only action List.mem_cons_self)
      obtain ⟨_, left, _, still, _⟩ := first.queue
      have others := ih (wired.step action) (legible.step action) still
        (fun call member => only call (List.mem_cons_of_mem action member))
      have split : (workspace.answers (action :: rest)).filterMap Answer.removed? =
          (workspace.step action).1.removed?.toList ++
            ((workspace.step action).2.answers rest).filterMap Answer.removed? := by
        rw [answers, List.filterMap_cons]
        cases (workspace.step action).1.removed? <;> rfl
      rw [split]
      exact first.trans others

end Workspace

end PubSub
