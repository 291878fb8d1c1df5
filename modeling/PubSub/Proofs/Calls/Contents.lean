import PubSub.Proofs.Calls.Effect
import PubSub.Proofs.Delivery.Payload

/-!
What samples hold along a run.  A call other than a publish makes no sample, and a publish makes one out of a
buffer that was just filled, so every text lies in its block.  A subscription that is there has a buffer of its
kind.
-/

namespace PubSub

theorem Transport.later_sendOut (transport : Transport) (topic : Topic) (publisher sample : Nat) :
    transport.store.Later (transport.sendOut topic publisher sample).store :=
  ((transport.sharesOnly_publish topic publisher sample).trans
    (SampleStore.sharesOnly_release _ sample)).later

theorem Middleware.whole_publish {middleware : Middleware}
    (whole : middleware.transport.store.Whole) (slot : Option (Slot PublisherState))
    {message : Option Layout} (filled : ∀ layout, message = some layout → layout.Whole) :
    (middleware.publish slot message).2.transport.store.Whole := by
  unfold publish
  cases middleware.validPublisher? slot with
  | none => exact whole
  | some state =>
      cases message with
      | none => exact whole
      | some layout =>
          dsimp only
          cases made : middleware.transport.store.create state.kind layout with
          | mk copied store =>
              cases copied with
              | none =>
                  obtain ⟨samples, _⟩ := SampleStore.create_eq_none made
                  exact whole.later (.of_eq samples)
              | some sample =>
                  have created := (SampleStore.create_eq_some (filled layout rfl) made).1 whole
                  exact created.later
                    ((middleware.transport.withStore store).later_sendOut _ state.endpoint sample)

namespace Workspace

variable {workspace after : Workspace}

def Action.isPublish : Action → Bool
  | .publish _ _ => true
  | _ => false

/-- Only a publish makes a sample. -/
theorem Effect.unsent {action : Action} {answer : Answer}
    (effect : workspace.Effect action answer after) (unsent : action.isPublish = false) :
    workspace.middleware.transport.store.Unsent after.middleware.transport.store := by
  cases effect with
  | noted unmoved noted =>
      obtain ⟨reason, ledger, rfl, _⟩ := noted
      exact .of_eq rfl
  | publisherMade topicName free there runs noted =>
      obtain ⟨reason, ledger, rfl, _⟩ := noted
      exact .of_eq rfl
  | publisherReleased found => exact (workspace.middleware.transport.sharesOnly_dropPublisher _).unsent
  | published => cases unsent
  | subscriptionMade topicName free there runs noted =>
      obtain ⟨reason, ledger, rfl, _⟩ := noted
      have added := (workspace.middleware.recount reason ledger).transport.sharesOnly_addSubscriber
      exact ⟨(added _ _ _).next, (added _ _ _).later⟩
  | subscriptionReleased found =>
      exact (workspace.middleware.transport.sharesOnly_dropSubscriber _).unsent
  | took found endpoint runs front =>
      obtain ⟨_, _, _, _, rfl⟩ := Transport.takeSample_eq_some front
      have released := SampleStore.sharesOnly_release
      exact ⟨(released _ _).next, (released _ _).later⟩
  | _ => exact .refl workspace.middleware.transport.store

theorem whole_step (whole : workspace.middleware.transport.store.Whole) (action : Action) :
    (workspace.step action).2.middleware.transport.store.Whole := by
  cases sends : action.isPublish with
  | false => exact whole.later ((workspace.step_effect action).unsent sends).later
  | true =>
      cases action with
      | publish publisher data =>
          cases data with
          | none => exact Middleware.whole_publish whole _ nofun
          | some datum =>
              unfold step publishFilled
              dsimp only
              generalize (kindOf workspace.publisherKinds publisher).getD .int64 = kind
              cases fits : datum.payload kind with
              | error expected => exact whole
              | ok payload =>
                  have prepared : (workspace.middleware.withLedger
                    (workspace.middleware.ledger.noteInit kind)).transport.store.Whole := whole
                  refine Middleware.whole_publish prepared _ (fun layout same => ?_)
                  cases same
                  exact (Datum.payload_fill fits).1
      | _ => cases sends

/-- Texts lie in their blocks, and whoever takes from a subscription has a buffer of its kind. -/
structure Legible (workspace : Workspace) : Prop where
  whole : workspace.middleware.transport.store.Whole
  buffered : ∀ name state, workspace.subscriptions.get? name = some state →
    workspace.subscriptionKinds.get? name = some state.kind

theorem legible_empty : Legible .empty :=
  ⟨fun _ _ found => (nomatch found), fun _ _ found => nomatch found⟩

theorem Effect.buffered {action : Action} {answer : Answer}
    (effect : workspace.Effect action answer after)
    (buffered : ∀ name state, workspace.subscriptions.get? name = some state →
      workspace.subscriptionKinds.get? name = some state.kind) :
    ∀ name state, after.subscriptions.get? name = some state →
      after.subscriptionKinds.get? name = some state.kind := by
  cases effect with
  | @subscriptionMade made node kind topic qos owner changed topicName free there runs noted =>
      intro name state found
      dsimp only at found ⊢
      rw [Table.get?_set] at found ⊢
      by_cases same : name = made
      · rw [if_pos same, Option.some.injEq] at found
        rw [if_pos same, ← found]
        rfl
      · rw [if_neg same] at found ⊢
        exact buffered name state found
  | @subscriptionReleased gone node released known =>
      intro name state found
      exact buffered name state (Table.get?_of_erase found)
  | _ => exact buffered

theorem Legible.step (legible : Legible workspace) (action : Action) :
    Legible (workspace.step action).2 :=
  ⟨whole_step legible.whole action, (workspace.step_effect action).buffered legible.buffered⟩

theorem Legible.run (legible : Legible workspace) (actions : List Action) :
    Legible (workspace.run actions) :=
  run_keeps (fun _ action legible => legible.step action) legible actions

end Workspace

end PubSub
