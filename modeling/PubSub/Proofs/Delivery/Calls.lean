import PubSub.Proofs.Calls.Noted
import PubSub.Proofs.Delivery.Messages

/-!
Calls of the middleware that a bus knows nothing of, and what publishing and taking come to in each case.
-/

namespace PubSub

namespace Middleware

variable {middleware after : Middleware}

theorem Noted.idle (noted : middleware.Noted after) : middleware.Idle after := by
  obtain ⟨reason, ledger, rfl, _⟩ := noted
  exact .of_same rfl rfl rfl (fun _ valid => valid) rfl

theorem idle_initContext (middleware : Middleware) (slot : Option (Slot Nat))
    (vector : Option (List (Option Bytes))) (count : Int) :
    Idle middleware (middleware.initContext slot vector count).2 := by
  rcases middleware.initContext_eq slot vector count with ⟨_, noted⟩ | ⟨arguments, _, opened⟩
  · exact noted.idle
  · rw [opened]
    exact middleware.idle_openContext arguments

theorem idle_shutdownContext {slot : Option (Slot Nat)}
    (failed : (middleware.shutdownContext slot).1 ≠ .ok ()) :
    Idle middleware (middleware.shutdownContext slot).2 := by
  rcases middleware.shutdownContext_eq slot with ⟨_, noted⟩ | ⟨context, _, ended⟩
  · exact noted.idle
  · exact absurd (congrArg Prod.fst ended) failed

theorem idle_finiContext {slot : Option (Slot Nat)} (absent : slot.join = none) :
    Idle middleware (middleware.finiContext slot).2 := by
  rcases slot with _ | _ | context
  · exact (middleware.noted_fail _).idle
  · exact (Noted.refl middleware).idle
  · cases absent

theorem idle_initNode (middleware : Middleware) (slot : Option (Slot NodeState))
    (name space : Option Bytes) (context : Option (Slot Nat)) (options : Option Bool) :
    Idle middleware (middleware.initNode slot name space context options).2 := by
  rcases middleware.initNode_eq slot name space context options with
    ⟨_, noted⟩ | ⟨node, _, _, _, made⟩
  · exact noted.idle
  · rw [made]
    exact (Noted.refl middleware).idle

theorem idle_finiNode (middleware : Middleware) (slot : Option (Slot NodeState)) :
    Idle middleware (middleware.finiNode slot).2 := by
  cases slot with
  | none => exact (middleware.noted_fail _).idle
  | some node => exact (Noted.refl middleware).idle

end Middleware

namespace Workspace

variable {workspace : Workspace} {bus : Bus}

theorem Refines.withIdle (refines : Refines workspace bus) {after : Middleware}
    (idle : workspace.middleware.Idle after) : Refines (workspace.withMiddleware after) bus :=
  refines.idle idle rfl rfl rfl rfl

theorem Refines.withNoted (refines : Refines workspace bus) {after : Middleware}
    (noted : workspace.middleware.Noted after) : Refines (workspace.withMiddleware after) bus :=
  refines.withIdle noted.idle

/-- A publish fails and sends nothing, or it succeeds and its sender sends what the message says. -/
theorem Refines.publish_cases (refines : Refines workspace bus) (publisher : Option String)
    {message : Option Layout} (whole : ∀ layout, message = some layout → layout.Whole) :
    (∃ fault, (workspace.middleware.publish (slot workspace.publishers publisher) message).1 =
        .error fault) ∧
      Refines
        (workspace.withMiddleware
          (workspace.middleware.publish (slot workspace.publishers publisher) message).2) bus ∨
    ∃ name sender layout, publisher = some name ∧ message = some layout ∧
      bus.senders.get? name = some sender ∧
      workspace.publisherKinds.get? name = some sender.kind ∧
      (workspace.middleware.publish (slot workspace.publishers publisher) message).1 = .ok () ∧
      Refines
        (workspace.withMiddleware
          (workspace.middleware.publish (slot workspace.publishers publisher) message).2)
        (bus.send name sender layout.payload) := by
  unfold Middleware.publish
  cases valid : workspace.middleware.validPublisher? (slot workspace.publishers publisher) with
  | none => exact .inl ⟨⟨_, rfl⟩, refines.withNoted (workspace.middleware.noted_fail _)⟩
  | some state =>
      cases message with
      | none => exact .inl ⟨⟨_, rfl⟩, refines.withNoted (workspace.middleware.noted_fail _)⟩
      | some layout =>
          dsimp only
          cases made : workspace.middleware.transport.store.create state.kind layout with
          | mk copied store =>
              cases copied with
              | none =>
                  refine .inl ⟨⟨_, rfl⟩, ?_⟩
                  have refused := refines.withNoted (Middleware.noted_create_none made)
                  exact refused.withNoted (Middleware.noted_fail _ _)
              | some sample =>
                  refine .inr ?_
                  have there := (Middleware.validPublisher?_cases valid).1
                  cases publisher with
                  | none => cases there
                  | some name =>
                      have found : workspace.publishers.get? name = some state :=
                        Option.some.inj there
                      obtain ⟨sender, same, sends⟩ := refines.senders.exists_right found
                      obtain ⟨held, here, profile, _, _⟩ := sends.retains
                      have distinct := refines.subscribers.nodup_receivers state.key held.qos
                      have sent := refines.sound.sent (whole layout rfl) made _ here distinct
                      rw [profile] at sent
                      exact ⟨name, sender, layout, rfl, rfl, same, sends.buffer, rfl,
                        refines.send found sends sent⟩

theorem Refines.take_refused (refines : Refines workspace bus) (subscription : Option String)
    (message : Option Layout)
    (refused : message = none ∨ ∀ name, subscription = some name → bus.receivers.get? name = none) :
    (∃ fault, (workspace.middleware.take (slot workspace.subscriptions subscription) message).1 =
        .error fault) ∧
      Refines
        (workspace.withMiddleware
          (workspace.middleware.take (slot workspace.subscriptions subscription) message).2) bus := by
  unfold Middleware.take
  cases valid : workspace.middleware.validSubscription?
      (slot workspace.subscriptions subscription) with
  | none => exact ⟨⟨_, rfl⟩, refines.withNoted (workspace.middleware.noted_fail _)⟩
  | some state =>
      rcases refused with rfl | absent
      · exact ⟨⟨_, rfl⟩, refines.withNoted (workspace.middleware.noted_fail _)⟩
      · have there := (Middleware.validSubscription?_cases valid).1
        cases subscription with
        | none => cases there
        | some name =>
            obtain ⟨receiver, same, _⟩ := refines.receivers.exists_right (Option.some.inj there)
            rw [absent name rfl] at same
            cases same

/-- A subscription that is there gets what waited longest, unless it cannot be copied. -/
theorem Refines.take_cases (refines : Refines workspace bus) {name : String} {receiver : Receiver}
    (there : bus.receivers.get? name = some receiver) (message : Layout) :
    let outcome := workspace.middleware.take (slot workspace.subscriptions (some name)) (some message)
    receiver.pending = [] ∧ outcome.1 = .ok none ∧
        Refines (workspace.withMiddleware outcome.2) bus ∨
      ∃ payload rest, receiver.pending = payload :: rest ∧
        ((∃ filled, outcome.1 = .ok (some filled) ∧ filled.payload = payload ∧
            Refines (workspace.withMiddleware outcome.2) (bus.take name payload)) ∨
          ∃ typeName, outcome.1 = .error (.messageNotCopied typeName)) := by
  obtain ⟨state, found, receives⟩ := refines.receivers.exists_left there
  obtain ⟨held, here, _, _, _, runs⟩ := receives.holds
  have valid : workspace.middleware.validSubscription? (slot workspace.subscriptions (some name)) =
      some state := by
    unfold Middleware.validSubscription? slot
    rw [Option.map_some, found]
    dsimp only
    rw [here]
    exact if_pos runs
  unfold Middleware.take
  rw [valid]
  dsimp only
  cases took : workspace.middleware.transport.takeSample state.endpoint with
  | none =>
      exact .inl ⟨receives.holds.nil_of_takeSample took, rfl, refines.withNoted (.refl _)⟩
  | some front =>
      obtain ⟨sample, taken⟩ := front
      obtain ⟨content, present, whole, moved⟩ := refines.sound.took refines.whole here took
      obtain ⟨rest, pending, _⟩ := (moved taken.store.ledger).front _ _ receives.holds
      refine .inr ⟨content.content.payload, rest, pending, ?_⟩
      dsimp only
      rw [present]
      dsimp only
      cases copy : taken.store.ledger.copy state.kind content.content message with
      | mk copied ledger =>
          cases copied with
          | none => exact .inr ⟨_, rfl⟩
          | some filled =>
              refine .inl ⟨filled, rfl, (Ledger.copy_eq_some whole copy).2, ?_⟩
              exact refines.take found (moved ledger)

end Workspace

end PubSub
