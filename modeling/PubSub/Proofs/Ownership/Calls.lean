import PubSub.Proofs.Initialisation
import PubSub.Proofs.Ownership.Intact

/-!
Calls of the middleware that leave the endpoints that are there, and end contexts at most.
-/

namespace PubSub.Middleware

theorem quiet_shutdownContext (middleware : Middleware) (slot : Option (Slot Nat)) :
    Quiet middleware.transport (middleware.shutdownContext slot).2.transport := by
  unfold shutdownContext
  split
  · split
    · exact middleware.transport.quiet_invalidate _
    · exact .refl _
  · exact .refl _

theorem sameEnds_publish (middleware : Middleware) (slot : Option (Slot PublisherState))
    (message : Option Layout) :
    Transport.SameEnds middleware.transport (middleware.publish slot message).2.transport := by
  unfold publish
  cases middleware.validPublisher? slot with
  | none => exact .refl _
  | some publisher =>
      cases message with
      | none => exact .refl _
      | some message =>
          dsimp only
          rcases middleware.transport.store.create publisher.kind message with ⟨_ | sample, store⟩
          · exact middleware.transport.sameEnds_withStore store
          · exact ((middleware.transport.sameEnds_withStore store).trans
              (Transport.sameEnds_publish _ _ _ _)).trans (Transport.sameEnds_withStore _ _)

theorem sameEnds_take (middleware : Middleware) (slot : Option (Slot SubscriptionState))
    (message : Option Layout) :
    Transport.SameEnds middleware.transport (middleware.take slot message).2.transport := by
  unfold take
  cases middleware.validSubscription? slot with
  | none => exact .refl _
  | some subscription =>
      cases message with
      | none => exact .refl _
      | some message =>
          dsimp only
          rcases took : middleware.transport.takeSample subscription.endpoint with _ | ⟨sample, taken⟩
          · exact .refl _
          · have left := fun store =>
              (Transport.sameEnds_takeSample took).trans (taken.sameEnds_withStore store)
            dsimp only
            split
            · exact left _
            · exact left _

theorem subscriptionCount_transport (middleware : Middleware) (slot : Option (Slot PublisherState))
    (wantsCount : Bool) : (middleware.subscriptionCount slot wantsCount).2.transport =
      middleware.transport := by
  unfold subscriptionCount
  split
  · rfl
  · split <;> rfl

theorem publisherCount_transport (middleware : Middleware) (slot : Option (Slot SubscriptionState))
    (wantsCount : Bool) : (middleware.publisherCount slot wantsCount).2.transport =
      middleware.transport := by
  unfold publisherCount
  split
  · rfl
  · split <;> rfl

end PubSub.Middleware
