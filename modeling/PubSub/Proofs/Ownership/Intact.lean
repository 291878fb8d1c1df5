import PubSub.Proofs.Ownership.Numbered

/-!
What holds of the handles of a session and of the middleware below them: what is gone is on record, every
resource stands where it belongs, the transport knows the resources, and no finalizer has failed.
-/

namespace PubSub

/-- No endpoint came or went, and no context that had ended runs again. -/
structure Quiet (before after : Transport) : Prop where
  publishers : ∀ index, after.publishers.contains index = before.publishers.contains index
  subscribers : ∀ index, after.subscribers.contains index = before.subscribers.contains index
  nextPublisher : after.publishers.next = before.publishers.next
  nextSubscriber : after.subscribers.next = before.subscribers.next
  nextContext : after.contexts.next = before.contexts.next
  valid : ∀ context, after.isValid context = true → before.isValid context = true

theorem Quiet.refl (transport : Transport) : Quiet transport transport :=
  ⟨fun _ => rfl, fun _ => rfl, rfl, rfl, rfl, fun _ => id⟩

theorem Transport.SameEnds.quiet {before after : Transport} (same : Transport.SameEnds before after) :
    Quiet before after := by
  refine ⟨same.publishers, same.subscribers, same.nextPublisher, same.nextSubscriber, ?_, ?_⟩
  · rw [same.contexts]
  · intro context runs
    unfold isValid at runs ⊢
    rw [same.contexts] at runs
    exact runs

theorem Transport.quiet_invalidate (transport : Transport) (context : Nat) :
    Quiet transport (transport.invalidate context) := by
  refine ⟨fun _ => rfl, fun _ => rfl, rfl, rfl, rfl, fun other runs => ?_⟩
  rw [isValid_invalidate, Bool.and_eq_true] at runs
  exact runs.2

structure Native (forest : Forest Resource) (transport : Transport) : Prop where
  contexts : Numbered forest Resource.context? transport.contexts.next
  publishers : Numbered forest Resource.publisher? transport.publishers.next
  subscriptions : Numbered forest Resource.subscription? transport.subscribers.next
  publishersThere : Present forest Resource.publisher? transport.publishers.contains
  subscriptionsThere : Present forest Resource.subscription? transport.subscribers.contains
  ended : ∀ entry ∈ forest.finalized, ∀ context, entry.2.resource.context? = some context →
    transport.isValid context = false

variable {forest later : Forest Resource} {transport after : Transport} {outside : Nat → Nat}

theorem Native.quiet (native : Native forest transport) (quiet : Quiet transport after) :
    Native forest after := by
  constructor
  · rw [quiet.nextContext]
    exact native.contexts
  · rw [quiet.nextPublisher]
    exact native.publishers
  · rw [quiet.nextSubscriber]
    exact native.subscriptions
  · intro index
    rw [quiet.publishers]
    exact native.publishersThere index
  · intro index
    rw [quiet.subscribers]
    exact native.subscriptionsThere index
  · intro entry member context number
    cases runs : after.isValid context with
    | false => rfl
    | true =>
        have before := quiet.valid context runs
        rw [native.ended entry member context number] at before
        cases before

theorem Native.retain (native : Native forest transport) (handle : Nat) :
    Native (forest.retain handle) transport where
  contexts := native.contexts.congr (forest.identity?_retain handle)
  publishers := native.publishers.congr (forest.identity?_retain handle)
  subscriptions := native.subscriptions.congr (forest.identity?_retain handle)
  publishersThere := native.publishersThere.congr (forest.content_retain handle)
  subscriptionsThere := native.subscriptionsThere.congr (forest.content_retain handle)
  ended := native.ended

theorem Native.make (native : Native forest transport) (recorded : forest.Recorded) (kind : Bytes)
    (resource : Resource) (parent : Option Nat)
    (context : Takes resource.context? transport.contexts.next after.contexts.next)
    (publisher : Takes resource.publisher? transport.publishers.next after.publishers.next)
    (subscription : Takes resource.subscription? transport.subscribers.next after.subscribers.next)
    (publishers : ∀ index, after.publishers.contains index = true ↔
      transport.publishers.contains index = true ∨ resource.publisher? = some index)
    (subscribers : ∀ index, after.subscribers.contains index = true ↔
      transport.subscribers.contains index = true ∨ resource.subscription? = some index)
    (valid : ∀ number, number < transport.contexts.next → after.isValid number = true →
      transport.isValid number = true) :
    Native (forest.make kind resource parent).2 after where
  contexts := native.contexts.make recorded context
  publishers := native.publishers.make recorded publisher
  subscriptions := native.subscriptions.make recorded subscription
  publishersThere := native.publishersThere.make publishers
  subscriptionsThere := native.subscriptionsThere.make subscribers
  ended := by
    intro entry member number owns
    have finalized : (forest.make kind resource parent).2.finalized = forest.finalized := by
      unfold Forest.make
      cases parent <;> rfl
    rw [finalized] at member
    have old := (native.contexts.made_iff number).2
      ⟨entry.1, entry.2.content, recorded.identity?_of_mem member, owns⟩
    cases runs : after.isValid number with
    | false => rfl
    | true =>
        have before := valid number old runs
        rw [native.ended entry member number owns] at before
        cases before

theorem Native.releases (native : Native forest transport) (recorded : forest.Recorded)
    {State : Type} {finalize : Handle Resource → Option (Handle Resource) → State → State}
    {chain : List (Nat × Handle Resource)} {state result : State}
    (released : Forest.Releases finalize forest later chain state result)
    (closed : Closed transport after (chain.map (fun entry => entry.2.resource))) :
    Native later after := by
  have same := recorded.identity?_releases released
  constructor
  · rw [closed.nextContext]
    exact native.contexts.congr same
  · rw [closed.nextPublisher]
    exact native.publishers.congr same
  · rw [closed.nextSubscriber]
    exact native.subscriptions.congr same
  · exact native.publishersThere.releases native.publishers released closed.publishers
  · exact native.subscriptionsThere.releases native.subscriptions released closed.subscribers
  · intro entry member context number
    rw [released.finalized, List.mem_append] at member
    cases runs : after.isValid context with
    | false => rfl
    | true =>
        obtain ⟨before, others⟩ := (closed.contexts context).1 runs
        rcases member with old | new
        · rw [native.ended entry old context number] at before
          cases before
        · exact absurd number (others _ (List.mem_map_of_mem new))

/-- A resource that stands where it belongs keeps standing there while its parent stays what it is. -/
theorem Resource.Mounted.mono {resource : Resource} {parent : Option Nat}
    (mounted : resource.Mounted forest parent)
    (same : ∀ handle content, forest.identity? handle = some content →
      later.identity? handle = some content) : resource.Mounted later parent := by
  cases resource with
  | context slot => exact mounted
  | node slot =>
      obtain ⟨filled, above, kind, context, root, owner, known⟩ := mounted
      exact ⟨filled, above, kind, context, root, owner, same above _ known⟩
  | publisher slot =>
      obtain ⟨filled, above, kind, node, root, owner, known⟩ := mounted
      exact ⟨filled, above, kind, node, root, owner, same above _ known⟩
  | subscription slot =>
      obtain ⟨filled, above, kind, node, root, owner, known⟩ := mounted
      exact ⟨filled, above, kind, node, root, owner, same above _ known⟩

theorem Attached.congr (attached : Attached forest)
    (same : ∀ handle, later.identity? handle = forest.identity? handle) : Attached later := by
  intro handle kind resource parent known
  rw [same] at known
  exact (attached handle kind resource parent known).mono
    (fun other content there => (same other).trans there)

theorem Attached.make (attached : Attached forest) (recorded : forest.Recorded) {kind : Bytes}
    {resource : Resource} {parent : Option Nat} (mounted : resource.Mounted forest parent) :
    Attached (forest.make kind resource parent).2 := by
  have kept : ∀ handle content, forest.identity? handle = some content →
      (forest.make kind resource parent).2.identity? handle = some content := by
    intro handle content known
    rw [forest.identity?_make, if_neg]
    · exact known
    · intro same
      have made := (recorded.made_iff handle).2 ⟨content, known⟩
      omega
  intro handle kind' resource' parent' known
  rw [forest.identity?_make] at known
  by_cases new : handle = forest.handles.next
  · rw [if_pos new, Option.some.injEq, Prod.mk.injEq, Prod.mk.injEq] at known
    obtain ⟨rfl, rfl, rfl⟩ := known
    exact mounted.mono kept
  · rw [if_neg new] at known
    exact (attached handle kind' resource' parent' known).mono kept

/-- What holds of the handles of a session and the middleware below them. -/
structure Session.Intact (session : Session) : Prop where
  recorded : session.forest.Recorded
  attached : Attached session.forest
  native : Native session.forest session.middleware.transport
  faultless : session.faults = 0

namespace Session

variable {session : Session}

theorem Intact.retainHandle (intact : session.Intact) (handle : Nat) :
    (session.retainHandle handle).Intact :=
  ⟨intact.recorded.retain handle, intact.attached.congr (session.forest.identity?_retain handle),
    intact.native.retain handle, intact.faultless⟩

/-- Giving up a share of a handle finalizes what it has to, without a fault. -/
theorem Intact.releaseHandle (intact : session.Intact) {before : Nat → Nat} (handle : Nat)
    (balanced : session.forest.Balanced before)
    (given : ∀ other, before other = outside other + [handle].count other) :
    (session.releaseHandle handle).Intact ∧
      (session.releaseHandle handle).forest.Balanced outside := by
  obtain ⟨left, chain, released⟩ := balanced.release Session.finalize handle
    (session.middleware, session.faults) given
  have state := released.state
  rw [foldl_finalize balanced intact.attached chain released.held] at state
  have middleware : (session.releaseHandle handle).middleware = closeAll chain session.middleware :=
    congrArg Prod.fst state
  have faults : (session.releaseHandle handle).faults = session.faults := congrArg Prod.snd state
  refine ⟨⟨intact.recorded.releases balanced released, ?_, ?_, faults.trans intact.faultless⟩, left⟩
  · exact intact.attached.congr (intact.recorded.identity?_releases released)
  · rw [middleware]
    exact intact.native.releases intact.recorded released (closed_closeAll chain session.middleware)

end Session

end PubSub
