import PubSub.Proofs.Client.Shutdowns

/-!
What stands on a context.  Contexts have numbers that the transport knows; a node stands on its context, publishers and
subscriptions on the context of their node, and their endpoints belong to that same context.
-/

namespace PubSub

namespace Session

variable {session : Session} {handles nodes subscriptions : List Nat}

def parent? (session : Session) (handle : Nat) : Option Nat :=
  (session.forest.get? handle).bind Handle.parent

def contextOf? (session : Session) (handle : Nat) : Option Nat :=
  (session.parent? handle).bind session.parent?

def Numbers (session : Session) (handle number : Nat) : Prop :=
  session.contextSlot handle = some number ∧
    session.middleware.transport.contexts.contains number = true

theorem Numbers.isShutDown_iff {handle number : Nat} (numbers : session.Numbers handle number) :
    session.isShutDown handle = true ↔ session.middleware.transport.isValid number = false := by
  obtain ⟨slot, known⟩ := numbers
  obtain ⟨state, there⟩ := (session.middleware.transport.contexts.contains_iff number).1 known
  simp only [isShutDown, Transport.isValid, slot, there, Option.any_some, Bool.not_eq_true']

theorem Numbers.runs_iff {handle number : Nat} (numbers : session.Numbers handle number) :
    session.isShutDown handle = false ↔ session.middleware.transport.isValid number = true := by
  rw [← Bool.not_eq_true, numbers.isShutDown_iff, Bool.not_eq_false]

theorem exists_holds {handle : Nat} (present : ∃ held, session.forest.get? handle = some held) :
    ∃ resource parent, session.Holds handle resource parent := by
  obtain ⟨held, found⟩ := present
  exact ⟨held.resource, held.parent, held, found, rfl, rfl⟩

theorem Linked.numbers (linked : session.Linked) (owned : session.Owned handles nodes subscriptions)
    {handle number : Nat} {parent : Option Nat}
    (holds : session.Holds handle (.context (some number)) parent) : session.Numbers handle number := by
  refine ⟨contextSlot_of_holds holds, linked.known number ?_⟩
  obtain ⟨held, found, resource, _⟩ := holds
  refine (owned.intact.native.contexts.made_iff number).2
    ⟨handle, _, Forest.identity?_of_get? found, ?_⟩
  exact congrArg Resource.context? resource

theorem Linked.numbers_of_contextName (linked : session.Linked)
    (owned : session.Owned handles nodes subscriptions) {name : String} {handle : Nat}
    (named : session.contextNames.get? name = some handle) : ∃ number, session.Numbers handle number := by
  obtain ⟨resource, parent, holds⟩ := exists_holds (owned.exists_of_contextName named)
  obtain ⟨number, rfl⟩ := linked.contextName name handle resource parent named holds
  exact ⟨number, linked.numbers owned holds⟩

theorem Linked.numbers_of_node (linked : session.Linked)
    (owned : session.Owned handles nodes subscriptions) {handle above : Nat} {state : NodeState}
    (holds : session.Holds handle (.node (some state)) (some above)) :
    session.Numbers above state.context := by
  obtain ⟨held, found, _, upward⟩ := holds
  obtain ⟨resource, root, upper⟩ := exists_holds (owned.handles.exists_parent found upward)
  have same := linked.nodeContext handle above state resource root ⟨held, found, ‹_›, upward⟩ upper
  exact linked.numbers owned (same ▸ upper)

theorem Linked.namedNode (linked : session.Linked) (owned : session.Owned handles nodes subscriptions)
    {name : String} {index : Nat} {object : NodeObject}
    (found : session.namedNode? name = some (index, object)) :
    ∃ state, nodeSlot (session.forest.get? object.handle) = some (some state) ∧
      session.Numbers object.context state.context := by
  have there := get?_of_namedNode? found
  obtain ⟨resource, parent, holds⟩ := exists_holds (owned.exists_of_node there).1
  obtain ⟨rfl, state, rfl⟩ := linked.node index object resource parent there holds
  exact ⟨state, nodeSlot_of_holds holds, linked.numbers_of_node owned holds⟩

theorem parent?_of_holds {handle : Nat} {resource : Resource} {parent : Option Nat}
    (holds : session.Holds handle resource parent) : session.parent? handle = parent := by
  obtain ⟨held, found, _, upward⟩ := holds
  simp only [parent?, found, Option.bind_some, upward]

theorem Linked.above_endpoint (linked : session.Linked)
    (owned : session.Owned handles nodes subscriptions) {handle above : Nat} {resource : Resource}
    {kind : Bytes} {node : NodeState} {root : Option Nat}
    (holds : session.Holds handle resource (some above))
    (known : session.forest.identity? above = some (kind, .node (some node), root)) :
    session.Holds above (.node (some node)) root ∧
      ∃ context, session.contextOf? handle = some context ∧ session.Numbers context node.context := by
  obtain ⟨held, found, _, upward⟩ := id holds
  obtain ⟨owner, there⟩ := owned.handles.exists_parent found upward
  have content := known.symm.trans (Forest.identity?_of_get? there)
  rw [Option.some.injEq] at content
  have upper : session.Holds above (.node (some node)) root :=
    ⟨owner, there, (congrArg (fun content => content.2.1) content).symm,
      (congrArg (fun content => content.2.2) content).symm⟩
  obtain ⟨_, context, _, _, _, rfl, _⟩ := owned.intact.attached above kind _ root known
  refine ⟨upper, context, ?_, linked.numbers_of_node owned upper⟩
  simp only [contextOf?, parent?_of_holds holds, Option.bind_some, parent?_of_holds upper]

theorem Linked.namedPublisher (linked : session.Linked)
    (owned : session.Owned handles nodes subscriptions) {name : String} {object : PublisherObject}
    (named : session.publisherNames.get? name = some object) :
    ∃ state context held, session.publisherSlot object.handle = some state ∧ state.kind = object.kind ∧
      session.contextOf? object.handle = some context ∧ session.Numbers context held.context ∧
      session.middleware.transport.publishers.get? state.endpoint = some held := by
  obtain ⟨resource, parent, holds⟩ := exists_holds (owned.exists_of_publisherName named)
  obtain ⟨state, rfl, kind⟩ := linked.publisherName name object resource parent named holds
  obtain ⟨handle, found, resource, upward⟩ := id holds
  have content := Forest.identity?_of_get? found
  rw [Handle.content, resource, upward] at content
  obtain ⟨_, above, _, node, root, rfl, known⟩ := owned.intact.attached object.handle _ _ _ content
  obtain ⟨upper, context, contextOf, numbers⟩ := linked.above_endpoint owned holds known
  have present := (owned.intact.native.publishersThere state.endpoint).2
    ⟨object.handle, handle, found, congrArg Resource.publisher? resource⟩
  obtain ⟨held, there⟩ := (session.middleware.transport.publishers.contains_iff _).1 present
  have same := linked.publisherContext object.handle above state node root held holds upper there
  refine ⟨state, context, held, ?_, kind, contextOf, same ▸ numbers, there⟩
  obtain ⟨_, _, _, _⟩ := handle
  cases resource
  unfold publisherSlot
  rw [found]

/-- The subscription at an index: its state, the context that it stands on, and its endpoint in that context. -/
theorem Linked.subscriptionAt (linked : session.Linked)
    (owned : session.Owned handles nodes subscriptions) {index : Nat} {object : SubscriptionObject}
    (listed : session.subscriptions.get? index = some object) :
    ∃ state context held, session.subscriptionSlot object.handle = some state ∧
      state.kind = object.kind ∧ session.contextOf? object.handle = some context ∧
      session.Numbers context held.context ∧
      session.middleware.transport.subscribers.get? state.endpoint = some held := by
  obtain ⟨resource, parent, holds⟩ := exists_holds (owned.exists_of_subscription listed)
  obtain ⟨state, rfl, kind⟩ := linked.subscription index object resource parent listed holds
  obtain ⟨handle, found, resource, upward⟩ := id holds
  have content := Forest.identity?_of_get? found
  rw [Handle.content, resource, upward] at content
  obtain ⟨_, above, _, node, root, rfl, known⟩ := owned.intact.attached object.handle _ _ _ content
  obtain ⟨upper, context, contextOf, numbers⟩ := linked.above_endpoint owned holds known
  have present := (owned.intact.native.subscriptionsThere state.endpoint).2
    ⟨object.handle, handle, found, congrArg Resource.subscription? resource⟩
  obtain ⟨held, there⟩ := (session.middleware.transport.subscribers.contains_iff _).1 present
  have same := linked.subscriptionContext object.handle above state node root held holds upper there
  refine ⟨state, context, held, ?_, kind, contextOf, same ▸ numbers, there⟩
  obtain ⟨_, _, _, _⟩ := handle
  cases resource
  unfold subscriptionSlot
  rw [found]

theorem Linked.namedSubscription (linked : session.Linked)
    (owned : session.Owned handles nodes subscriptions) {name : String} {index : Nat}
    {object : SubscriptionObject} (found : session.namedSubscription? name = some (index, object)) :
    ∃ state context held, session.subscriptionSlot object.handle = some state ∧
      state.kind = object.kind ∧ session.contextOf? object.handle = some context ∧
      session.Numbers context held.context ∧
      session.middleware.transport.subscribers.get? state.endpoint = some held :=
  linked.subscriptionAt owned (Run.findSubscription_eq_some found)

end Session

end PubSub
