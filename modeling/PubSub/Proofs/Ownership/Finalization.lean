import PubSub.Proofs.Ownership.Session

/-!
The end of resources.  A resource is released after everything that stands on it; where nothing has a name any more, all
of them are released.
-/

namespace PubSub

theorem Attached.parent_ne {forest : Forest Resource} (attached : Attached forest) {handle above : Nat}
    {kind : Bytes} {resource : Resource}
    (known : forest.identity? handle = some (kind, resource, some above)) : handle ≠ above := by
  rintro rfl
  have mounted := attached handle kind resource (some handle) known
  cases resource with
  | context slot => cases mounted.2
  | node slot =>
      obtain ⟨_, above, kind, context, root, same, there⟩ := mounted
      cases same
      rw [known] at there
      cases there
  | publisher slot =>
      obtain ⟨_, above, kind, node, root, same, there⟩ := mounted
      cases same
      rw [known] at there
      cases there
  | subscription slot =>
      obtain ⟨_, above, kind, node, root, same, there⟩ := mounted
      cases same
      rw [known] at there
      cases there

namespace Session

variable {session : Session}

/-- Nothing has a name any more, and no executor is left. -/
structure Nameless (session : Session) : Prop where
  contexts : ∀ name, session.contextNames.get? name = none
  nodes : ∀ name, session.nodeNames.get? name = none
  publishers : ∀ name, session.publisherNames.get? name = none
  subscriptions : ∀ name, session.subscriptionNames.get? name = none
  executors : ∀ name, session.executors.get? name = none

structure AllReleased (session : Session) : Prop where
  handles : ∀ handle, handle < session.forest.handles.next →
    (session.forest.finalized.map Prod.fst).count handle = 1
  publishers : ∀ endpoint, session.middleware.transport.publishers.contains endpoint = false
  subscribers : ∀ endpoint, session.middleware.transport.subscribers.contains endpoint = false
  contexts : ∀ context, session.middleware.transport.isValid context = false

/-- Everything that stood on a resource was released before it. -/
theorem Owned.dependentsFirst {handles nodes subscriptions : List Nat}
    (owned : session.Owned handles nodes subscriptions) {early late : List (Nat × Handle Resource)}
    {entry : Nat × Handle Resource} (split : session.forest.finalized = early ++ entry :: late)
    {child : Nat} {kind : Bytes} {resource : Resource}
    (known : session.forest.identity? child = some (kind, resource, some entry.1)) :
    child ∈ early.map Prod.fst := by
  have recorded := owned.intact.recorded
  have listed : entry ∈ session.forest.finalized := by
    rw [split]
    exact List.mem_append_right early List.mem_cons_self
  have gone := ((recorded.gone_iff entry.1).1 (List.mem_map_of_mem listed)).2
  have childGone : session.forest.get? child = none := by
    cases found : session.forest.get? child with
    | none => rfl
    | some held =>
        rw [Forest.identity?_of_get? found, Option.some.injEq] at known
        have above : held.parent = some entry.1 := congrArg (fun content => content.2.2) known
        obtain ⟨owner, there⟩ := owned.handles.exists_parent found above
        rw [gone] at there
        cases there
  -- A child that was made and is gone has its place in the record, and that is not after its parent.
  have made := (recorded.made_iff child).2 ⟨_, known⟩
  obtain ⟨⟨_, held⟩, member, rfl⟩ :=
    List.mem_map.mp ((recorded.gone_iff child).2 ⟨made, childGone⟩)
  have content := recorded.identity?_of_mem member
  dsimp only at content known
  rw [known, Option.some.injEq] at content
  have above : held.parent = some entry.1 := congrArg (fun content => content.2.2) content.symm
  rw [split, List.mem_append, List.mem_cons] at member
  rcases member with before | same | after
  · exact List.mem_map_of_mem before
  · exact absurd (congrArg Prod.fst same) (owned.intact.attached.parent_ne known)
  · have ordered := recorded.ordered
    rw [split, List.pairwise_append, List.pairwise_cons] at ordered
    exact absurd above (ordered.2.1.1 _ after)

theorem Owned.eq_none (owned : session.Owned [] [] []) (nameless : session.Nameless) (handle : Nat) :
    session.forest.get? handle = none := by
  have noNode : ∀ index, session.nodes.get? index = none := by
    intro index
    apply owned.nodes.eq_none
    unfold nodeHolders
    rw [session.nodeNames.total_eq_zero _ nameless.nodes, List.count_nil]
  have noSubscription : ∀ index, session.subscriptions.get? index = none := by
    intro index
    apply owned.subscriptions.eq_none
    unfold subscriptionHolders
    rw [session.subscriptionNames.total_eq_zero _ nameless.subscriptions, List.count_nil]
  apply owned.handles.eq_none
  intro other
  unfold handleHolders
  rw [session.contextNames.total_eq_zero _ nameless.contexts,
    session.executors.total_eq_zero _ nameless.executors, session.nodes.total_eq_zero _ noNode,
    session.publisherNames.total_eq_zero _ nameless.publishers,
    session.subscriptions.total_eq_zero _ noSubscription, List.count_nil]

/-- Where nothing has a name, the transport knows no endpoint, and none of its contexts runs. -/
theorem Owned.allReleased (owned : session.Owned [] [] []) (nameless : session.Nameless) :
    session.AllReleased := by
  have gone := owned.eq_none nameless
  have recorded := owned.intact.recorded
  have native := owned.intact.native
  have empty : ∀ {number? : Resource → Option Nat} {contains : Nat → Bool},
      Present session.forest number? contains → ∀ endpoint, contains endpoint = false := by
    intro number? contains present endpoint
    cases there : contains endpoint with
    | false => rfl
    | true =>
        obtain ⟨handle, held, found, _⟩ := (present endpoint).1 there
        rw [gone] at found
        cases found
  constructor
  · intro handle made
    rw [recorded.count, if_pos ⟨made, gone handle⟩]
  · exact empty native.publishersThere
  · exact empty native.subscriptionsThere
  · intro context
    by_cases made : context < session.middleware.transport.contexts.next
    · obtain ⟨handle, content, known, number⟩ := (native.contexts.made_iff context).1 made
      have there := (recorded.made_iff handle).2 ⟨content, known⟩
      obtain ⟨⟨_, held⟩, member, rfl⟩ :=
        List.mem_map.mp ((recorded.gone_iff handle).2 ⟨there, gone handle⟩)
      have same := recorded.identity?_of_mem member
      rw [known, Option.some.injEq] at same
      subst same
      exact native.ended _ member context number
    · unfold Transport.isValid
      cases found : session.middleware.transport.contexts.get? context with
      | none => rfl
      | some state =>
          exact absurd (session.middleware.transport.contexts.lt_next_of_get? found) made

theorem nameless_of_isEmpty (contexts : session.contextNames.entries.isEmpty = true)
    (nodes : session.nodeNames.entries.isEmpty = true)
    (publishers : session.publisherNames.entries.isEmpty = true)
    (subscriptions : session.subscriptionNames.entries.isEmpty = true)
    (executors : session.executors.entries.isEmpty = true) : session.Nameless := by
  have absent : ∀ {Value : Type} (table : Table String Value), table.entries.isEmpty = true →
      ∀ name, table.get? name = none := by
    intro Value table none name
    unfold Table.get?
    rw [List.isEmpty_iff.1 none]
    rfl
  exact ⟨absent _ contexts, absent _ nodes, absent _ publishers, absent _ subscriptions,
    absent _ executors⟩

end Session

end PubSub
