import PubSub.Proofs.Calls.Effect
import PubSub.Proofs.Calls.Initialised
import PubSub.Proofs.Delivery.Ends

/-!
Contexts that have ended.  A context ends by a call on a slot that holds it and by no other, and from then on no
call makes it run again; what ends one context leaves the others and all that was made in them alone.
-/

namespace PubSub

namespace Workspace

variable {workspace after : Workspace} {action : Action} {name : String} {context : Nat}

/-- A call that ends a context: it is shut down or released through a name that holds it. -/
def Ends (workspace : Workspace) (action : Action) (context : Nat) : Prop :=
  ∃ name, workspace.contexts.get? name = some context ∧
    (action = .shutdown (some name) ∨ action = .finiContext (some name))

/-- A context was there and runs no longer. -/
def Ended (workspace : Workspace) (context : Nat) : Prop :=
  ∃ state, workspace.middleware.transport.contexts.get? context = some state ∧ state.valid = false

theorem Ended.isValid (ended : workspace.Ended context) :
    workspace.middleware.transport.isValid context = false := by
  obtain ⟨state, found, invalid⟩ := ended
  unfold Transport.isValid
  rw [found]
  exact invalid

/-- A context stays as it is, or a call on a slot that holds it ends it. -/
theorem Effect.get?_context {answer : Answer} (effect : workspace.Effect action answer after)
    {state : ContextState}
    (found : workspace.middleware.transport.contexts.get? context = some state) :
    after.middleware.transport.contexts.get? context = some state ∨
      workspace.Ends action context ∧
        after.middleware.transport.contexts.get? context = some { state with valid := false } := by
  have old := workspace.middleware.transport.contexts.lt_next_of_get? found
  have modified := fun index => workspace.middleware.transport.contexts.get?_modify index context
    (fun state => { state with valid := false })
  cases effect with
  | noted unmoved noted =>
      obtain ⟨reason, ledger, rfl, _⟩ := noted
      exact .inl found
  | pruned number => exact .inl found
  | contextOpened arguments free =>
      have inserted := workspace.middleware.transport.contexts.get?_insert
        { valid := true, arguments } context
      exact .inl (inserted.trans ((if_neg (Nat.ne_of_lt old)).trans found))
  | @contextEnded name number held =>
      by_cases mine : context = number
      · subst mine
        refine .inr ⟨⟨name, held, .inl rfl⟩, ?_⟩
        exact (modified context).trans ((if_pos rfl).trans (congrArg (Option.map _) found))
      · exact .inl ((modified number).trans ((if_neg mine).trans found))
  | @contextReleased name number held =>
      by_cases mine : context = number
      · subst mine
        refine .inr ⟨⟨name, held, .inr rfl⟩, ?_⟩
        exact (modified context).trans ((if_pos rfl).trans (congrArg (Option.map _) found))
      · exact .inl ((modified number).trans ((if_neg mine).trans found))
  | nodeMade free held runs => exact .inl found
  | nodeReleased node => exact .inl found
  | publisherMade topicName free there runs noted =>
      obtain ⟨reason, ledger, rfl, _⟩ := noted
      exact .inl found
  | publisherReleased gone =>
      refine .inl (Eq.trans ?_ found)
      exact congrArg (fun arena => arena.get? context) (Transport.contexts_dropPublisher _ _)
  | published content publisher endpoint runs =>
      refine .inl (Eq.trans ?_ found)
      exact congrArg (fun arena => arena.get? context)
        (Transport.sameEnds_sendOut (Transport.withStore _ _) _ _ _).contexts
  | subscriptionMade topicName free there runs noted =>
      obtain ⟨reason, ledger, rfl, _⟩ := noted
      refine .inl (Eq.trans ?_ found)
      exact congrArg (fun arena => arena.get? context)
        (Middleware.registerSubscription_transport _ topicName _ _ _).2.contexts
  | subscriptionReleased gone =>
      refine .inl (Eq.trans ?_ found)
      exact congrArg (fun arena => arena.get? context) (Transport.contexts_dropSubscriber _ _)
  | took subscription endpoint runs front =>
      refine .inl (Eq.trans ?_ found)
      exact congrArg (fun arena => arena.get? context) (Transport.sameEnds_takeSample front).contexts

theorem Ended.step (ended : workspace.Ended context) (action : Action) :
    (workspace.step action).2.Ended context := by
  obtain ⟨state, found, invalid⟩ := ended
  rcases (workspace.step_effect action).get?_context found with kept | ⟨_, ended⟩
  · exact ⟨state, kept, invalid⟩
  · exact ⟨_, ended, rfl⟩

/-- No call makes a context run again, whatever is opened meanwhile. -/
theorem Ended.run (ended : workspace.Ended context) (actions : List Action) :
    (workspace.run actions).Ended context := by
  induction actions generalizing workspace with
  | nil => exact ended
  | cons action rest ih => exact ih (ended.step action)

theorem isValid_step {state : ContextState}
    (found : workspace.middleware.transport.contexts.get? context = some state)
    (spared : ¬workspace.Ends action context) :
    (workspace.step action).2.middleware.transport.isValid context =
      workspace.middleware.transport.isValid context := by
  rcases (workspace.step_effect action).get?_context found with kept | ⟨ends, _⟩
  · unfold Transport.isValid
    rw [kept, found]
  · exact absurd ends spared

theorem Ends.step_eq (ends : workspace.Ends action context)
    (succeeded : (workspace.step action).1 = .status .ok) :
    ∃ contexts, (workspace.step action).2 =
        { workspace with
          middleware :=
            workspace.middleware.withTransport (workspace.middleware.transport.invalidate context)
          contexts } ∧
      ∀ name other, other ≠ context → workspace.contexts.get? name = some other →
        contexts.get? name = some other := by
  obtain ⟨name, found, rfl | rfl⟩ := ends
  · unfold step settle at succeeded ⊢
    dsimp only at succeeded ⊢
    rw [slot_eq found] at succeeded ⊢
    unfold Middleware.shutdownContext at succeeded ⊢
    dsimp only at succeeded ⊢
    by_cases runs : workspace.middleware.transport.isValid context
    · rw [if_pos runs]
      exact ⟨workspace.contexts, rfl, fun _ _ _ held => held⟩
    · rw [if_neg runs] at succeeded
      cases succeeded
  · refine ⟨workspace.contexts.erase name, ?_, ?_⟩
    · unfold step clearSlot
      dsimp only
      rw [slot_eq found]
      rfl
    · intro second other different held
      have apart : second ≠ name := by
        rintro rfl
        rw [found, Option.some.injEq] at held
        exact different held.symm
      rw [Table.get?_erase, if_neg apart]
      exact held

theorem Ends.ended (ends : workspace.Ends action context) (wired : Wired workspace)
    (succeeded : (workspace.step action).1 = .status .ok) :
    (workspace.step action).2.Ended context := by
  obtain ⟨name, held, _⟩ := id ends
  obtain ⟨state, found⟩ := wired.contexts name context held
  obtain ⟨contexts, same, _⟩ := ends.step_eq succeeded
  rw [same]
  refine ⟨{ state with valid := false }, ?_, rfl⟩
  exact (workspace.middleware.transport.contexts.get?_modify context context _).trans
    ((if_pos rfl).trans (congrArg (Option.map _) found))

theorem isValid_invalidate_of_ne (transport : Transport) {other : Nat} (different : other ≠ context) :
    (transport.invalidate context).isValid other = transport.isValid other := by
  unfold Transport.isValid Transport.invalidate
  dsimp only
  rw [Arena.get?_modify, if_neg different]

theorem answer_contextIsValid (found : workspace.contexts.get? name = some context) :
    (workspace.step (.contextIsValid (some name))).1 =
      .flag (workspace.middleware.transport.isValid context) := by
  unfold step
  dsimp only
  rw [slot_eq found]
  rfl

theorem answer_nodeInfo {node : NodeState} (found : workspace.nodes.get? name = some node) :
    (workspace.step (.nodeInfo (some name))).1 =
      .node (workspace.middleware.transport.isValid node.context) (some node.owner) := by
  unfold step
  dsimp only
  rw [validNode?_slot found, slot_eq found]
  cases workspace.middleware.transport.isValid node.context <;> rfl

/-- What a call makes is on record with the context that it is made in: a node's own, an endpoint's is that of its node. -/
structure RecordsContexts (workspace : Workspace) : Prop where
  initNode : ∀ name given space context options,
    let made := workspace.step (.initNode (some name) given space (some context) options)
    made.1 = .status .ok → ∃ node, made.2.nodes.get? name = some node ∧
      workspace.contexts.get? context = some node.context
  initPublisher : ∀ name node support topic options,
    let made := workspace.step (.initPublisher (some name) (some node) support topic options)
    made.1 = .status .ok → ∃ owner held, workspace.nodes.get? node = some owner ∧
      made.2.publisherOf name = some held ∧ held.context = owner.context
  initSubscription : ∀ name node support topic options,
    let made := workspace.step (.initSubscription (some name) (some node) support topic options)
    made.1 = .status .ok → ∃ owner held, workspace.nodes.get? node = some owner ∧
      made.2.subscriberOf name = some held ∧ held.context = owner.context

theorem recordsContexts (workspace : Workspace) : workspace.RecordsContexts where
  initNode name given space context options := by
    intro made succeeded
    have cases := workspace.middleware.initNode_cases (slot workspace.nodes (some name)) given space
      (slot workspace.contexts (some context)) options
    unfold made step at succeeded ⊢
    dsimp only at succeeded ⊢
    generalize workspace.middleware.initNode _ given space _ options = outcome at cases succeeded ⊢
    obtain ⟨fault | node, changed⟩ := outcome
    · exact absurd (Answer.status.inj succeeded) fault.status_ne_ok
    · exact ⟨node, (workspace.nodes.get?_set name name node).trans (if_pos rfl), Option.some.inj (cases.2 node rfl)⟩
  initPublisher name node support topic options := by
    intro made succeeded
    rcases workspace.middleware.initPublisher_cases (slot workspace.publishers (some name))
        (slot workspace.nodes (some node)) support topic options with
      ⟨⟨fault, failed⟩, _⟩ | ⟨kind, qos, owner, topicName, resolved, _, rfl, rfl, slot, _, _, _, told⟩
    · have answered := step_initPublisher_error (Prod.ext failed rfl)
      rw [show made = _ from answered] at succeeded
      exact absurd (Answer.status.inj succeeded) fault.status_ne_ok
    · rw [show made = _ from step_initPublisher_ok told]
      have named := (workspace.publishers.get?_set name name
        (resolved.registerPublisher topicName kind qos.resolve owner.context).1).trans (if_pos rfl)
      have inserted := (resolved.transport.publishers.get?_insert
        { qos := qos.resolve, context := owner.context, history := [] } resolved.transport.publishers.next).trans
          (if_pos rfl)
      exact ⟨owner, _, Option.some.inj slot, publisherOf_eq_some.2 ⟨_, named, inserted⟩, rfl⟩
  initSubscription name node support topic options := by
    intro made succeeded
    rcases workspace.middleware.initSubscription_cases (slot workspace.subscriptions (some name))
        (slot workspace.nodes (some node)) support topic options with
      ⟨⟨fault, failed⟩, _⟩ | ⟨kind, qos, owner, topicName, resolved, _, rfl, rfl, slot, _, _, _, told⟩
    · have answered := step_initSubscription_error (Prod.ext failed rfl)
      rw [show made = _ from answered] at succeeded
      exact absurd (Answer.status.inj succeeded) fault.status_ne_ok
    · rw [show made = _ from step_initSubscription_ok told]
      have ends := resolved.pruneGraph.transport.addSubscriber_ends
        (resolved.pruneGraph.topic (Middleware.topicKey topicName qos.resolve.plainTopic kind)) qos.resolve owner.context
      have named := (workspace.subscriptions.get?_set name name
        (resolved.registerSubscription topicName kind qos.resolve owner.context).1).trans (if_pos rfl)
      have inserted := (ends.2 resolved.transport.subscribers.next).trans (if_pos rfl)
      exact ⟨owner, _, Option.some.inj slot, subscriberOf_eq_some.2 ⟨_, named, inserted⟩, rfl⟩

/-- Nodes and endpoints are on record with the context that they are made in, and valid as long as it is. -/
structure FollowsContexts (workspace : Workspace) : Prop extends workspace.RecordsContexts where
  nodes : ∀ name node, workspace.nodes.get? name = some node →
    (workspace.step (.nodeInfo (some name))).1 =
      .node (workspace.middleware.transport.isValid node.context) (some node.owner)
  publishers : ∀ name held, workspace.publisherOf name = some held →
    ∃ topic, (workspace.step (.publisherInfo (some name))).1 =
      .endpoint (workspace.middleware.transport.isValid held.context) (some topic)
  subscriptions : ∀ name held, workspace.subscriberOf name = some held →
    ∃ topic, (workspace.step (.subscriptionInfo (some name))).1 =
      .endpoint (workspace.middleware.transport.isValid held.context) (some topic)

theorem followsContexts (workspace : Workspace) : workspace.FollowsContexts where
  toRecordsContexts := workspace.recordsContexts
  nodes _ _ found := answer_nodeInfo found
  publishers name held found := by
    obtain ⟨state, there, endpoint⟩ := publisherOf_eq_some.1 found
    exact ⟨state.topicName, answer_publisherInfo there endpoint⟩
  subscriptions name held found := by
    obtain ⟨state, there, endpoint⟩ := subscriberOf_eq_some.1 found
    exact ⟨state.topicName, answer_subscriptionInfo there endpoint⟩

/-- What was made in other contexts, and those contexts themselves, are as valid as before. -/
structure SparesOthers (before after : Workspace) (context : Nat) : Prop where
  contexts : ∀ name other, before.contexts.get? name = some other → other ≠ context →
    (after.step (.contextIsValid (some name))).1 = (before.step (.contextIsValid (some name))).1
  nodes : ∀ name node, before.nodes.get? name = some node → node.context ≠ context →
    (after.step (.nodeInfo (some name))).1 = (before.step (.nodeInfo (some name))).1
  publishers : ∀ name held, before.publisherOf name = some held → held.context ≠ context →
    (after.step (.publisherInfo (some name))).1 = (before.step (.publisherInfo (some name))).1
  subscriptions : ∀ name held, before.subscriberOf name = some held → held.context ≠ context →
    (after.step (.subscriptionInfo (some name))).1 =
      (before.step (.subscriptionInfo (some name))).1

theorem Ends.sparesOthers (ends : workspace.Ends action context)
    (succeeded : (workspace.step action).1 = .status .ok) :
    workspace.SparesOthers (workspace.step action).2 context := by
  obtain ⟨contexts, same, kept⟩ := ends.step_eq succeeded
  have middleware := congrArg Workspace.middleware same
  have nodes := congrArg Workspace.nodes same
  have publishers := congrArg Workspace.publishers same
  have subscriptions := congrArg Workspace.subscriptions same
  have held := congrArg Workspace.contexts same
  generalize (workspace.step action).2 = after at *
  have valid : ∀ other, other ≠ context →
      after.middleware.transport.isValid other = workspace.middleware.transport.isValid other := by
    intro other different
    rw [middleware]
    exact isValid_invalidate_of_ne _ different
  constructor
  · intro name other found different
    have still : after.contexts.get? name = some other := by
      rw [held]
      exact kept name other different found
    rw [answer_contextIsValid found, answer_contextIsValid still, valid other different]
  · intro name node found different
    have still : after.nodes.get? name = some node := by
      rw [nodes]
      exact found
    rw [answer_nodeInfo found, answer_nodeInfo still, valid node.context different]
  · intro name state found different
    obtain ⟨here, there, endpoint⟩ := publisherOf_eq_some.1 found
    have still : after.publishers.get? name = some here := by
      rw [publishers]
      exact there
    have also : after.middleware.transport.publishers.get? here.endpoint = some state := by
      rw [middleware]
      exact endpoint
    rw [answer_publisherInfo there endpoint, answer_publisherInfo still also,
      valid state.context different]
  · intro name state found different
    obtain ⟨here, there, endpoint⟩ := subscriberOf_eq_some.1 found
    have still : after.subscriptions.get? name = some here := by
      rw [subscriptions]
      exact there
    have also : after.middleware.transport.subscribers.get? here.endpoint = some state := by
      rw [middleware]
      exact endpoint
    rw [answer_subscriptionInfo there endpoint, answer_subscriptionInfo still also,
      valid state.context different]

end Workspace

end PubSub
