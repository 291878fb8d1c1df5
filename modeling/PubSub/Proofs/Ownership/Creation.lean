import PubSub.Proofs.Client.Operations
import PubSub.Proofs.Ownership.Calls
import PubSub.Proofs.Ownership.Session

/-!
Making things keeps owners.  A resource that was initialised is given to a handle at once, and the handle to
an object or a name.
-/

namespace PubSub

namespace Session

variable {session : Session} {handles nodes subscriptions : List Nat}

theorem Owned.makeHandle (owned : session.Owned handles nodes subscriptions) {middleware : Middleware}
    (kind : Bytes) (resource : Resource) (parent : Option Nat)
    (native : Native (session.forest.make kind resource parent).2 middleware.transport)
    (mounted : resource.Mounted session.forest parent)
    (present : ∀ above, parent = some above → ∃ held, session.forest.get? above = some held) :
    (({ session with middleware } : Session).makeHandle kind resource parent).2.Owned
      ((({ session with middleware } : Session).makeHandle kind resource parent).1 :: handles)
      nodes subscriptions := by
  have number : (({ session with middleware } : Session).makeHandle kind resource parent).1 =
      session.forest.handles.next := by
    unfold Session.makeHandle Forest.make
    cases parent <;> rfl
  have balanced := owned.handles.make kind resource parent
    (fun above member => present above member)
  refine ⟨⟨owned.intact.recorded.make kind resource parent,
    owned.intact.attached.make owned.intact.recorded mounted, native, owned.intact.faultless⟩, ?_,
    owned.nodes, owned.subscriptions, owned.scripts⟩
  rw [number]
  refine balanced.congr (fun other => ?_)
  have same : (({ session with middleware } : Session).makeHandle kind resource parent).2.handleHolders
      other = session.handleHolders other := rfl
  rw [same, count_cons_eq session.forest.handles.next other handles]
  omega

theorem Owned.swap {first second : Nat}
    (owned : session.Owned (first :: second :: handles) nodes subscriptions) :
    session.Owned (second :: first :: handles) nodes subscriptions := by
  refine owned.shift rfl rfl rfl rfl rfl (fun other => ?_) (fun _ => rfl) (fun _ => rfl)
  rw [count_cons_eq first other (second :: handles), count_cons_eq second other handles,
    count_cons_eq second other (first :: handles), count_cons_eq first other handles]
  omega

theorem Owned.exists_of_contextName (owned : session.Owned handles nodes subscriptions)
    {name : String} {handle : Nat} (named : session.contextNames.get? name = some handle) :
    ∃ state, session.forest.get? handle = some state := by
  apply owned.exists_handle
  have atMost := session.contextNames.le_total named (fun owner => [owner].count handle)
  rw [List.count_singleton_self] at atMost
  unfold handleHolders
  omega

theorem Owned.exists_of_publisherName (owned : session.Owned handles nodes subscriptions)
    {name : String} {publisher : PublisherObject}
    (named : session.publisherNames.get? name = some publisher) :
    ∃ state, session.forest.get? publisher.handle = some state := by
  apply owned.exists_handle
  have atMost := session.publisherNames.le_total named (fun held => [held.handle].count publisher.handle)
  rw [List.count_singleton_self] at atMost
  unfold handleHolders
  omega

theorem Owned.exists_of_node (owned : session.Owned handles nodes subscriptions) {index : Nat}
    {object : NodeObject} (found : session.nodes.get? index = some object) :
    (∃ held, session.forest.get? object.handle = some held) ∧
      ∃ held, session.forest.get? object.context = some held := by
  have atMost := fun handle => session.nodes.le_total found
    (fun node => [node.handle].count handle + [node.context].count handle)
  refine ⟨owned.exists_handle ?_, owned.exists_handle ?_⟩
  · have here := atMost object.handle
    rw [List.count_singleton_self] at here
    unfold handleHolders
    omega
  · have here := atMost object.context
    rw [List.count_singleton_self] at here
    unfold handleHolders
    omega

theorem contextSlot_eq_some {handle context : Nat}
    (slot : session.contextSlot handle = some context) :
    ∃ held, session.forest.get? handle = some held ∧
      session.forest.identity? handle = some (held.kind, .context (some context), held.parent) := by
  unfold contextSlot at slot
  split at slot
  · rename_i kind filled parent owners found
    rw [slot] at found
    exact ⟨_, found, Forest.identity?_of_get? found⟩
  · cases slot

theorem nodeSlot_eq_some {handle : Nat} {node : NodeState}
    (slot : nodeSlot (session.forest.get? handle) = some (some node)) :
    ∃ held, session.forest.get? handle = some held ∧
      session.forest.identity? handle = some (held.kind, .node (some node), held.parent) := by
  unfold nodeSlot at slot
  split at slot
  · rename_i kind filled parent owners found
    rw [Option.some.injEq] at slot
    rw [slot] at found
    exact ⟨_, found, Forest.identity?_of_get? found⟩
  · cases slot

theorem Owned.noteMade (owned : session.Owned handles nodes subscriptions) (sort : Owning)
    (name : String) (handle : Nat) :
    (session.noteMade sort name handle).Owned handles nodes subscriptions :=
  owned.shift rfl rfl rfl rfl rfl (fun _ => rfl) (fun _ => rfl) (fun _ => rfl)

theorem Owned.contextMade (owned : session.Owned handles nodes subscriptions) (name : String)
    {arguments : List Bytes} {context : Nat} {middleware : Middleware}
    (made : (Request.initContext arguments).outcome session.middleware = (.ok context, middleware)) :
    (session.contextMade name context middleware).Owned handles nodes subscriptions := by
  dsimp only [Request.outcome] at made
  rcases session.middleware.initContext_cases (some none) (some (arguments.map some))
    arguments.length with ⟨⟨_, failed⟩, _⟩ | ⟨_, next, opened⟩
  · rw [made] at failed
    cases failed
  · rw [made] at next opened
    cases next
    have native : Native
        (session.forest.make (Bytes.ofString "context")
          (.context (some session.middleware.transport.contexts.next)) none).2 middleware.transport := by
      rw [opened]
      apply owned.intact.native.make owned.intact.recorded
      · exact .inr ⟨rfl, rfl⟩
      · exact .inl ⟨rfl, rfl⟩
      · exact .inl ⟨rfl, rfl⟩
      · intro index
        simp [Transport.openContext, Resource.publisher?]
      · intro index
        simp [Transport.openContext, Resource.subscription?]
      · intro number old runs
        unfold Transport.isValid Transport.openContext at runs
        dsimp only at runs
        rw [Arena.get?_insert, if_neg (Nat.ne_of_lt old)] at runs
        exact runs
    have present : ∀ above, (none : Option Nat) = some above →
        ∃ held, session.forest.get? above = some held := by
      intro above same
      cases same
    exact ((owned.makeHandle _ _ _ native ⟨rfl, rfl⟩ present).nameContext name).noteMade _ _ _

theorem Owned.nodeMade (owned : session.Owned handles nodes subscriptions) (name : String)
    {contextName : String} {context : Nat} {nodeName space : Bytes} {state : NodeState} {middleware : Middleware}
    (found : session.contextNames.get? contextName = some context)
    (made : (Request.initNode nodeName space (session.contextSlot context)).outcome session.middleware =
      (.ok state, middleware)) :
    (session.nodeMade name nodeName context state middleware).Owned handles nodes subscriptions := by
  have cases := session.middleware.initNode_cases (some none) (some nodeName) (some space)
    (some (session.contextSlot context)) (some true)
  dsimp only [Request.outcome] at made
  rw [made] at cases
  obtain ⟨parent, there, known⟩ := contextSlot_eq_some (Option.some.inj (cases.2 state rfl))
  have native : Native
      (session.forest.make (Run.quotedKind "node" nodeName) (.node (some state)) (some context)).2
      middleware.transport := by
    rw [show middleware.transport = _ from cases.1]
    apply owned.intact.native.make owned.intact.recorded
    · exact .inl ⟨rfl, rfl⟩
    · exact .inl ⟨rfl, rfl⟩
    · exact .inl ⟨rfl, rfl⟩
    · intro index
      simp [Resource.publisher?]
    · intro index
      simp [Resource.subscription?]
    · exact fun number _ runs => runs
  have inHand := owned.makeHandle (Run.quotedKind "node" nodeName) (.node (some state)) (some context)
    native ⟨rfl, context, _, _, _, rfl, known⟩ (fun _ above => ⟨parent, Option.some.inj above ▸ there⟩)
  have shared := (inHand.retainHandle (inHand.exists_of_contextName found)).swap
  exact (shared.insertNode.nameNode name).noteMade .node name _

theorem Owned.publisherMade (owned : session.Owned handles nodes subscriptions) (name : String)
    {node : Nat} {kind : MessageKind} {topic : Bytes} {qos : Qos} {state : PublisherState} {middleware : Middleware}
    (made : (Request.initPublisher (nodeSlot (session.forest.get? node)) kind topic qos).outcome
      session.middleware = (.ok state, middleware)) :
    (session.publisherMade name topic kind node state middleware).Owned handles nodes subscriptions := by
  dsimp only [Request.outcome] at made
  rcases session.middleware.initPublisher_cases (some none) (nodeSlot (session.forest.get? node))
    (some (.complete kind)) (some topic) (some qos) with ⟨⟨_, failed⟩, _⟩ |
      ⟨kind', qos', owner, topicName, resolved, _, _, _, slot, _, before, _, registered⟩
  · rw [made] at failed
    cases failed
  · obtain ⟨parent, there, known⟩ := nodeSlot_eq_some slot
    obtain ⟨endpoint, opened⟩ :=
      resolved.registerPublisher_transport topicName kind' qos'.resolve owner.context
    rw [before] at endpoint opened
    cases made.symm.trans registered
    have native : Native
        (session.forest.make (Run.quotedKind "publisher" topic)
          (.publisher (some (resolved.registerPublisher topicName kind' qos'.resolve owner.context).1))
          (some node)).2
        (resolved.registerPublisher topicName kind' qos'.resolve owner.context).2.transport := by
      rw [opened]
      apply owned.intact.native.make owned.intact.recorded
      · exact .inl ⟨rfl, rfl⟩
      · exact .inr ⟨congrArg some endpoint, rfl⟩
      · exact .inl ⟨rfl, rfl⟩
      · intro other
        simp only [Arena.contains_insert, Resource.publisher?, Option.map_some, endpoint,
          Bool.or_eq_true, decide_eq_true_eq, Option.some.injEq]
        exact or_comm.trans (or_congr_right eq_comm)
      · intro other
        simp [Resource.subscription?]
      · exact fun number _ runs => runs
    have inHand := owned.makeHandle (Run.quotedKind "publisher" topic) _ (some node) native
      ⟨rfl, node, _, _, _, rfl, known⟩ (fun _ above => ⟨parent, Option.some.inj above ▸ there⟩)
    exact Owned.noteMade (Owned.namePublisher inHand name) .publisher name _

theorem Owned.subscriptionMade (owned : session.Owned handles nodes subscriptions) (name : String)
    {index node : Nat} {kind : MessageKind} {topic : Bytes} {qos : Qos} (registered : Bool) {script : Script}
    {state : SubscriptionState} {middleware : Middleware} (orderly : orderlyScript script = true)
    (made : (Request.initSubscription (nodeSlot (session.forest.get? node)) kind topic qos).outcome
      session.middleware = (.ok state, middleware)) :
    (session.subscriptionMade name topic kind registered script index node state middleware).Owned
      handles nodes subscriptions := by
  dsimp only [Request.outcome] at made
  rcases session.middleware.initSubscription_cases (some none) (nodeSlot (session.forest.get? node))
    (some (.complete kind)) (some topic) (some qos) with ⟨⟨_, failed⟩, _⟩ |
      ⟨kind', qos', owner, topicName, resolved, _, _, _, slot, _, before, _, answered⟩
  · rw [made] at failed
    cases failed
  · obtain ⟨parent, there, known⟩ := nodeSlot_eq_some slot
    obtain ⟨endpoint, opened⟩ :=
      resolved.registerSubscription_transport topicName kind' qos'.resolve owner.context
    rw [before] at endpoint opened
    cases made.symm.trans answered
    have native : Native
        (session.forest.make (Run.quotedKind "subscription" topic)
          (.subscription
            (some (resolved.registerSubscription topicName kind' qos'.resolve owner.context).1))
          (some node)).2
        (resolved.registerSubscription topicName kind' qos'.resolve owner.context).2.transport := by
      apply owned.intact.native.make owned.intact.recorded
      · exact .inl ⟨rfl, congrArg Arena.next opened.contexts⟩
      · exact .inl ⟨rfl, opened.nextPublisher⟩
      · exact .inr ⟨congrArg some endpoint, opened.nextSubscriber⟩
      · intro other
        rw [opened.publishers]
        simp [Resource.publisher?]
      · intro other
        rw [opened.subscribers]
        simp only [Arena.contains_insert, Resource.subscription?, Option.map_some, endpoint,
          Bool.or_eq_true, decide_eq_true_eq, Option.some.injEq]
        exact or_comm.trans (or_congr_right eq_comm)
      · intro number old runs
        unfold Transport.isValid at runs ⊢
        rw [opened.contexts] at runs
        exact runs
    have inHand := owned.makeHandle (Run.quotedKind "subscription" topic) _ (some node) native
      ⟨rfl, node, _, _, _, rfl, known⟩ (fun _ above => ⟨parent, Option.some.inj above ▸ there⟩)
    apply Owned.noteMade
    apply Owned.nameSubscription
    cases registered with
    | false => exact inHand.insertSubscription rfl orderly
    | true =>
        exact (inHand.insertSubscription rfl orderly).modifyNode index _ (fun _ => rfl)
          (fun _ => rfl) (fun _ => rfl)

end Session

end PubSub
