import PubSub.Proofs.Client.Moves

/-!
Links.  The names, objects and handles of a session and the endpoints of its transport agree on what belongs to what: a
node stands on the context that its state tells, and an endpoint belongs to the context of its node.  What is said here
is about what is there; that it is there is a matter of ownership.
-/

namespace PubSub

theorem Table.of_get?_set {Key Value : Type} [DecidableEq Key] {table : Table Key Value}
    {key other : Key} {value held : Value} (found : (table.set key value).get? other = some held) :
    held = value ∨ table.get? other = some held := by
  rw [get?_set] at found
  by_cases same : other = key
  · rw [if_pos same, Option.some.injEq] at found
    exact .inl found.symm
  · rw [if_neg same] at found
    exact .inr found

theorem Arena.of_get?_insert {Value : Type} {arena : Arena Value} {index : Nat} {value held : Value}
    (found : (arena.insert value).2.get? index = some held) :
    held = value ∨ arena.get? index = some held := by
  rw [get?_insert] at found
  by_cases new : index = arena.next
  · rw [if_pos new, Option.some.injEq] at found
    exact .inl found.symm
  · rw [if_neg new] at found
    exact .inr found

namespace Transport

structure Extends (before after : Transport) : Prop where
  publishers : ∀ index held, index < before.publishers.next → after.publishers.get? index = some held →
    ∃ old, before.publishers.get? index = some old ∧ old.context = held.context
  subscribers : ∀ index held, index < before.subscribers.next →
    after.subscribers.get? index = some held →
      ∃ old, before.subscribers.get? index = some old ∧ old.context = held.context
  contexts : (∀ number, number < before.contexts.next → before.contexts.contains number = true) →
    ∀ number, number < after.contexts.next → after.contexts.contains number = true

variable {before between after : Transport}

theorem Shrinks.extends (shrinks : before.Shrinks after) : before.Extends after := by
  refine ⟨fun index held _ => shrinks.publishers index held,
    fun index held _ => shrinks.subscribers index held, fun known number early => ?_⟩
  rw [shrinks.contexts]
  exact known number (shrinks.next ▸ early)

theorem Extends.shrinks (early : before.Extends between) (late : between.Shrinks after) :
    before.Extends after := by
  refine ⟨fun index held old found => ?_, fun index held old found => ?_,
    fun known => late.extends.contexts (early.contexts known)⟩
  · obtain ⟨middle, there, same⟩ := late.publishers index held found
    obtain ⟨first, present, context⟩ := early.publishers index middle old there
    exact ⟨first, present, context.trans same⟩
  · obtain ⟨middle, there, same⟩ := late.subscribers index held found
    obtain ⟨first, present, context⟩ := early.subscribers index middle old there
    exact ⟨first, present, context.trans same⟩

variable (transport : Transport)

theorem extends_openContext (arguments : Arguments) :
    transport.Extends (transport.openContext arguments).2 := by
  refine ⟨fun index held _ found => ⟨held, found, rfl⟩, fun index held _ found => ⟨held, found, rfl⟩, ?_⟩
  intro known number early
  have inserted := transport.contexts.get?_insert { valid := true, arguments } number
  rw [Arena.contains_iff]
  by_cases new : number = transport.contexts.next
  · rw [if_pos new] at inserted
    exact ⟨_, inserted⟩
  · rw [if_neg new] at inserted
    have before : number < transport.contexts.next + 1 := early
    obtain ⟨state, there⟩ := (transport.contexts.contains_iff number).1 (known number (by omega))
    exact ⟨state, inserted.trans there⟩

theorem extends_insertPublisher (held : PublisherEnd) :
    transport.Extends { transport with publishers := (transport.publishers.insert held).2 } := by
  refine ⟨fun index found old there => ?_, fun index found _ there => ⟨found, there, rfl⟩, id⟩
  rw [Arena.get?_insert, if_neg (by omega)] at there
  exact ⟨found, there, rfl⟩

theorem extends_insertSubscriber (held : SubscriberEnd) :
    transport.Extends { transport with subscribers := (transport.subscribers.insert held).2 } := by
  refine ⟨fun index found _ there => ⟨found, there, rfl⟩, fun index found old there => ?_, id⟩
  rw [Arena.get?_insert, if_neg (by omega)] at there
  exact ⟨found, there, rfl⟩

theorem shrinks_addSubscriber (topic : Topic) (qos : Qos) (context : Nat) :
    Shrinks
      { transport with
        subscribers := (transport.subscribers.insert { qos, context, queue := .ofQos qos }).2 }
      (transport.addSubscriber topic qos context).2.2 := by
  unfold addSubscriber
  dsimp only
  generalize (replayed _ topic qos) = samples
  generalize { transport with subscribers := _ } = registered
  induction samples generalizing registered with
  | nil => exact .refl registered
  | cons sample rest ih => exact (registered.shrinks_deliver _ _).trans (ih _)

end Transport

namespace Session

def Holds (session : Session) (handle : Nat) (resource : Resource) (parent : Option Nat) : Prop :=
  ∃ held, session.forest.get? handle = some held ∧ held.resource = resource ∧ held.parent = parent

structure Linked (session : Session) : Prop where
  known : ∀ number, number < session.middleware.transport.contexts.next →
    session.middleware.transport.contexts.contains number = true
  context : ∀ handle resource parent, AtHand session.contextNames session.nodes handle →
    session.Holds handle resource parent → ∃ number, resource = .context (some number)
  node : ∀ index (object : NodeObject) resource parent, session.nodes.get? index = some object →
    session.Holds object.handle resource parent →
      parent = some object.context ∧ ∃ state, resource = .node (some state)
  publisherName : ∀ name (object : PublisherObject) resource parent,
    session.publisherNames.get? name = some object → session.Holds object.handle resource parent →
      ∃ state, resource = .publisher (some state) ∧ state.kind = object.kind
  subscription : ∀ index (object : SubscriptionObject) resource parent,
    session.subscriptions.get? index = some object → session.Holds object.handle resource parent →
      ∃ state, resource = .subscription (some state) ∧ state.kind = object.kind
  nodeContext : ∀ handle above state resource root,
    session.Holds handle (.node (some state)) (some above) → session.Holds above resource root →
      resource = .context (some state.context)
  publisherContext : ∀ handle above (state : PublisherState) (node : NodeState) root held,
    session.Holds handle (.publisher (some state)) (some above) →
      session.Holds above (.node (some node)) root →
        session.middleware.transport.publishers.get? state.endpoint = some held →
          held.context = node.context
  subscriptionContext : ∀ handle above (state : SubscriptionState) (node : NodeState) root held,
    session.Holds handle (.subscription (some state)) (some above) →
      session.Holds above (.node (some node)) root →
        session.middleware.transport.subscribers.get? state.endpoint = some held →
          held.context = node.context

theorem linked_empty : empty.Linked := by
  have none : ∀ handle resource parent, ¬ empty.Holds handle resource parent :=
    fun _ _ _ ⟨_, found, _⟩ => nomatch found
  exact
    { known := fun number early => absurd early (Nat.not_lt_zero number)
      context := fun _ _ _ _ holds => absurd holds (none _ _ _)
      node := fun _ _ _ _ _ holds => absurd holds (none _ _ _)
      publisherName := fun _ _ _ _ _ holds => absurd holds (none _ _ _)
      subscription := fun _ _ _ _ _ holds => absurd holds (none _ _ _)
      nodeContext := fun _ _ _ _ _ holds => absurd holds (none _ _ _)
      publisherContext := fun _ _ _ _ _ _ holds => absurd holds (none _ _ _)
      subscriptionContext := fun _ _ _ _ _ _ holds => absurd holds (none _ _ _) }

variable {session after : Session} {handle : Nat} {resource : Resource} {parent : Option Nat}
  {handles nodes subscriptions : List Nat}

theorem Fades.holds (fades : session.Fades after) (holds : after.Holds handle resource parent) :
    session.Holds handle resource parent := by
  obtain ⟨held, found, rfl, rfl⟩ := holds
  obtain ⟨old, there, same⟩ := fades.handles handle held found
  exact ⟨old, there, congrArg (fun content => content.2.1) same, congrArg (fun content => content.2.2) same⟩

theorem Linked.fades (linked : session.Linked) (fades : session.Fades after) : after.Linked where
  known := fades.middleware.transport.extends.contexts linked.known
  context handle resource parent known holds :=
    linked.context handle resource parent (fades.atHand known) (fades.holds holds)
  node index object resource parent found holds := by
    obtain ⟨old, there, same⟩ := fades.nodes index object found
    obtain ⟨handle, context⟩ := Prod.mk.inj same
    rw [← handle] at holds
    rw [← context]
    exact linked.node index old resource parent there (fades.holds holds)
  publisherName name object resource parent named holds := by
    obtain ⟨old, there⟩ := fades.publisherNames name object named
    exact linked.publisherName old object resource parent there (fades.holds holds)
  subscription index object resource parent found holds := by
    obtain ⟨old, there, same⟩ := fades.subscriptions index object found
    obtain ⟨handle, kind⟩ := Prod.mk.inj same
    rw [← handle] at holds
    rw [← kind]
    exact linked.subscription index old resource parent there (fades.holds holds)
  nodeContext handle above state resource root holds upward :=
    linked.nodeContext handle above state resource root (fades.holds holds) (fades.holds upward)
  publisherContext handle above state node root held holds upward found := by
    obtain ⟨old, there, same⟩ := fades.middleware.transport.publishers _ held found
    rw [← same]
    exact linked.publisherContext handle above state node root old (fades.holds holds)
      (fades.holds upward) there
  subscriptionContext handle above state node root held holds upward found := by
    obtain ⟨old, there, same⟩ := fades.middleware.transport.subscribers _ held found
    rw [← same]
    exact linked.subscriptionContext handle above state node root old (fades.holds holds)
      (fades.holds upward) there

theorem Linked.contextName (linked : session.Linked) (name : String) (handle : Nat) (resource : Resource)
    (parent : Option Nat) (named : session.contextNames.get? name = some handle)
    (holds : session.Holds handle resource parent) : ∃ number, resource = .context (some number) :=
  linked.context handle resource parent (.inl ⟨name, named⟩) holds

theorem Linked.shrinks (linked : session.Linked) (shrinks : session.Shrinks after) : after.Linked :=
  linked.fades shrinks.toFades

def Fits (session : Session) (transport : Transport) (parent : Option Nat) : Resource → Prop
  | .context _ => True
  | .node slot => ∀ above state resource root, slot = some state → parent = some above →
      session.Holds above resource root → resource = .context (some state.context)
  | .publisher slot => ∀ above state node root held, slot = some state → parent = some above →
      session.Holds above (.node (some node)) root →
        transport.publishers.get? state.endpoint = some held → held.context = node.context
  | .subscription slot => ∀ above state node root held, slot = some state → parent = some above →
      session.Holds above (.node (some node)) root →
        transport.subscribers.get? state.endpoint = some held → held.context = node.context

theorem Holds.lt_next (holds : session.Holds handle resource parent) :
    handle < session.forest.handles.next := by
  obtain ⟨held, found, _⟩ := holds
  exact session.forest.handles.lt_next_of_get? found

theorem Owned.parent_lt_next (owned : session.Owned handles nodes subscriptions) {above : Nat}
    (holds : session.Holds handle resource (some above)) : above < session.forest.handles.next := by
  obtain ⟨held, found, _, upward⟩ := holds
  obtain ⟨owner, there⟩ := owned.handles.exists_parent found upward
  exact session.forest.handles.lt_next_of_get? there

theorem holds_makeHandle {middleware : Middleware} {kind : Bytes} {made : Resource}
    {below : Option Nat}
    (holds : (({ session with middleware } : Session).makeHandle kind made below).2.Holds handle
      resource parent) :
    handle = session.forest.handles.next ∧ resource = made ∧ parent = below ∨
      session.Holds handle resource parent := by
  obtain ⟨held, found, rfl, rfl⟩ := holds
  have content := session.forest.content_make kind made below handle
  have there : (session.forest.make kind made below).2.get? handle = some held := found
  rw [there, Option.map_some] at content
  by_cases new : handle = session.forest.handles.next
  · rw [if_pos new, Option.some.injEq] at content
    exact .inl ⟨new, congrArg (fun content => content.2.1) content,
      congrArg (fun content => content.2.2) content⟩
  · rw [if_neg new] at content
    obtain ⟨old, present, same⟩ := Option.map_eq_some_iff.1 content.symm
    exact .inr ⟨old, present, congrArg (fun content => content.2.1) same,
      congrArg (fun content => content.2.2) same⟩

theorem Owned.exists_of_subscription (owned : session.Owned handles nodes subscriptions) {index : Nat}
    {object : SubscriptionObject} (found : session.subscriptions.get? index = some object) :
    ∃ held, session.forest.get? object.handle = some held := by
  have atMost := session.subscriptions.le_total found
    (fun subscription => [subscription.handle].count object.handle)
  rw [List.count_singleton_self] at atMost
  apply owned.exists_handle
  unfold handleHolders
  omega

theorem Owned.publisher_lt_next (owned : session.Owned handles nodes subscriptions)
    {state : PublisherState} (holds : session.Holds handle (.publisher (some state)) parent) :
    state.endpoint < session.middleware.transport.publishers.next := by
  obtain ⟨held, found, resource, _⟩ := holds
  refine (owned.intact.native.publishers.made_iff _).2 ⟨handle, _, Forest.identity?_of_get? found, ?_⟩
  exact congrArg Resource.publisher? resource

theorem Owned.subscription_lt_next (owned : session.Owned handles nodes subscriptions)
    {state : SubscriptionState} (holds : session.Holds handle (.subscription (some state)) parent) :
    state.endpoint < session.middleware.transport.subscribers.next := by
  obtain ⟨held, found, resource, _⟩ := holds
  refine (owned.intact.native.subscriptions.made_iff _).2
    ⟨handle, _, Forest.identity?_of_get? found, ?_⟩
  exact congrArg Resource.subscription? resource

theorem Owned.exists_of_atHand (owned : session.Owned handles nodes subscriptions) {context : Nat}
    (known : AtHand session.contextNames session.nodes context) : ∃ held, session.forest.get? context = some held := by
  rcases known with ⟨name, named⟩ | ⟨index, node, found, rfl⟩
  · exact owned.exists_of_contextName named
  · exact (owned.exists_of_node found).2

theorem Linked.makeHandle (linked : session.Linked) (owned : session.Owned handles nodes subscriptions)
    {middleware : Middleware} (kind : Bytes) (made : Resource) (below : Option Nat)
    (grows : session.middleware.transport.Extends middleware.transport)
    (fits : session.Fits middleware.transport below made)
    (under : ∀ above, below = some above → above < session.forest.handles.next) :
    (({ session with middleware } : Session).makeHandle kind made below).2.Linked := by
  have old : ∀ {handle resource parent}, handle < session.forest.handles.next →
      (({ session with middleware } : Session).makeHandle kind made below).2.Holds handle resource
        parent → session.Holds handle resource parent := by
    intro handle resource parent early holds
    rcases holds_makeHandle holds with ⟨new, _⟩ | before
    · exact absurd new (Nat.ne_of_lt early)
    · exact before
  have early : ∀ {handle}, (∃ held, session.forest.get? handle = some held) →
      handle < session.forest.handles.next :=
    fun ⟨_, found⟩ => session.forest.handles.lt_next_of_get? found
  exact
    { known := grows.contexts linked.known
      context := fun handle resource parent known holds =>
        linked.context handle resource parent known (old (early (owned.exists_of_atHand known)) holds)
      node := fun index object resource parent found holds =>
        linked.node index object resource parent found
          (old (early (owned.exists_of_node found).1) holds)
      publisherName := fun name object resource parent named holds =>
        linked.publisherName name object resource parent named
          (old (early (owned.exists_of_publisherName named)) holds)
      subscription := fun index object resource parent found holds =>
        linked.subscription index object resource parent found
          (old (early (owned.exists_of_subscription found)) holds)
      nodeContext := by
        intro handle above state resource root holds upward
        rcases holds_makeHandle holds with ⟨_, rfl, rfl⟩ | before
        · exact fits above state resource root rfl rfl (old (under above rfl) upward)
        · exact linked.nodeContext handle above state resource root before
            (old (owned.parent_lt_next before) upward)
      publisherContext := by
        intro handle above state node root held holds upward found
        rcases holds_makeHandle holds with ⟨_, rfl, rfl⟩ | before
        · exact fits above state node root held rfl rfl (old (under above rfl) upward) found
        · obtain ⟨first, there, same⟩ :=
            grows.publishers _ held (owned.publisher_lt_next before) found
          rw [← same]
          exact linked.publisherContext handle above state node root first before
            (old (owned.parent_lt_next before) upward) there
      subscriptionContext := by
        intro handle above state node root held holds upward found
        rcases holds_makeHandle holds with ⟨_, rfl, rfl⟩ | before
        · exact fits above state node root held rfl rfl (old (under above rfl) upward) found
        · obtain ⟨first, there, same⟩ :=
            grows.subscribers _ held (owned.subscription_lt_next before) found
          rw [← same]
          exact linked.subscriptionContext handle above state node root first before
            (old (owned.parent_lt_next before) upward) there }

theorem Linked.nameContext (linked : session.Linked) (name : String) {handle : Nat}
    (filled : ∀ resource parent, session.Holds handle resource parent →
      ∃ number, resource = .context (some number)) : (session.nameContext name handle).Linked := by
  have shrinks := session.shrinks_dropContext name
  have dropped := linked.shrinks shrinks
  refine { dropped with context := fun owner resource parent known holds => ?_ }
  rcases known with ⟨other, named⟩ | node
  · rcases Table.of_get?_set named with rfl | before
    · exact filled resource parent (shrinks.holds holds)
    · exact dropped.contextName other owner resource parent before holds
  · exact dropped.context owner resource parent (.inr node) holds

theorem Linked.namePublisher (linked : session.Linked) (name : String) {publisher : PublisherObject}
    (filled : ∀ resource parent, session.Holds publisher.handle resource parent →
      ∃ state, resource = .publisher (some state) ∧ state.kind = publisher.kind) :
    (session.namePublisher name publisher).Linked := by
  have shrinks := session.shrinks_dropPublisher name
  have dropped := linked.shrinks shrinks
  refine { dropped with publisherName := fun other object resource parent named holds => ?_ }
  rcases Table.of_get?_set named with rfl | before
  · exact filled resource parent (shrinks.holds holds)
  · exact dropped.publisherName other object resource parent before holds

theorem Linked.insertNode (linked : session.Linked) (object : NodeObject)
    (known : AtHand session.contextNames session.nodes object.context)
    (filled : ∀ resource parent, session.Holds object.handle resource parent →
      parent = some object.context ∧ ∃ state, resource = .node (some state)) :
    ({ session with nodes := (session.nodes.insert object).2 } : Session).Linked := by
  refine { linked with context := fun handle resource parent atHand holds => ?_,
                       node := fun index other resource parent found holds => ?_ }
  · rcases atHand with named | ⟨index, other, found, rfl⟩
    · exact linked.context handle resource parent (.inl named) holds
    · rcases Arena.of_get?_insert found with rfl | before
      · exact linked.context _ resource parent known holds
      · exact linked.context _ resource parent (.inr ⟨index, other, before, rfl⟩) holds
  · rcases Arena.of_get?_insert found with rfl | before
    · exact filled resource parent holds
    · exact linked.node index other resource parent before holds

theorem Linked.insertSubscription (linked : session.Linked) (object : SubscriptionObject)
    (filled : ∀ resource parent, session.Holds object.handle resource parent →
      ∃ state, resource = .subscription (some state) ∧ state.kind = object.kind) :
    ({ session with subscriptions := (session.subscriptions.insert object).2 } : Session).Linked := by
  refine { linked with subscription := fun index other resource parent found holds => ?_ }
  rcases Arena.of_get?_insert found with rfl | before
  · exact filled resource parent holds
  · exact linked.subscription index other resource parent before holds

theorem holds_made {middleware : Middleware} {kind : Bytes} {made : Resource} {below : Option Nat}
    (holds : (({ session with middleware } : Session).makeHandle kind made below).2.Holds
      session.forest.handles.next resource parent) : resource = made ∧ parent = below := by
  rcases holds_makeHandle holds with ⟨_, same⟩ | before
  · exact same
  · exact absurd before.lt_next (Nat.lt_irrefl _)

theorem nodeSlot_of_holds {node : NodeState} {parent : Option Nat}
    (holds : session.Holds handle (.node (some node)) parent) :
    nodeSlot (session.forest.get? handle) = some (some node) := by
  obtain ⟨⟨_, resource, _, _⟩, found, same, _⟩ := holds
  cases same
  rw [found]
  rfl

theorem contextSlot_of_holds {number : Nat} {parent : Option Nat}
    (holds : session.Holds handle (.context (some number)) parent) :
    session.contextSlot handle = some number := by
  obtain ⟨⟨_, resource, _, _⟩, found, same, _⟩ := holds
  cases same
  unfold contextSlot
  rw [found]

end Session

namespace Request

variable {middleware after : Middleware} {kind : MessageKind} {topic : Bytes} {qos : Qos}

theorem initContext_made {arguments : List Bytes} {context : Nat}
    (made : (initContext arguments).outcome middleware = (.ok context, after)) :
    ∃ read, after.transport = (middleware.transport.openContext read).2 := by
  rcases middleware.initContext_cases (some none) (some (arguments.map some)) arguments.length with
    ⟨⟨fault, failed⟩, _⟩ | ⟨read, _, opened⟩
  · cases (congrArg Prod.fst made).symm.trans failed
  · exact ⟨read, (congrArg (fun outcome => outcome.2.transport) made).symm.trans opened⟩

theorem initNode_made {name space : Bytes} {context : Slot Nat} {state : NodeState}
    (made : (initNode name space context).outcome middleware = (.ok state, after)) :
    after.transport = middleware.transport ∧ context = some state.context := by
  obtain ⟨kept, slot⟩ := middleware.initNode_cases (some none) (some name) (some space) (some context)
    (some true)
  exact ⟨(congrArg (fun outcome => outcome.2.transport) made).symm.trans kept,
    Option.some.inj (slot state (congrArg Prod.fst made))⟩

theorem initPublisher_made {node : Option (Slot NodeState)} {state : PublisherState}
    (made : (initPublisher node kind topic qos).outcome middleware = (.ok state, after)) :
    ∃ owner : NodeState, node = some (some owner) ∧ state.kind = kind ∧
      middleware.transport.Extends after.transport ∧
      after.transport.contexts = middleware.transport.contexts ∧
      ∀ held, after.transport.publishers.get? state.endpoint = some held →
        held.context = owner.context := by
  rcases middleware.initPublisher_cases (some none) node (some (.complete kind)) (some topic)
    (some qos) with
    ⟨⟨fault, failed⟩, _⟩ | ⟨_, profile, owner, topicName, resolved, _, support, _, slot, _, same, _, told⟩
  · cases (congrArg Prod.fst made).symm.trans failed
  · cases support
    obtain ⟨value, left⟩ := Prod.mk.inj (told.symm.trans made)
    cases value
    obtain ⟨number, transport⟩ :=
      resolved.registerPublisher_transport topicName kind profile.resolve owner.context
    rw [left, same] at transport
    rw [same] at number
    refine ⟨owner, slot, rfl, ?_, ?_, fun held found => ?_⟩
    · rw [transport]
      exact middleware.transport.extends_insertPublisher _
    · rw [transport]
    · rw [number, transport, Arena.get?_insert, if_pos rfl] at found
      cases found
      rfl

theorem initSubscription_made {node : Option (Slot NodeState)} {state : SubscriptionState}
    (made : (initSubscription node kind topic qos).outcome middleware = (.ok state, after)) :
    ∃ owner : NodeState, node = some (some owner) ∧ state.kind = kind ∧
      middleware.transport.Extends after.transport ∧
      after.transport.contexts = middleware.transport.contexts ∧
      ∀ held, after.transport.subscribers.get? state.endpoint = some held →
        held.context = owner.context := by
  rcases middleware.initSubscription_cases (some none) node (some (.complete kind)) (some topic)
    (some qos) with
    ⟨⟨fault, failed⟩, _⟩ | ⟨_, profile, owner, topicName, resolved, _, support, _, slot, _, same, _, told⟩
  · cases (congrArg Prod.fst made).symm.trans failed
  · cases support
    obtain ⟨value, left⟩ := Prod.mk.inj (told.symm.trans made)
    cases value
    have filled := resolved.pruneGraph.transport.shrinks_addSubscriber
      (resolved.pruneGraph.topic (Middleware.topicKey topicName profile.resolve.plainTopic kind))
      profile.resolve owner.context
    have transport : after.transport = (resolved.pruneGraph.transport.addSubscriber
        (resolved.pruneGraph.topic (Middleware.topicKey topicName profile.resolve.plainTopic kind))
        profile.resolve owner.context).2.2 := by
      rw [← left]
      rfl
    have there : resolved.pruneGraph.transport = middleware.transport := same
    rw [← transport, there] at filled
    have number : (resolved.registerSubscription topicName kind profile.resolve owner.context).1.endpoint =
        middleware.transport.subscribers.next := by
      rw [← same]
      rfl
    refine ⟨owner, slot, rfl, ?_, ?_, fun held found => ?_⟩
    · exact (middleware.transport.extends_insertSubscriber _).shrinks filled
    · have ends := resolved.pruneGraph.transport.sameEnds_addSubscriber
        (resolved.pruneGraph.topic (Middleware.topicKey topicName profile.resolve.plainTopic kind))
        profile.resolve owner.context
      rw [transport, ends.contexts, there]
    · obtain ⟨old, inserted, context⟩ := filled.subscribers _ held found
      rw [number, Arena.get?_insert, if_pos rfl] at inserted
      cases inserted
      exact context.symm

end Request

namespace Session

variable {session after : Session} {handles nodes subscriptions : List Nat}

/-- What is made is linked to what it was made in. -/
theorem Makes.linked {creation : Creation} (makes : session.Makes creation after) (linked : session.Linked)
    (owned : session.Owned handles nodes subscriptions) : after.Linked := by
  cases makes with
  | @context name arguments context middleware clean made =>
      obtain ⟨read, opened⟩ := Request.initContext_made made
      have handled := linked.makeHandle owned (Bytes.ofString "context") (.context (some context)) none
        (opened ▸ session.middleware.transport.extends_openContext read) trivial nofun
      refine (handled.nameContext name (fun resource parent holds => ?_)).shrinks
        (shrinks_noteMade _ _ _ _)
      exact ⟨context, (holds_made holds).1⟩
  | @node name context handle nodeName space state middleware found cleanName cleanSpace made =>
      obtain ⟨same, slot⟩ := Request.initNode_made made
      obtain ⟨owner, there⟩ := owned.exists_of_contextName found
      have handled := linked.makeHandle owned (Run.quotedKind "node" nodeName) (.node (some state))
        (some handle) (Transport.Shrinks.of_eq same).extends
        (fun above other resource root same up holds => by
          cases same
          cases up
          obtain ⟨number, rfl⟩ := linked.contextName context handle resource root found holds
          rw [contextSlot_of_holds holds] at slot
          cases slot
          rfl)
        (fun above up => Option.some.inj up ▸ session.forest.handles.lt_next_of_get? there)
      have shared := shrinks_retainHandle (({ session with middleware } : Session).makeHandle
        (Run.quotedKind "node" nodeName) (.node (some state)) (some handle)).2 handle
      have inserted := (handled.shrinks shared).insertNode
        { handle := session.forest.handles.next, context := handle, subscriptions := [], owners := 1 }
        (.inl ⟨context, found⟩)
        (fun resource parent holds => by
          obtain ⟨rfl, rfl⟩ := holds_made (shared.holds holds)
          exact ⟨rfl, state, rfl⟩)
      exact (inserted.shrinks (shrinks_nameNode _ name _)).shrinks (shrinks_noteMade _ _ _ _)
  | @publisher name node index object kind topic qos state middleware found clean made =>
      obtain ⟨owner, slot, same, grows, _, context⟩ := Request.initPublisher_made made
      obtain ⟨⟨held, there⟩, _⟩ := owned.exists_of_node (get?_of_namedNode? found)
      have handled := linked.makeHandle owned (Run.quotedKind "publisher" topic)
        (.publisher (some state)) (some object.handle) grows
        (fun above other node root held same up holds there => by
          cases same
          cases up
          cases (nodeSlot_of_holds holds).symm.trans slot
          exact context held there)
        (fun above up => Option.some.inj up ▸ session.forest.handles.lt_next_of_get? there)
      refine (handled.namePublisher name (fun resource parent holds => ?_)).shrinks
        (shrinks_noteMade _ _ _ _)
      exact ⟨state, (holds_made holds).1, same⟩
  | @subscription name node index object kind topic qos registered script state middleware orderly
      found clean made =>
      obtain ⟨owner, slot, same, grows, _, context⟩ := Request.initSubscription_made made
      obtain ⟨⟨held, there⟩, _⟩ := owned.exists_of_node (get?_of_namedNode? found)
      have handled := linked.makeHandle owned (Run.quotedKind "subscription" topic)
        (.subscription (some state)) (some object.handle) grows
        (fun above other node root held same up holds there => by
          cases same
          cases up
          cases (nodeSlot_of_holds holds).symm.trans slot
          exact context held there)
        (fun above up => Option.some.inj up ▸ session.forest.handles.lt_next_of_get? there)
      have inserted := handled.insertSubscription
        { name, handle := session.forest.handles.next, kind, script, busy := false, owners := 1 }
        (fun resource parent holds => ⟨state, (holds_made holds).1, same⟩)
      cases registered with
      | false =>
          exact (inserted.shrinks (shrinks_nameSubscription _ name _)).shrinks (shrinks_noteMade _ _ _ _)
      | true =>
          have known : ∀ whole : Session, whole.Shrinks { whole with
              nodes := whole.nodes.modify index (fun old =>
                { old with subscriptions := old.subscriptions ++ [session.subscriptions.next] }) } :=
            fun whole => whole.shrinks_modifyNode index (fun _ _ => ⟨rfl, rfl⟩)
          exact ((inserted.shrinks (known _)).shrinks (shrinks_nameSubscription _ name _)).shrinks
            (shrinks_noteMade _ _ _ _)

end Session

theorem Scene.Reached.linked {scene : Scene} (reached : scene.Reached) : scene.session.Linked :=
  reached.holds (fun scene => scene.session.Linked) Session.linked_empty
    (fun _ _ there move linked => by
      rcases move.effect with shrinks | ⟨_, makes⟩ | ⟨_, ends⟩
      · exact linked.shrinks shrinks
      · exact makes.linked linked there.owned
      · exact linked.fades ends.fades)

end PubSub
