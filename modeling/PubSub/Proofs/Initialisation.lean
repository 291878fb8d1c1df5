import PubSub.Proofs.Endpoints
import PubSub.Middleware.Subscription

/-!
Initialisation.  A call that fails leaves contexts, endpoints and topics as they are; one that succeeds opens
the next context, or registers the next endpoint under the key of its topic.
-/

namespace PubSub

theorem Fault.status_ne_ok (fault : Fault) : fault.status ≠ .ok := by
  intro same
  cases fault <;> cases same

namespace Middleware

variable {middleware : Middleware}

theorem resolveTopic_transport (middleware : Middleware) (node : NodeState) (topic : Bytes) :
    (middleware.resolveTopic node topic).2.transport = middleware.transport := by
  unfold resolveTopic
  dsimp only
  generalize node.owner.resolve _ topic = resolution
  have passed : (if resolution.passedIdle = true then middleware.resetReason else middleware).transport =
      middleware.transport := by
    split <;> rfl
  cases resolution.result with
  | ok full => exact passed
  | error fault => exact passed

theorem resolveTopic_graph (middleware : Middleware) (node : NodeState) (topic : Bytes) :
    (middleware.resolveTopic node topic).2.graph = middleware.graph := by
  unfold resolveTopic
  dsimp only
  generalize node.owner.resolve _ topic = resolution
  have passed : (if resolution.passedIdle = true then middleware.resetReason else middleware).graph =
      middleware.graph := by
    split <;> rfl
  cases resolution.result with
  | ok full => exact passed
  | error fault => exact passed

theorem initContext_cases (middleware : Middleware) (slot : Option (Slot Nat))
    (vector : Option (List (Option Bytes))) (count : Int) :
    (∃ fault, (middleware.initContext slot vector count).1 = .error fault) ∧
        (middleware.initContext slot vector count).2.transport = middleware.transport ∨
      ∃ arguments, (middleware.initContext slot vector count).1 =
          .ok middleware.transport.contexts.next ∧
        (middleware.initContext slot vector count).2.transport =
          (middleware.transport.openContext arguments).2 := by
  unfold initContext
  rcases slot with _ | _ | context
  · exact .inl ⟨⟨_, rfl⟩, rfl⟩
  · dsimp only
    cases Arguments.parse vector count with
    | error fault => exact .inl ⟨⟨fault, rfl⟩, rfl⟩
    | ok arguments => exact .inr ⟨arguments, rfl, rfl⟩
  · exact .inl ⟨⟨_, rfl⟩, rfl⟩

theorem initNode_cases (middleware : Middleware) (slot : Option (Slot NodeState))
    (name space : Option Bytes) (context : Option (Slot Nat)) (options : Option Bool) :
    (middleware.initNode slot name space context options).2.transport = middleware.transport ∧
      ∀ node, (middleware.initNode slot name space context options).1 = .ok node →
        context = some (some node.context) := by
  unfold initNode
  split
  · split
    · exact ⟨rfl, fun node made => nomatch made⟩
    · split
      · exact ⟨rfl, fun node made => nomatch made⟩
      · split
        · dsimp only
          split
          · exact ⟨rfl, fun node made => nomatch made⟩
          · refine ⟨rfl, fun node made => ?_⟩
            cases made
            rfl
        · exact ⟨rfl, fun node made => nomatch made⟩
  · exact ⟨rfl, fun node made => nomatch made⟩

theorem validNode?_eq_some {slot : Option (Slot NodeState)} {node : NodeState}
    (valid : middleware.validNode? slot = some node) :
    slot = some (some node) ∧ middleware.transport.isValid node.context = true := by
  unfold validNode? at valid
  split at valid
  · rename_i state
    split at valid
    · rename_i runs
      rw [Option.some.injEq] at valid
      subst valid
      exact ⟨rfl, runs⟩
    · cases valid
  · cases valid

/-- A publisher is initialised on a node that can be used, and then registered. -/
theorem initPublisher_cases (middleware : Middleware) (slot : Option (Slot PublisherState))
    (node : Option (Slot NodeState)) (support : Option TypeSupport) (topic : Option Bytes)
    (options : Option Qos) :
    (∃ fault, (middleware.initPublisher slot node support topic options).1 = .error fault) ∧
        (middleware.initPublisher slot node support topic options).2.transport =
          middleware.transport ∧
        (middleware.initPublisher slot node support topic options).2.graph = middleware.graph ∨
      ∃ (kind : MessageKind) (qos : Qos) (owner : NodeState) (topicName : Bytes)
          (resolved : Middleware), slot = some none ∧ support = some (.complete kind) ∧
        options = some qos ∧ node = some (some owner) ∧
        middleware.transport.isValid owner.context = true ∧
        resolved.transport = middleware.transport ∧ resolved.graph = middleware.graph ∧
        middleware.initPublisher slot node support topic options =
          (.ok (resolved.registerPublisher topicName kind qos.resolve owner.context).1,
            (resolved.registerPublisher topicName kind qos.resolve owner.context).2) := by
  unfold initPublisher
  split
  · rename_i filled name qos
    rcases support with _ | kind | _
    · exact .inl ⟨⟨_, rfl⟩, rfl, rfl⟩
    · cases filled with
      | some state => exact .inl ⟨⟨_, rfl⟩, rfl, rfl⟩
      | none =>
          cases valid : middleware.validNode? node with
          | none => exact .inl ⟨⟨_, rfl⟩, rfl, rfl⟩
          | some owner =>
              obtain ⟨there, runs⟩ := validNode?_eq_some valid
              have transport := middleware.resolveTopic_transport owner name.beforeNul
              have graph := middleware.resolveTopic_graph owner name.beforeNul
              dsimp only [TypeSupport.kind?]
              generalize middleware.resolveTopic owner name.beforeNul = resolution at transport graph ⊢
              rcases resolution with ⟨fault | topicName, resolved⟩
              · exact .inl ⟨⟨fault, rfl⟩, transport, graph⟩
              · exact .inr ⟨kind, qos, owner, topicName, resolved, rfl, rfl, rfl, there, runs,
                  transport, graph, rfl⟩
    · exact .inl ⟨⟨_, rfl⟩, rfl, rfl⟩
  · exact .inl ⟨⟨_, rfl⟩, rfl, rfl⟩

theorem initSubscription_cases (middleware : Middleware) (slot : Option (Slot SubscriptionState))
    (node : Option (Slot NodeState)) (support : Option TypeSupport) (topic : Option Bytes)
    (options : Option Qos) :
    (∃ fault, (middleware.initSubscription slot node support topic options).1 = .error fault) ∧
        (middleware.initSubscription slot node support topic options).2.transport =
          middleware.transport ∧
        (middleware.initSubscription slot node support topic options).2.graph = middleware.graph ∨
      ∃ (kind : MessageKind) (qos : Qos) (owner : NodeState) (topicName : Bytes)
          (resolved : Middleware), slot = some none ∧ support = some (.complete kind) ∧
        options = some qos ∧ node = some (some owner) ∧
        middleware.transport.isValid owner.context = true ∧
        resolved.transport = middleware.transport ∧ resolved.graph = middleware.graph ∧
        middleware.initSubscription slot node support topic options =
          (.ok (resolved.registerSubscription topicName kind qos.resolve owner.context).1,
            (resolved.registerSubscription topicName kind qos.resolve owner.context).2) := by
  unfold initSubscription
  split
  · rename_i filled name qos
    rcases support with _ | kind | _
    · exact .inl ⟨⟨_, rfl⟩, rfl, rfl⟩
    · cases filled with
      | some state => exact .inl ⟨⟨_, rfl⟩, rfl, rfl⟩
      | none =>
          cases valid : middleware.validNode? node with
          | none => exact .inl ⟨⟨_, rfl⟩, rfl, rfl⟩
          | some owner =>
              obtain ⟨there, runs⟩ := validNode?_eq_some valid
              have transport := middleware.resolveTopic_transport owner name.beforeNul
              have graph := middleware.resolveTopic_graph owner name.beforeNul
              dsimp only [TypeSupport.kind?]
              generalize middleware.resolveTopic owner name.beforeNul = resolution at transport graph ⊢
              rcases resolution with ⟨fault | topicName, resolved⟩
              · exact .inl ⟨⟨fault, rfl⟩, transport, graph⟩
              · exact .inr ⟨kind, qos, owner, topicName, resolved, rfl, rfl, rfl, there, runs,
                  transport, graph, rfl⟩
    · exact .inl ⟨⟨_, rfl⟩, rfl, rfl⟩
  · exact .inl ⟨⟨_, rfl⟩, rfl, rfl⟩

theorem registerPublisher_transport (middleware : Middleware) (topicName : Bytes) (kind : MessageKind)
    (qos : Qos) (context : Nat) :
    (middleware.registerPublisher topicName kind qos context).1.endpoint =
        middleware.transport.publishers.next ∧
      (middleware.registerPublisher topicName kind qos context).2.transport =
        { middleware.transport with
          publishers :=
            (middleware.transport.publishers.insert { qos, context, history := [] }).2 } :=
  ⟨rfl, rfl⟩

theorem registerSubscription_transport (middleware : Middleware) (topicName : Bytes)
    (kind : MessageKind) (qos : Qos) (context : Nat) :
    (middleware.registerSubscription topicName kind qos context).1.endpoint =
        middleware.transport.subscribers.next ∧
      Transport.SameEnds
        { middleware.transport with
          subscribers :=
            (middleware.transport.subscribers.insert
              { qos, context, queue := .ofQos qos }).2 }
        (middleware.registerSubscription topicName kind qos context).2.transport :=
  ⟨rfl, middleware.pruneGraph.transport.sameEnds_addSubscriber _ qos context⟩

end Middleware

end PubSub
