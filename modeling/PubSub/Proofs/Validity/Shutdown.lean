import PubSub.Proofs.Calls.Failure
import PubSub.Proofs.Validity.Ended

/-!
Shutting down is permanent, and a matter of one context.  After a context has ended, no node, publisher or
subscription that was made in it can be used by any later call, and what waits for its subscriptions neither grows
nor shrinks until they are released; other contexts go on as before.
-/

namespace PubSub

namespace Workspace

variable {workspace : Workspace} {name : String} {context : Nat}

theorem Ended.validNode?_eq_none (ended : workspace.Ended context) {node : NodeState}
    (found : workspace.nodes.get? name = some node) (its : node.context = context) :
    workspace.middleware.validNode? (slot workspace.nodes (some name)) = none := by
  rw [validNode?_slot found, its, ended.isValid]
  rfl

theorem Ended.validPublisher?_eq_none (ended : workspace.Ended context) {held : PublisherEnd}
    (found : workspace.publisherOf name = some held) (its : held.context = context) :
    workspace.middleware.validPublisher? (slot workspace.publishers (some name)) = none := by
  obtain ⟨state, there, endpoint⟩ := publisherOf_eq_some.1 found
  rw [validPublisher?_slot there endpoint, its, ended.isValid]
  rfl

theorem Ended.validSubscription?_eq_none (ended : workspace.Ended context) {held : SubscriberEnd}
    (found : workspace.subscriberOf name = some held) (its : held.context = context) :
    workspace.middleware.validSubscription? (slot workspace.subscriptions (some name)) = none := by
  obtain ⟨state, there, endpoint⟩ := subscriberOf_eq_some.1 found
  rw [validSubscription?_slot there endpoint, its, ended.isValid]
  rfl

theorem Ended.answer_initPublisher (ended : workspace.Ended context) {node : NodeState}
    (found : workspace.nodes.get? name = some node) (its : node.context = context)
    {publisher : String} (free : workspace.publishers.get? publisher = none) (kind : MessageKind)
    (topic : Bytes) (qos : Qos) :
    (workspace.step (.initPublisher (some publisher) (some name) (some (.complete kind)) (some topic)
      (some qos))).1 = .status .nodeInvalid := by
  rw [workspace.answer_initPublisher]
  unfold Middleware.initPublisher
  rw [ended.validNode?_eq_none found its]
  unfold slot
  rw [Option.map_some, free]
  rfl

theorem Ended.answer_initSubscription (ended : workspace.Ended context) {node : NodeState}
    (found : workspace.nodes.get? name = some node) (its : node.context = context)
    {subscription : String} (free : workspace.subscriptions.get? subscription = none)
    (kind : MessageKind) (topic : Bytes) (qos : Qos) :
    (workspace.step (.initSubscription (some subscription) (some name) (some (.complete kind))
      (some topic) (some qos))).1 = .status .nodeInvalid := by
  rw [workspace.answer_initSubscription]
  unfold Middleware.initSubscription
  rw [ended.validNode?_eq_none found its]
  unfold slot
  rw [Option.map_some, free]
  rfl

theorem Ended.answer_publish (ended : workspace.Ended context) {held : PublisherEnd}
    (found : workspace.publisherOf name = some held) (its : held.context = context)
    (data : Option Datum)
    (fits : ∀ expected, (workspace.step (.publish (some name) data)).1 ≠ .unfit expected) :
    (workspace.step (.publish (some name) data)).1 = .status .publisherInvalid := by
  have invalid := ended.validPublisher?_eq_none found its
  unfold Workspace.step at fits ⊢
  dsimp only at fits ⊢
  cases data with
  | none =>
      unfold settle Middleware.publish
      rw [invalid]
      rfl
  | some datum =>
      unfold publishFilled at fits ⊢
      dsimp only at fits ⊢
      generalize (kindOf workspace.publisherKinds (some name)).getD .int64 = kind at fits ⊢
      cases told : datum.payload kind with
      | error expected =>
          rw [told] at fits
          exact absurd rfl (fits expected)
      | ok payload =>
          have still : (workspace.middleware.withLedger
              (workspace.middleware.ledger.noteInit kind)).validPublisher?
                (slot workspace.publishers (some name)) = none := invalid
          unfold Middleware.publish
          rw [still]
          rfl

theorem Ended.answer_take (ended : workspace.Ended context) {held : SubscriberEnd}
    (found : workspace.subscriberOf name = some held) (its : held.context = context)
    (withBuffer : Bool) :
    (workspace.step (.take (some name) withBuffer)).1 = .message .subscriptionInvalid none := by
  have invalid := ended.validSubscription?_eq_none found its
  unfold Workspace.step
  dsimp only
  split
  · rename_i kind _
    have still : (workspace.middleware.withLedger
        (workspace.middleware.ledger.noteInit kind)).validSubscription?
          (slot workspace.subscriptions (some name)) = none := invalid
    unfold takeFilled Middleware.take
    dsimp only
    rw [still]
    rfl
  · unfold Middleware.take
    rw [invalid]
    rfl
  · unfold Middleware.take
    rw [invalid]
    rfl

theorem Ended.undisturbed_take (ended : workspace.Ended context) {held : SubscriberEnd}
    (found : workspace.subscriberOf name = some held) (its : held.context = context)
    {withBuffer : Bool} {answer : Answer} {after : Workspace}
    (effect : workspace.Effect (.take (some name) withBuffer) answer after) :
    workspace.Undisturbed after := by
  cases effect with
  | noted unmoved noted => exact undisturbed_of_noted noted
  | took there endpoint runs front =>
      obtain ⟨state, known, present⟩ := subscriberOf_eq_some.1 found
      cases there.symm.trans known
      cases endpoint.symm.trans present
      rw [its, ended.isValid] at runs
      cases runs

/-- What was made in a context cannot be used. -/
structure Severed (workspace : Workspace) (context : Nat) : Prop where
  named : ∀ name, workspace.contexts.get? name = some context →
    (workspace.step (.contextIsValid (some name))).1 = .flag false
  node : ∀ name node, workspace.nodes.get? name = some node → node.context = context →
    (workspace.step (.nodeInfo (some name))).1 = .node false (some node.owner)
  initPublisher : ∀ name node publisher kind topic qos,
    workspace.nodes.get? name = some node → node.context = context →
      workspace.publishers.get? publisher = none →
        (workspace.step (.initPublisher (some publisher) (some name) (some (.complete kind))
          (some topic) (some qos))).1 = .status .nodeInvalid
  initSubscription : ∀ name node subscription kind topic qos,
    workspace.nodes.get? name = some node → node.context = context →
      workspace.subscriptions.get? subscription = none →
        (workspace.step (.initSubscription (some subscription) (some name) (some (.complete kind))
          (some topic) (some qos))).1 = .status .nodeInvalid
  /-- Whatever is to be published, if it is a message of its kind at all. -/
  publish : ∀ name held data, workspace.publisherOf name = some held → held.context = context →
    (∀ expected, (workspace.step (.publish (some name) data)).1 ≠ .unfit expected) →
      (workspace.step (.publish (some name) data)).1 = .status .publisherInvalid ∧
        workspace.Undisturbed (workspace.step (.publish (some name) data)).2
  take : ∀ name held withBuffer, workspace.subscriberOf name = some held → held.context = context →
    (workspace.step (.take (some name) withBuffer)).1 = .message .subscriptionInvalid none ∧
      workspace.Undisturbed (workspace.step (.take (some name) withBuffer)).2

theorem Ended.severed (ended : workspace.Ended context) : workspace.Severed context := by
  constructor
  · intro name held
    rw [answer_contextIsValid held, ended.isValid]
  · intro name node found its
    rw [answer_nodeInfo found, its, ended.isValid]
  · intro name node publisher kind topic qos found its free
    exact ended.answer_initPublisher found its free kind topic qos
  · intro name node subscription kind topic qos found its free
    exact ended.answer_initSubscription found its free kind topic qos
  · intro name held data found its fits
    have answered := ended.answer_publish found its data fits
    constructor
    · exact answered
    · apply (workspace.step_effect (.publish (some name) data)).undisturbed rfl
      rw [answered]
      rfl
  · intro name held withBuffer found its
    constructor
    · exact ended.answer_take found its withBuffer
    · exact ended.undisturbed_take found its (workspace.step_effect _)

/-- Somewhere in a run the subscription of a name is released. -/
def ReleasesIn (workspace : Workspace) (name : String) (actions : List Action) : Prop :=
  ∃ early node rest, actions = early ++ .finiSubscription (some name) node :: rest ∧
    ((workspace.run early).step (.finiSubscription (some name) node)).1 = .status .ok

theorem ReleasesIn.cons {action : Action} {rest : List Action}
    (released : (workspace.step action).2.ReleasesIn name rest) :
    workspace.ReleasesIn name (action :: rest) := by
  obtain ⟨early, node, late, rfl, answered⟩ := released
  exact ⟨action :: early, node, late, rfl, answered⟩

/-- What waits for a subscription of a context that has ended stays, until the subscription is released. -/
theorem Ended.subscriber_run (ended : workspace.Ended context) (wired : Wired workspace)
    {held : SubscriberEnd} (found : workspace.subscriberOf name = some held)
    (its : held.context = context) (later : List Action) :
    workspace.ReleasesIn name later ∨ (workspace.run later).subscriberOf name = some held := by
  induction later generalizing workspace with
  | nil => exact .inr found
  | cons action rest ih =>
      rcases (workspace.step_effect action).subscriber wired found with
        ⟨⟨node, rfl⟩, answered, _⟩ | ⟨queue, there, turned⟩
      · exact .inl ⟨[], node, rest, rfl, answered⟩
      · have idle : workspace.middleware.transport.isValid held.context ≠ true := by
          rw [its, ended.isValid]
          exact Bool.false_ne_true
        -- Samples come and go in a context that runs only.
        cases turned with
        | same =>
            rcases ih (ended.step action) (wired.step action) there with released | kept
            · exact .inl released.cons
            · exact .inr kept
        | pushed runs => exact absurd runs idle
        | popped runs front => exact absurd runs idle

/--
Once a call has ended a context, what was made in it cannot be used in any later state, and what waits there stays
until it is released.  The call leaves other contexts alone, and they run until a call ends them.
-/
theorem ended_for_good (before : List Action) {action : Action} {context : Nat}
    (ends : (empty.run before).Ends action context)
    (succeeded : ((empty.run before).step action).1 = .status .ok) :
    (empty.run before).SparesOthers ((empty.run before).step action).2 context ∧
      ∀ later, let ended := ((empty.run before).step action).2
        (ended.run later).Severed context ∧
        (ended.run later).FollowsContexts ∧
        (∀ name held, ended.subscriberOf name = some held → held.context = context →
          ended.ReleasesIn name later ∨
            (ended.run later).queueOf name = ended.queueOf name) ∧
        ∀ next other state,
          (ended.run later).middleware.transport.contexts.get? other = some state →
            ¬(ended.run later).Ends next other →
              ((ended.run later).step next).2.middleware.transport.isValid other =
                (ended.run later).middleware.transport.isValid other := by
  have wired := wired_empty.run before
  have closed := ends.ended wired succeeded
  constructor
  · exact ends.sparesOthers succeeded
  · intro later ended
    refine ⟨(closed.run later).severed, followsContexts _, ?_, ?_⟩
    · intro name held found its
      rcases closed.subscriber_run (wired.step action) found its later with released | kept
      · exact .inl released
      · exact .inr ((queueOf_eq kept).trans (queueOf_eq found).symm)
    · exact fun next other state found spared => isValid_step found spared

/-- Two contexts with a node each, a publisher in the one and subscriptions in both. -/
def neighbours : List Action :=
  let topic := some (Bytes.ofString "chatter")
  let name := some (Bytes.ofString "talker")
  let space := some (Bytes.ofString "/")
  [.initContext (some "left") (some []) 0,
    .initContext (some "right") (some []) 0,
    .initNode (some "here") name space (some "left") (some false),
    .initNode (some "there") name space (some "right") (some false),
    .initPublisher (some "publisher") (some "there") (some (.complete .int64)) topic
      (some Qos.standard),
    .initSubscription (some "near") (some "here") (some (.complete .int64)) topic
      (some Qos.standard),
    .initSubscription (some "far") (some "there") (some (.complete .int64)) topic
      (some Qos.standard),
    .publish (some "publisher") (some (.number 1))]

/-- The left context ends and its name is used again; the right one goes on publishing. -/
def afterShutdown : List Action :=
  [.finiContext (some "left"),
    .initContext (some "left") (some []) 0,
    .publish (some "publisher") (some (.number 2))]

/-- The subscription of the left context still has what waited for it, and cannot take it. -/
theorem ended_for_good_neighbours :
    ((((empty.run neighbours).step (.shutdown (some "left"))).2.run afterShutdown).step
        (.take (some "near") true)).1 = .message .subscriptionInvalid none ∧
      ((((empty.run neighbours).step (.shutdown (some "left"))).2.run afterShutdown).step
        (.take (some "far") true)).1 = .message .ok (some (.number 1)) := by
  have ends : (empty.run neighbours).Ends (.shutdown (some "left")) 0 :=
    ⟨"left", by decide +kernel, .inl rfl⟩
  have later := (ended_for_good neighbours ends (by decide +kernel)).2 afterShutdown
  have held : (((empty.run neighbours).step (.shutdown (some "left"))).2.run
      afterShutdown).subscriberOf "near" =
        some
          { qos := Qos.standard
            context := 0
            queue := { keepAll := false, depth := 10, waiting := [0], count := 1 } } := by
    decide +kernel
  exact ⟨(later.1.take "near" _ true held rfl).1, by decide +kernel⟩

end Workspace

end PubSub
