import PubSub.Middleware.Workspace
import PubSub.Proofs.Calls.Noted
import PubSub.Proofs.Delivery.Alike

/-!
What a call comes to.  A call leaves notes only, or does one thing: a context, a node or an endpoint comes or
goes, a context ends, a sample is sent out or taken, or topics that are not in use leave the graph.  Whatever
holds along every run is proved by these cases.
-/

namespace PubSub

namespace Workspace

variable {workspace : Workspace}

theorem slot_eq_some {State : Type} {table : Table String State} {name : Option String}
    {held : Slot State} (found : slot table name = some held) :
    ∃ key, name = some key ∧ table.get? key = held :=
  Option.map_eq_some_iff.1 found

theorem slot_eq {State : Type} {table : Table String State} {name : String} {held : Slot State}
    (found : table.get? name = held) : slot table (some name) = some held :=
  congrArg some found

theorem answer_ne_ok_of_fails {Value : Type} {middleware : Middleware} {outcome : Outcome Value}
    (fails : middleware.Fails outcome) : Answer.status (statusOf outcome.1) ≠ .status .ok := by
  obtain ⟨⟨fault, failed⟩, _⟩ := fails
  rw [failed]
  exact fun same => fault.status_ne_ok (Answer.status.inj same)

/-- Whether a call moves messages, so that it tells of copies that are to be refused. -/
def Action.movesMessages : Action → Bool
  | .publish _ _ => true
  | .take _ _ => true
  | _ => false

/-- How a call changes a workspace, with the answer it then gives. -/
inductive Effect (workspace : Workspace) : Action → Answer → Workspace → Prop
  | noted {action : Action} {answer : Answer} {changed : Middleware}
      (unmoved : action.movesMessages = true → answer ≠ .status .ok)
      (noted : workspace.middleware.Noted changed) :
      Effect workspace action answer (workspace.withMiddleware changed)
  | pruned (number : Nat) :
      Effect workspace .topicCount (.topics number)
        (workspace.withMiddleware workspace.middleware.pruneGraph)
  | contextOpened {name : String} {vector : Option (List (Option Bytes))} {count : Int}
      (arguments : Arguments) (free : workspace.contexts.get? name = none) :
      Effect workspace (.initContext (some name) vector count) (.status .ok)
        { workspace with
          middleware :=
            workspace.middleware.withTransport
              (workspace.middleware.transport.openContext arguments).2
          contexts := workspace.contexts.set name workspace.middleware.transport.contexts.next }
  | contextEnded {name : String} {context : Nat}
      (found : workspace.contexts.get? name = some context) :
      Effect workspace (.shutdown (some name)) (.status .ok)
        (workspace.withMiddleware
          (workspace.middleware.withTransport
            (workspace.middleware.transport.invalidate context)))
  | contextReleased {name : String} {context : Nat}
      (found : workspace.contexts.get? name = some context) :
      Effect workspace (.finiContext (some name)) (.status .ok)
        { workspace with
          middleware :=
            workspace.middleware.withTransport
              (workspace.middleware.transport.invalidate context)
          contexts := workspace.contexts.erase name }
  | nodeMade {name : String} {given space : Option Bytes} {context : String}
      {options : Option Bool} {state : NodeState} (free : workspace.nodes.get? name = none)
      (found : workspace.contexts.get? context = some state.context)
      (runs : workspace.middleware.transport.isValid state.context = true) :
      Effect workspace (.initNode (some name) given space (some context) options) (.status .ok)
        { workspace with nodes := workspace.nodes.set name state }
  | nodeReleased (name : String) :
      Effect workspace (.finiNode (some name)) (.status .ok)
        { workspace with nodes := workspace.nodes.erase name }
  | publisherMade {name node : String} {kind : MessageKind} {topic : Option Bytes} {qos : Qos}
      {owner : NodeState} {changed : Middleware} (topicName : Bytes)
      (free : workspace.publishers.get? name = none)
      (there : workspace.nodes.get? node = some owner)
      (runs : workspace.middleware.transport.isValid owner.context = true)
      (noted : workspace.middleware.Noted changed) :
      Effect workspace
        (.initPublisher (some name) (some node) (some (.complete kind)) topic (some qos))
        (.status .ok)
        { workspace with
          middleware := (changed.registerPublisher topicName kind qos.resolve owner.context).2
          publishers :=
            workspace.publishers.set name
              (changed.registerPublisher topicName kind qos.resolve owner.context).1
          publisherKinds := workspace.publisherKinds.set name kind }
  | publisherReleased {name : String} {node : Option String} {state : PublisherState}
      (found : workspace.publishers.get? name = some state) :
      Effect workspace (.finiPublisher (some name) node) (.status .ok)
        { workspace with
          middleware :=
            workspace.middleware.withTransport
              (workspace.middleware.transport.dropPublisher state.endpoint)
          publishers := workspace.publishers.erase name }
  | published {name : String} {datum : Datum} {state : PublisherState} {held : PublisherEnd}
      {reason : Bytes} {first last : Ledger} (content : Layout)
      (found : workspace.publishers.get? name = some state)
      (endpoint : workspace.middleware.transport.publishers.get? state.endpoint = some held)
      (runs : workspace.middleware.transport.isValid held.context = true) :
      Effect workspace (.publish (some name) (some datum)) (.status .ok)
        (workspace.withMiddleware
          ((workspace.middleware.withTransport
            ((workspace.middleware.transport.withStore
              { ledger := first
                samples :=
                  (workspace.middleware.transport.store.samples.insert
                    { kind := state.kind, content, shares := 1 }).2 }).sendOut
              (workspace.middleware.topic state.key) state.endpoint
              workspace.middleware.transport.store.samples.next)).recount reason last))
  | subscriptionMade {name node : String} {kind : MessageKind} {topic : Option Bytes} {qos : Qos}
      {owner : NodeState} {changed : Middleware} (topicName : Bytes)
      (free : workspace.subscriptions.get? name = none)
      (there : workspace.nodes.get? node = some owner)
      (runs : workspace.middleware.transport.isValid owner.context = true)
      (noted : workspace.middleware.Noted changed) :
      Effect workspace
        (.initSubscription (some name) (some node) (some (.complete kind)) topic (some qos))
        (.status .ok)
        { workspace with
          middleware := (changed.registerSubscription topicName kind qos.resolve owner.context).2
          subscriptions :=
            workspace.subscriptions.set name
              (changed.registerSubscription topicName kind qos.resolve owner.context).1
          subscriptionKinds := workspace.subscriptionKinds.set name kind }
  | subscriptionReleased {name : String} {node : Option String} {state : SubscriptionState}
      (found : workspace.subscriptions.get? name = some state) :
      Effect workspace (.finiSubscription (some name) node) (.status .ok)
        { workspace with
          middleware :=
            workspace.middleware.withTransport
              (workspace.middleware.transport.dropSubscriber state.endpoint)
          subscriptions := workspace.subscriptions.erase name }
  | took {name : String} {withBuffer : Bool} {answer : Answer} {state : SubscriptionState}
      {held : SubscriberEnd} {sample : Nat} {taken : Transport} {reason : Bytes}
      {first last : Ledger}
      (found : workspace.subscriptions.get? name = some state)
      (endpoint : workspace.middleware.transport.subscribers.get? state.endpoint = some held)
      (runs : workspace.middleware.transport.isValid held.context = true)
      (front : (workspace.middleware.withLedger first).transport.takeSample state.endpoint =
        some (sample, taken)) :
      Effect workspace (.take (some name) withBuffer) answer
        (workspace.withMiddleware
          ((workspace.middleware.withTransport
            (taken.withStore (taken.store.release sample))).recount reason last))

theorem effect_initContext (workspace : Workspace) (context : Option String)
    (vector : Option (List (Option Bytes))) (count : Int) :
    Effect workspace (.initContext context vector count)
      (workspace.step (.initContext context vector count)).1
      (workspace.step (.initContext context vector count)).2 := by
  unfold step
  dsimp only
  rcases workspace.middleware.initContext_eq (slot workspace.contexts context) vector count with
    ⟨⟨fault, failed⟩, noted⟩ | ⟨arguments, absent, opened⟩
  · generalize workspace.middleware.initContext _ vector count = outcome at failed noted ⊢
    obtain ⟨_, changed⟩ := outcome
    subst failed
    exact .noted nofun noted
  · obtain ⟨name, rfl, free⟩ := slot_eq_some absent
    rw [opened]
    exact .contextOpened arguments free

theorem effect_shutdown (workspace : Workspace) (context : Option String) :
    Effect workspace (.shutdown context) (workspace.step (.shutdown context)).1
      (workspace.step (.shutdown context)).2 := by
  unfold step settle
  dsimp only
  rcases workspace.middleware.shutdownContext_eq (slot workspace.contexts context) with
    ⟨_, noted⟩ | ⟨number, held, ended⟩
  · exact .noted nofun noted
  · obtain ⟨name, rfl, found⟩ := slot_eq_some held
    rw [ended]
    exact .contextEnded found

theorem effect_finiContext (workspace : Workspace) (context : Option String) :
    Effect workspace (.finiContext context) (workspace.step (.finiContext context)).1
      (workspace.step (.finiContext context)).2 := by
  unfold step
  dsimp only
  cases context with
  | none => exact .noted nofun (workspace.middleware.noted_fail _)
  | some name =>
      unfold slot clearSlot Middleware.finiContext
      rw [Option.map_some]
      cases found : workspace.contexts.get? name with
      | none =>
          dsimp only
          rw [Table.erase_of_free found]
          exact .noted nofun (.refl workspace.middleware)
      | some number => exact .contextReleased found

theorem effect_initNode (workspace : Workspace) (node : Option String) (name space : Option Bytes)
    (context : Option String) (options : Option Bool) :
    Effect workspace (.initNode node name space context options)
      (workspace.step (.initNode node name space context options)).1
      (workspace.step (.initNode node name space context options)).2 := by
  unfold step
  dsimp only
  rcases workspace.middleware.initNode_eq (slot workspace.nodes node) name space
      (slot workspace.contexts context) options with
    ⟨⟨fault, failed⟩, noted⟩ | ⟨state, absent, held, runs, made⟩
  · generalize workspace.middleware.initNode _ name space _ options = outcome at failed noted ⊢
    obtain ⟨_, changed⟩ := outcome
    subst failed
    exact .noted nofun noted
  · obtain ⟨key, rfl, free⟩ := slot_eq_some absent
    obtain ⟨owner, rfl, found⟩ := slot_eq_some held
    rw [made]
    exact .nodeMade free found runs

theorem effect_finiNode (workspace : Workspace) (node : Option String) :
    Effect workspace (.finiNode node) (workspace.step (.finiNode node)).1
      (workspace.step (.finiNode node)).2 := by
  cases node with
  | none => exact .noted nofun (workspace.middleware.noted_fail _)
  | some name => exact .nodeReleased name

theorem effect_initPublisher (workspace : Workspace) (publisher node : Option String)
    (support : Option TypeSupport) (topic : Option Bytes) (options : Option Qos) :
    Effect workspace (.initPublisher publisher node support topic options)
      (workspace.step (.initPublisher publisher node support topic options)).1
      (workspace.step (.initPublisher publisher node support topic options)).2 := by
  unfold step
  dsimp only
  rcases workspace.middleware.initPublisher_cases (slot workspace.publishers publisher)
      (slot workspace.nodes node) support topic options with
    ⟨⟨fault, failed⟩, transport, graph⟩ |
      ⟨kind, qos, owner, topicName, resolved, absent, rfl, rfl, held, runs, transport, graph, made⟩
  · generalize workspace.middleware.initPublisher _ _ support topic options = outcome at *
    obtain ⟨_, changed⟩ := outcome
    subst failed
    exact .noted nofun (Middleware.noted_of_eq transport graph)
  · obtain ⟨name, rfl, free⟩ := slot_eq_some absent
    obtain ⟨key, rfl, there⟩ := slot_eq_some held
    rw [made]
    exact .publisherMade topicName free there runs (Middleware.noted_of_eq transport graph)

theorem effect_initSubscription (workspace : Workspace) (subscription node : Option String)
    (support : Option TypeSupport) (topic : Option Bytes) (options : Option Qos) :
    Effect workspace (.initSubscription subscription node support topic options)
      (workspace.step (.initSubscription subscription node support topic options)).1
      (workspace.step (.initSubscription subscription node support topic options)).2 := by
  unfold step
  dsimp only
  rcases workspace.middleware.initSubscription_cases (slot workspace.subscriptions subscription)
      (slot workspace.nodes node) support topic options with
    ⟨⟨fault, failed⟩, transport, graph⟩ |
      ⟨kind, qos, owner, topicName, resolved, absent, rfl, rfl, held, runs, transport, graph, made⟩
  · generalize workspace.middleware.initSubscription _ _ support topic options = outcome at *
    obtain ⟨_, changed⟩ := outcome
    subst failed
    exact .noted nofun (Middleware.noted_of_eq transport graph)
  · obtain ⟨name, rfl, free⟩ := slot_eq_some absent
    obtain ⟨key, rfl, there⟩ := slot_eq_some held
    rw [made]
    exact .subscriptionMade topicName free there runs (Middleware.noted_of_eq transport graph)

theorem effect_finiPublisher (workspace : Workspace) (publisher node : Option String) :
    Effect workspace (.finiPublisher publisher node)
      (workspace.step (.finiPublisher publisher node)).1
      (workspace.step (.finiPublisher publisher node)).2 := by
  unfold step
  dsimp only
  rcases workspace.middleware.finiPublisher_eq (slot workspace.publishers publisher)
      (slot workspace.nodes node) with
    ⟨⟨fault, failed⟩, noted⟩ | ⟨absent, released⟩ | ⟨state, held, released⟩
  · generalize workspace.middleware.finiPublisher _ _ = outcome at failed noted ⊢
    obtain ⟨_, changed⟩ := outcome
    subst failed
    exact .noted nofun noted
  · obtain ⟨name, rfl, free⟩ := slot_eq_some absent
    rw [released]
    unfold clearSlot
    dsimp only
    rw [Table.erase_of_free free]
    exact .noted nofun (.refl workspace.middleware)
  · obtain ⟨name, rfl, found⟩ := slot_eq_some held
    rw [released]
    exact .publisherReleased found

theorem effect_finiSubscription (workspace : Workspace) (subscription node : Option String) :
    Effect workspace (.finiSubscription subscription node)
      (workspace.step (.finiSubscription subscription node)).1
      (workspace.step (.finiSubscription subscription node)).2 := by
  unfold step
  dsimp only
  rcases workspace.middleware.finiSubscription_eq (slot workspace.subscriptions subscription)
      (slot workspace.nodes node) with
    ⟨⟨fault, failed⟩, noted⟩ | ⟨absent, released⟩ | ⟨state, held, released⟩
  · generalize workspace.middleware.finiSubscription _ _ = outcome at failed noted ⊢
    obtain ⟨_, changed⟩ := outcome
    subst failed
    exact .noted nofun noted
  · obtain ⟨name, rfl, free⟩ := slot_eq_some absent
    rw [released]
    unfold clearSlot
    dsimp only
    rw [Table.erase_of_free free]
    exact .noted nofun (.refl workspace.middleware)
  · obtain ⟨name, rfl, found⟩ := slot_eq_some held
    rw [released]
    exact .subscriptionReleased found

theorem effect_expand (workspace : Workspace) (topic name space : Option Bytes)
    (wantsOutput : Bool) :
    Effect workspace (.expand topic name space wantsOutput)
      (workspace.step (.expand topic name space wantsOutput)).1
      (workspace.step (.expand topic name space wantsOutput)).2 := by
  unfold step
  dsimp only
  cases expanded : workspace.middleware.expand topic name space wantsOutput with
  | none => exact .noted nofun (.refl workspace.middleware)
  | some outcome => exact .noted nofun (Middleware.noted_expand expanded)

theorem effect_publish (workspace : Workspace) (publisher : Option String) (data : Option Datum) :
    Effect workspace (.publish publisher data) (workspace.step (.publish publisher data)).1
      (workspace.step (.publish publisher data)).2 := by
  cases data with
  | none =>
      rcases workspace.middleware.publish_eq (slot workspace.publishers publisher) none with
        fails | ⟨_, _, _, _, _, _, _, sent⟩
      · exact .noted (fun _ => answer_ne_ok_of_fails fails) fails.2
      · unfold Middleware.publish at sent
        split at sent <;> cases sent
  | some datum =>
      unfold step publishFilled
      dsimp only
      generalize (kindOf workspace.publisherKinds publisher).getD .int64 = kind
      cases datum.payload kind with
      | error expected => exact .noted nofun (Middleware.Noted.refl _).around
      | ok payload =>
          dsimp only
          rcases (workspace.middleware.withLedger (workspace.middleware.ledger.noteInit kind)).publish_eq
              (slot workspace.publishers publisher) (some (kind.fresh.fill payload)) with
            fails | ⟨state, held, content, ledger, there, endpoint, runs, sent⟩
          · exact .noted (fun _ => answer_ne_ok_of_fails fails) fails.2.around
          · obtain ⟨name, rfl, found⟩ := slot_eq_some there
            rw [sent]
            exact .published content found endpoint runs

theorem fst_takeFilled (workspace : Workspace) (subscription : Option String) (kind : MessageKind) :
    ∃ status payload, (workspace.takeFilled subscription kind).1 = .message status payload := by
  unfold takeFilled
  dsimp only
  split
  · exact ⟨_, _, rfl⟩
  · exact ⟨_, _, rfl⟩
  · exact ⟨_, _, rfl⟩

theorem snd_takeFilled (workspace : Workspace) (subscription : Option String) (kind : MessageKind) :
    (workspace.takeFilled subscription kind).2 =
      let taken :=
        ((workspace.middleware.withLedger (workspace.middleware.ledger.noteInit kind)).take
          (slot workspace.subscriptions subscription) (some kind.fresh)).2
      workspace.withMiddleware (taken.withLedger (taken.ledger.noteFini kind)) := by
  unfold takeFilled
  dsimp only
  split <;> rfl

theorem effect_take (workspace : Workspace) (subscription : Option String) (withBuffer : Bool) :
    Effect workspace (.take subscription withBuffer)
      (workspace.step (.take subscription withBuffer)).1
      (workspace.step (.take subscription withBuffer)).2 := by
  unfold step
  dsimp only
  split
  · rename_i kind _
    obtain ⟨status, payload, told⟩ := workspace.fst_takeFilled subscription kind
    rw [told, snd_takeFilled]
    dsimp only
    rcases (workspace.middleware.withLedger (workspace.middleware.ledger.noteInit kind)).take_eq
        (slot workspace.subscriptions subscription) (some kind.fresh) with
      noted | ⟨state, held, sample, taken, reason, ledger, there, endpoint, runs, front, left⟩
    · exact .noted nofun noted.around
    · obtain ⟨name, rfl, found⟩ := slot_eq_some there
      rw [left]
      exact .took found endpoint runs front
  · rcases workspace.middleware.take_eq (slot workspace.subscriptions subscription)
        (some (.number 0)) with
      noted | ⟨state, held, sample, taken, reason, ledger, there, endpoint, runs, front, left⟩
    · exact .noted nofun noted
    · obtain ⟨name, rfl, found⟩ := slot_eq_some there
      rw [left]
      exact .took found endpoint runs front
  · rcases workspace.middleware.take_eq (slot workspace.subscriptions subscription) none with
      noted | ⟨state, held, sample, taken, reason, ledger, there, endpoint, runs, front, left⟩
    · exact .noted nofun noted
    · obtain ⟨name, rfl, found⟩ := slot_eq_some there
      rw [left]
      exact .took found endpoint runs front

theorem step_effect (workspace : Workspace) (action : Action) :
    Effect workspace action (workspace.step action).1 (workspace.step action).2 := by
  cases action with
  | validate kind name wantsVerdict =>
      exact .noted nofun (workspace.middleware.noted_validate kind name wantsVerdict)
  | expand topic name space wantsOutput =>
      exact workspace.effect_expand topic name space wantsOutput
  | parseArguments vector count wantsOutput =>
      exact .noted nofun (workspace.middleware.noted_parseArguments vector count wantsOutput)
  | initContext context vector count => exact workspace.effect_initContext context vector count
  | shutdown context => exact workspace.effect_shutdown context
  | finiContext context => exact workspace.effect_finiContext context
  | contextIsValid context => exact .noted nofun (.refl workspace.middleware)
  | initNode node name space context options =>
      exact workspace.effect_initNode node name space context options
  | finiNode node => exact workspace.effect_finiNode node
  | nodeInfo node => exact .noted nofun (.refl workspace.middleware)
  | initPublisher publisher node support topic options =>
      exact workspace.effect_initPublisher publisher node support topic options
  | finiPublisher publisher node => exact workspace.effect_finiPublisher publisher node
  | publisherInfo publisher => exact .noted nofun (.refl workspace.middleware)
  | subscriptionCount publisher wantsCount =>
      exact .noted nofun (workspace.middleware.noted_subscriptionCount _ wantsCount)
  | publish publisher data => exact workspace.effect_publish publisher data
  | initSubscription subscription node support topic options =>
      exact workspace.effect_initSubscription subscription node support topic options
  | finiSubscription subscription node => exact workspace.effect_finiSubscription subscription node
  | subscriptionInfo subscription => exact .noted nofun (.refl workspace.middleware)
  | publisherCount subscription wantsCount =>
      exact .noted nofun (workspace.middleware.noted_publisherCount _ wantsCount)
  | take subscription withBuffer => exact workspace.effect_take subscription withBuffer
  | topicCount => exact .pruned _
  | resetReason => exact .noted nofun (Middleware.noted_of_eq rfl rfl)
  | setReason reason => exact .noted nofun (Middleware.noted_of_eq rfl rfl)
  | refuseCopies count => exact .noted nofun ⟨workspace.middleware.reason, _, rfl, fun _ => rfl⟩

/-- What every call keeps holds after every run. -/
theorem run_keeps {holds : Workspace → Prop}
    (keeps : ∀ workspace action, holds workspace → holds (workspace.step action).2)
    (start : holds workspace) (actions : List Action) : holds (workspace.run actions) := by
  induction actions generalizing workspace with
  | nil => exact start
  | cons action rest ih => exact ih (keeps workspace action start)

def gather {Given : Type} (gives : Workspace → Action → Option Given) (workspace : Workspace) :
    List Action → List Given
  | [] => []
  | action :: rest => (gives workspace action).toList ++ (workspace.step action).2.gather gives rest

end Workspace

end PubSub
