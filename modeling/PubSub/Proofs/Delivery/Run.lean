import PubSub.Proofs.Delivery.Steps

/-!
Whole runs.  As long as no context ends, no message that is taken fails to be copied and the depth of every
subscription is a signed word, what waits for a subscription is what waits on a bus of lists that does what
the answers tell.
-/

namespace PubSub

namespace Workspace

variable {workspace : Workspace} {bus : Bus}

/-- Whether a call keeps contexts running, gets what it takes, and asks for a depth that is a signed word. -/
def calm (workspace : Workspace) (action : Action) : Bool :=
  match action with
  | .shutdown _ => (workspace.step action).1 ≠ .status .ok
  | .finiContext context => (slot workspace.contexts context).join.isNone
  | .initSubscription _ _ _ _ options => options.all (fun qos => qos.depth.toNat < 2 ^ 63)
  | .take _ _ => !(workspace.step action).1.isCopyFailure
  | _ => true

theorem Refines.follows_initContext (refines : Refines workspace bus) (context : Option String)
    (vector : Option (List (Option Bytes))) (count : Int) :
    Follows workspace bus (.initContext context vector count) := by
  have idle := workspace.middleware.idle_initContext (slot workspace.contexts context) vector count
  unfold Follows step
  dsimp only
  generalize workspace.middleware.initContext (slot workspace.contexts context) vector count =
    outcome at idle ⊢
  obtain ⟨fault | state, changed⟩ := outcome
  · exact refines.withIdle idle
  · exact refines.idle idle rfl rfl rfl rfl

theorem Refines.follows_initNode (refines : Refines workspace bus) (node : Option String)
    (name space : Option Bytes) (context : Option String) (options : Option Bool) :
    Follows workspace bus (.initNode node name space context options) := by
  have idle := workspace.middleware.idle_initNode (slot workspace.nodes node) name space
    (slot workspace.contexts context) options
  unfold Follows step
  dsimp only
  generalize workspace.middleware.initNode (slot workspace.nodes node) name space
    (slot workspace.contexts context) options = outcome at idle ⊢
  obtain ⟨fault | state, changed⟩ := outcome
  · exact refines.withIdle idle
  · exact refines.idle idle rfl rfl rfl rfl

theorem Refines.follows_finiContext (refines : Refines workspace bus) (context : Option String)
    (absent : (slot workspace.contexts context).join = none) :
    Follows workspace bus (.finiContext context) := by
  have idle : workspace.middleware.Idle _ := Middleware.idle_finiContext absent
  unfold Follows step
  dsimp only
  generalize workspace.middleware.finiContext (slot workspace.contexts context) = outcome at idle ⊢
  obtain ⟨fault | state, changed⟩ := outcome
  · exact refines.withIdle idle
  · exact refines.idle idle rfl rfl rfl rfl

theorem Refines.follows_finiNode (refines : Refines workspace bus) (node : Option String) :
    Follows workspace bus (.finiNode node) := by
  have idle := workspace.middleware.idle_finiNode (slot workspace.nodes node)
  unfold Follows step
  dsimp only
  generalize workspace.middleware.finiNode (slot workspace.nodes node) = outcome at idle ⊢
  obtain ⟨fault | state, changed⟩ := outcome
  · exact refines.withIdle idle
  · exact refines.idle idle rfl rfl rfl rfl

theorem Refines.follows_shutdown (refines : Refines workspace bus) (context : Option String)
    (failed : (workspace.step (.shutdown context)).1 ≠ .status .ok) :
    Follows workspace bus (.shutdown context) := by
  have unchanged : (workspace.middleware.shutdownContext (slot workspace.contexts context)).1 ≠
      .ok () := by
    intro succeeded
    exact failed (congrArg (fun result => Answer.status (statusOf result)) succeeded)
  exact refines.withIdle (Middleware.idle_shutdownContext unchanged)

theorem Refines.follows_expand (refines : Refines workspace bus) (topic name space : Option Bytes)
    (wantsOutput : Bool) : Follows workspace bus (.expand topic name space wantsOutput) := by
  unfold Follows step
  dsimp only
  cases expanded : workspace.middleware.expand topic name space wantsOutput with
  | none => exact refines
  | some outcome => exact refines.withNoted (Middleware.noted_expand expanded)

theorem Refines.follows (refines : Refines workspace bus) (action : Action)
    (calm : workspace.calm action = true) : Follows workspace bus action := by
  cases action with
  | validate kind name wantsVerdict =>
      exact refines.withNoted (workspace.middleware.noted_validate kind name wantsVerdict)
  | expand topic name space wantsOutput => exact refines.follows_expand topic name space wantsOutput
  | parseArguments vector count wantsOutput =>
      exact refines.withNoted (workspace.middleware.noted_parseArguments vector count wantsOutput)
  | initContext context vector count => exact refines.follows_initContext context vector count
  | shutdown context => exact refines.follows_shutdown context (of_decide_eq_true calm)
  | finiContext context =>
      exact refines.follows_finiContext context (Option.isNone_iff_eq_none.1 calm)
  | contextIsValid context => exact refines
  | initNode node name space context options =>
      exact refines.follows_initNode node name space context options
  | finiNode node => exact refines.follows_finiNode node
  | nodeInfo node => exact refines
  | initPublisher publisher node support topic options =>
      exact refines.follows_initPublisher publisher node support topic options
  | finiPublisher publisher node => exact refines.follows_finiPublisher publisher node
  | publisherInfo publisher => exact refines
  | subscriptionCount publisher wantsCount =>
      exact refines.withNoted (workspace.middleware.noted_subscriptionCount _ wantsCount)
  | publish publisher datum => exact refines.follows_publish publisher datum
  | initSubscription subscription node support topic options =>
      refine refines.follows_initSubscription subscription node support topic options ?_
      rintro qos rfl
      exact of_decide_eq_true calm
  | finiSubscription subscription node => exact refines.follows_finiSubscription subscription node
  | subscriptionInfo subscription => exact refines
  | publisherCount subscription wantsCount =>
      exact refines.withNoted (workspace.middleware.noted_publisherCount _ wantsCount)
  | take subscription withBuffer =>
      exact refines.follows_take subscription withBuffer (Bool.not_eq_eq_eq_not.1 calm)
  | topicCount => exact refines.withIdle workspace.middleware.idle_pruneGraph
  | resetReason => exact refines.withIdle (.of_eq rfl rfl)
  | setReason reason => exact refines.withIdle (.of_eq rfl rfl)
  | refuseCopies count => exact refines.withIdle (workspace.middleware.idle_withLedger _)

def calmRun (workspace : Workspace) : List Action → Bool
  | [] => true
  | action :: rest => workspace.calm action && (workspace.step action).2.calmRun rest

theorem Refines.run (refines : Refines workspace bus) (actions : List Action)
    (calm : workspace.calmRun actions = true) :
    Refines (workspace.run actions) (bus.follow workspace actions) := by
  -- By induction on the calls: the workspace and the bus go on from wherever the first one left them.
  induction actions generalizing workspace bus with
  | nil => exact refines
  | cons action rest ih =>
      unfold calmRun at calm
      rw [Bool.and_eq_true] at calm
      exact ih (refines.follows action calm.1) calm.2

def waiting (workspace : Workspace) (name : String) : Option (List (Option Payload)) :=
  (workspace.subscriptions.get? name).bind (fun state =>
    (workspace.middleware.transport.subscribers.get? state.endpoint).map (fun held =>
      held.queue.waiting.map workspace.middleware.transport.store.payload?))

def retained (workspace : Workspace) (name : String) : Option (List (Option Payload)) :=
  (workspace.publishers.get? name).bind (fun state =>
    (workspace.middleware.transport.publishers.get? state.endpoint).map (fun held =>
      held.history.map workspace.middleware.transport.store.payload?))

theorem Refines.waiting_eq (refines : Refines workspace bus) (name : String) :
    workspace.waiting name =
      (bus.receivers.get? name).map (fun receiver => receiver.pending.map some) := by
  unfold waiting
  cases found : workspace.subscriptions.get? name with
  | none => rw [refines.receivers.free found, Option.bind_none, Option.map_none]
  | some state =>
      obtain ⟨receiver, there, receives⟩ := refines.receivers.exists_right found
      obtain ⟨held, here, _, _, reads, _⟩ := receives.holds
      rw [there, Option.bind_some, here, Option.map_some, Option.map_some]
      exact congrArg some reads

theorem Refines.retained_eq (refines : Refines workspace bus) (name : String) :
    workspace.retained name =
      (bus.senders.get? name).map (fun sender => sender.history.map some) := by
  unfold retained
  cases found : workspace.publishers.get? name with
  | none => rw [refines.senders.free found, Option.bind_none, Option.map_none]
  | some state =>
      obtain ⟨sender, there, sends⟩ := refines.senders.exists_right found
      obtain ⟨held, here, _, reads, _⟩ := sends.retains
      rw [there, Option.bind_some, here, Option.map_some, Option.map_some]
      exact congrArg some reads

/-- A workspace and a bus agree about what goes by a name, and the next calls of its holder tell so. -/
structure Agrees (workspace : Workspace) (bus : Bus) (name : String) : Prop where
  /-- What waits for a subscription is what waits for its receiver; without one nothing waits. -/
  waiting : workspace.waiting name =
    (bus.receivers.get? name).map (fun receiver => receiver.pending.map some)
  /-- What a publisher retains is what its sender retains. -/
  retained : workspace.retained name =
    (bus.senders.get? name).map (fun sender => sender.history.map some)
  /-- What was taken came in order and once, and where all is kept nothing is missing. -/
  faithful : ∀ receiver, bus.receivers.get? name = some receiver → receiver.Faithful
  /-- A publish that succeeds has a sender for it, and the datum says a payload. -/
  sent : ∀ datum, (workspace.step (.publish (some name) (some datum))).1 = .status .ok →
    ∃ sender payload, bus.senders.get? name = some sender ∧ datum.payload sender.kind = .ok payload
  /-- A take that succeeds gets the front. -/
  taken : ∀ withBuffer payload,
    (workspace.step (.take (some name) withBuffer)).1 = .message .ok (some payload) →
      ∃ receiver rest, bus.receivers.get? name = some receiver ∧ receiver.pending = payload :: rest
  /-- Where a payload waits, a take gets it or fails to copy it. -/
  ready : ∀ receiver payload rest, bus.receivers.get? name = some receiver →
    receiver.pending = payload :: rest →
      (workspace.step (.take (some name) true)).1 = .message .ok (some payload) ∨
        (workspace.step (.take (some name) true)).1 = .message .error none

theorem Refines.agrees (refines : Refines workspace bus) (name : String) :
    workspace.Agrees bus name := by
  refine ⟨refines.waiting_eq name, refines.retained_eq name, ?_, ?_, ?_, ?_⟩
  · intro receiver there
    obtain ⟨state, _, receives⟩ := refines.receivers.exists_left there
    exact receives.faithful
  · intro datum succeeded
    rcases refines.step_publish (some name) datum with
      ⟨failed, _, _⟩ | ⟨other, sender, payload, same, there, fits, _, _⟩
    · exact absurd succeeded failed
    · cases same
      exact ⟨sender, payload, there, fits⟩
  · intro withBuffer payload got
    have refusal : ¬(withBuffer = false ∨
        ∀ other, some name = some other → bus.receivers.get? other = none) := by
      intro refused
      obtain ⟨status, answered, _⟩ := refines.step_take_refused (some name) withBuffer refused
      rw [answered] at got
      cases got
    rw [not_or, Bool.not_eq_false] at refusal
    obtain ⟨rfl, present⟩ := refusal
    cases there : bus.receivers.get? name with
    | none =>
        refine absurd (fun other same => ?_) present
        cases same
        exact there
    | some receiver =>
        rcases refines.step_take there with
          ⟨_, answered, _⟩ | ⟨front, rest, pending, ⟨answered, _⟩ | answered⟩
        · rw [answered] at got
          cases got
        · rw [answered] at got
          cases got
          exact ⟨receiver, rest, rfl, pending⟩
        · rw [answered] at got
          cases got
  · intro receiver payload rest there pending
    rcases refines.step_take there with
      ⟨empty, _, _⟩ | ⟨front, left, waits, ⟨answered, _⟩ | answered⟩
    · rw [pending] at empty
      cases empty
    · rw [pending, List.cons.injEq] at waits
      rw [waits.1]
      exact .inl answered
    · exact .inr answered

/-- After every run of calm calls a workspace agrees with the bus that did what the answers told. -/
theorem agrees_run (actions : List Action) (calm : empty.calmRun actions = true) (name : String) :
    (empty.run actions).Agrees (Bus.empty.follow empty actions) name :=
  (refines_empty.run actions calm).agrees name

/-- Three messages, a subscription that comes late and has room for two, another message, and a take. -/
def lateComer : List Action :=
  let qos : Qos := { Qos.standard with depth := 2, durability := .transientLocal }
  let topic := some (Bytes.ofString "chatter")
  [.initContext (some "context") (some []) 0,
    .initNode (some "node") (some (Bytes.ofString "talker")) (some (Bytes.ofString "/"))
      (some "context") (some false),
    .initPublisher (some "early") (some "node") (some (.complete .int64)) topic (some qos),
    .publish (some "early") (some (.number 1)),
    .publish (some "early") (some (.number 2)),
    .publish (some "early") (some (.number 3)),
    .initSubscription (some "late") (some "node") (some (.complete .int64)) topic (some qos),
    .publish (some "early") (some (.number 4)),
    .take (some "late") true]

/-- The late subscription got the newest two, lost one of them to the fourth message, and took the other. -/
theorem agrees_lateComer : empty.calmRun lateComer = true ∧
    (empty.run lateComer).waiting "late" = some [some (.number 4)] := by
  have calm : empty.calmRun lateComer = true := by decide +kernel
  refine ⟨calm, (agrees_run lateComer calm "late").waiting.trans ?_⟩
  decide +kernel

end Workspace

end PubSub
