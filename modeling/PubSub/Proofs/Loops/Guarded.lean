import PubSub.Proofs.Loops.Gates

/-!
What callbacks do behind gates.  A sight is guarded by a sort of actions if no other action changes it.  Whatever is
made of callbacks behind gates is behind the same gates: deliveries, passes, loops, and actions, to any depth to which
callbacks are nested.
-/

namespace PubSub.Run

variable {Value Sight : Type} {touch : Action → Bool} {sight : Session → Sight}

def Unseen (sight : Session → Sight) (executor : String) : Prop :=
  ∀ change session, sight (Session.modifyPool session executor change) = sight session

/-- What is seen depends on the executors, without their nodes, and changes by no action that does not touch it. -/
structure Guards (touch : Action → Bool) (sight : Session → Sight) : Prop where
  others : ∀ before after : Session, after.executors = before.executors → sight after = sight before
  nodes : ∀ executor (nodes : Executor → List Nat) session,
    sight (Session.modifyExecutor session executor (fun held => { held with nodes := nodes held })) = sight session
  spin : ∀ executor, touch (.spin executor) = false → Unseen sight executor
  stop : ∀ executor, touch (.stop executor) = false → Unseen sight executor
  work : ∀ executor untilCalls during destroy, touch (.work executor untilCalls during destroy) = false →
    Unseen sight executor ∧ ∀ session, sight (Session.dropExecutor session executor) = sight session
  make : ∀ executor context threads, touch (.makeExecutor executor context threads) = false →
    ∀ held session, sight (Session.nameExecutor session executor held) = sight session
  drop : ∀ executor, touch (.dropExecutor executor) = false →
    ∀ session, sight (Session.dropExecutor session executor) = sight session

theorem guards_blind (touch : Action → Bool) : Guards touch (fun _ => ()) :=
  ⟨fun _ _ _ => rfl, fun _ _ _ => rfl, fun _ _ _ _ => rfl, fun _ _ _ _ => rfl,
    fun _ _ _ _ _ => ⟨fun _ _ => rfl, fun _ => rfl⟩, fun _ _ _ _ _ _ => rfl, fun _ _ _ => rfl⟩

theorem Guards.free (guards : Guards touch sight) {run : Run Value} (leaves : Leaves Session.executors run) :
    Gated touch sight (fun _ => run) :=
  .free (fun session ends => guards.others _ _ (leaves session ends))

def CallbackGated (touch : Action → Bool) (sight : Session → Sight) (callback : (Action → Bool) → Callback) : Prop :=
  ∀ subscription message, Gated touch sight (fun blocks => callback blocks subscription message)

theorem CallbackGated.blind {callback : (Action → Bool) → Callback} (gated : CallbackGated touch sight callback) :
    CallbackGated touch (fun _ => ()) callback :=
  fun subscription message => (gated subscription message).blind

theorem leaves_shouldRun (name : String) : Leaves sight (shouldRun name) := by
  apply leaves_bind (leaves_findExecutor name)
  exact fun executor => leaves_bind (leaves_view _) (fun _ => leaves_pure _)

theorem leaves_isRunning (name : String) : Leaves sight (isRunning name) :=
  leaves_bind (leaves_findExecutor name) (fun _ => leaves_pure _)

theorem leaves_isAwaited (name : String) (before : Nat) (untilCalls : Option Nat) :
    Leaves sight (isAwaited name before untilCalls) := by
  cases untilCalls with
  | none => exact leaves_bind (leaves_findExecutor name) (fun _ => leaves_pure _)
  | some wanted => exact leaves_view _

theorem leaves_stop {name : String} (unseen : Unseen sight name) : Leaves sight (stop name) := by
  apply leaves_bind (leaves_findExecutor name)
  intro executor
  apply leaves_bind (leaves_view _)
  intro fromWorker
  dsimp only
  generalize executor.pool.stop fromWorker = stopped
  apply leaves_bind (leaves_change (unseen _))
  intro _
  cases stopped.1 with
  | none => exact leaves_isRunning name
  | some raised => exact leaves_raise raised

theorem leaves_worker (worker : Option String) :
    Leaves Session.executors (change (fun session => { session with worker })) :=
  leaves_change (fun _ => rfl)

theorem Guards.pruneNodes (guards : Guards touch sight) (name : String) : Leaves sight (pruneNodes name) := by
  refine leaves_changeGet (fun session => ?_)
  cases session.executors.get? name with
  | none => rfl
  | some executor => exact guards.nodes name _ session

theorem Guards.addNode (guards : Guards touch sight) (name : String) (node : Option String) :
    Leaves sight (addNode name node) := by
  apply leaves_bind (leaves_findExecutor name)
  intro executor
  cases node with
  | none => exact leaves_pure _
  | some node =>
      apply leaves_bind (leaves_findNode node)
      exact fun found => leaves_bind (leaves_change (guards.nodes name _)) (fun _ => leaves_pure _)

theorem Guards.makeExecutor (guards : Guards touch sight) {name : String} (context : String) (threads : Nat)
    (made : ∀ held session, sight (Session.nameExecutor session name held) = sight session) :
    Leaves sight (makeExecutor name context threads) := by
  apply leaves_bind (leaves_find _)
  intro handle
  apply leaves_bind
  · exact leaves_change (fun session => (made _ _).trans (guards.others session _ rfl))
  · exact fun _ => leaves_pure _

variable {callback : (Action → Bool) → Callback}

section

variable (guards : Guards touch sight)

include guards

theorem gated_withBuffer (kind : MessageKind) {use : (Action → Bool) → Layout → Run Value}
    (gated : ∀ buffer, Gated touch sight (fun blocks => use blocks buffer)) :
    Gated touch sight (fun blocks => withBuffer kind (use blocks)) := by
  apply gated_bind (guards.free (leaves_noteLedger _))
  exact fun _ => gated_ensuring (gated kind.fresh) (fun _ => guards.others _ _ rfl)

theorem gated_keepingSubscriptions (subscriptions : List Nat) {body : (Action → Bool) → Run Value}
    (gated : Gated touch sight body) :
    Gated touch sight (fun blocks => keepingSubscriptions subscriptions (body blocks)) := by
  have kept : ∀ (session : Session) index, (session.retainSubscription index).executors = session.executors :=
    fun _ _ => rfl
  apply gated_bind (guards.free (leaves_change (Session.executors_foldl kept subscriptions)))
  intro _
  apply gated_ensuring gated
  exact fun session => guards.others _ _
    (Session.executors_foldl Session.executors_releaseSubscription subscriptions session)

theorem gated_keepingNodes (nodes : List Nat) {body : (Action → Bool) → Run Value} (gated : Gated touch sight body) :
    Gated touch sight (fun blocks => keepingNodes nodes (body blocks)) := by
  have kept : ∀ (session : Session) index, (session.retainNode index).executors = session.executors :=
    fun _ _ => rfl
  apply gated_bind (guards.free (leaves_change (Session.executors_foldl kept nodes)))
  intro _
  apply gated_ensuring gated
  exact fun session => guards.others _ _ (Session.executors_foldl Session.executors_releaseNode nodes session)

variable (gated : CallbackGated touch sight callback)

include gated

theorem gated_handleMessage (index : Nat) (subscription : SubscriptionObject) (kind : MessageKind)
    (message : Layout) :
    Gated touch sight (fun blocks => handleMessage (callback blocks) index subscription kind message) := by
  have marks : ∀ busy session, sight (Session.setBusy session index busy) = sight session :=
    fun _ _ => guards.others _ _ rfl
  have calls : ∀ payload, Gated touch sight (fun blocks => do
      change (fun session => session.setBusy index true)
      ensuring (callback blocks subscription payload) (fun session => session.setBusy index false)) := by
    intro payload
    apply gated_bind (.free (leaves_change (marks true)))
    exact fun _ => gated_ensuring (gated subscription payload) (marks false)
  have decodes : Gated touch sight (fun blocks => do
      let payload ← decode subscription.kind message
      if ← view (fun session => session.isBusy index) then stuck
      change (fun session => session.setBusy index true)
      ensuring (callback blocks subscription payload) (fun session => session.setBusy index false)) := by
    apply gated_bind (.free (leaves_decode _ _))
    intro payload
    apply gated_bind (.free (leaves_view _))
    exact fun busy => gated_ite (gated_bind (.free leaves_stuck) (fun _ => calls payload)) (calls payload)
  exact gated_ite (gated_bind (.free (leaves_raise _)) (fun _ => decodes)) decodes

theorem gated_deliverFront (index : Nat) (subscription : SubscriptionObject) :
    Gated touch sight (fun blocks => deliverFront (callback blocks) index subscription) := by
  apply gated_withBuffer guards
  intro buffer
  apply gated_bind (guards.free (leaves_takeInto _ _))
  intro taken
  cases taken with
  | none => exact .free (leaves_pure _)
  | some filled =>
      apply gated_bind (gated_handleMessage guards gated index subscription subscription.kind filled)
      exact fun _ => .free (leaves_pure _)

theorem gated_dispatch (name : String) : Gated touch sight (fun blocks => dispatch (callback blocks) name) := by
  apply gated_bind (.free (leaves_findSubscription name))
  intro found
  apply gated_bind (gated_keepingSubscriptions guards [found.1] (gated_deliverFront guards gated found.1 found.2))
  exact fun _ => .free (leaves_pure _)

theorem gated_handleForeign (name : String) (kind : MessageKind) :
    Gated touch sight (fun blocks => handleForeign (callback blocks) name kind) := by
  apply gated_withBuffer guards
  intro buffer
  apply gated_bind (.free (leaves_findSubscription name))
  intro found
  apply gated_bind
  · exact gated_keepingSubscriptions guards [found.1] (gated_handleMessage guards gated found.1 found.2 kind buffer)
  · exact fun _ => .free (leaves_pure _)

theorem gated_visitSubscription (index : Nat) :
    Gated touch sight (fun blocks => visitSubscription (callback blocks) index) := by
  apply gated_bind (.free (leaves_view _))
  intro there
  cases there with
  | none => exact .free (leaves_pure _)
  | some subscription =>
      apply gated_bind (gated_deliverFront guards gated index subscription)
      exact fun taken => .free (leaves_pure _)

theorem gated_visitNode (node : Nat) : Gated touch sight (fun blocks => visitNode (callback blocks) node) := by
  apply gated_bind (guards.free (leaves_pruneSubscriptions node))
  intro live
  exact gated_keepingSubscriptions guards live (gated_sumOver (gated_visitSubscription guards gated) live)

theorem gated_pass (name : String) : Gated touch sight (fun blocks => pass (callback blocks) name) := by
  apply gated_bind (.free (leaves_findExecutor name))
  intro executor
  apply gated_bind (.free (guards.pruneNodes name))
  exact fun live => gated_keepingNodes guards live (gated_sumOver (gated_visitNode guards gated) live)

theorem gated_round (name : String) : Gated touch sight (fun blocks => round (callback blocks) name) := by
  apply gated_bind (.free (leaves_findExecutor name))
  intro executor
  apply gated_bind (.free (leaves_shouldRun name))
  intro goesOn
  refine gated_ite ?_ (.free (leaves_pure _))
  apply gated_bind (gated_attempt (gated_pass guards gated name))
  intro outcome
  cases outcome with
  | ok dispatched => exact .free (leaves_pure _)
  | error raised =>
      refine .free (leaves_bind (leaves_view _) ?_)
      exact fun valid => leaves_ite (leaves_pure _) (leaves_raise _)

/-- The rounds of a loop do not touch the workers of its executor, only its start and its end do. -/
theorem gated_rounds (name : String) (limit : Nat) :
    Gated touch sight (fun blocks => rounds (callback blocks) name limit) := by
  induction limit with
  | zero => exact .free leaves_stuck
  | succ remaining ih =>
      apply gated_bind (gated_round guards gated name)
      intro outcome
      rcases outcome with _ | _ | dispatched
      · exact .free (leaves_pure _)
      · exact .free leaves_stuck
      · exact ih

theorem gated_spin {name : String} (unseen : Unseen sight name) (limit : Nat) :
    Gated touch sight (fun blocks => spin (callback blocks) limit name) := by
  apply gated_bind (.free (leaves_findExecutor name))
  intro executor
  apply gated_bind (.free (leaves_change (unseen _)))
  intro _
  apply gated_bind (gated_ensuring (gated_rounds guards gated name limit) (unseen _))
  exact fun _ => .free (leaves_isRunning name)

theorem gated_workerRounds {name : String} (unseen : Unseen sight name) (before : Nat) (untilCalls : Option Nat)
    (limit : Nat) : Gated touch sight (fun blocks => workerRounds (callback blocks) name before untilCalls limit) := by
  induction limit with
  | zero => exact .free leaves_stuck
  | succ remaining ih =>
      apply gated_bind (.free (leaves_isAwaited name before untilCalls))
      intro awaited
      refine gated_ite (.free (leaves_pure _)) ?_
      apply gated_bind (gated_round guards gated name)
      intro outcome
      rcases outcome with _ | _ | dispatched
      · exact .free (leaves_change (unseen _))
      · exact .free (leaves_pure _)
      · exact ih

theorem gated_workerTurn {name : String} (unseen : Unseen sight name) (limit before : Nat)
    (untilCalls : Option Nat) :
    Gated touch sight (fun blocks => workerTurn (callback blocks) limit name before untilCalls) := by
  apply gated_bind (.free (leaves_view _))
  intro outside
  apply gated_bind (guards.free (leaves_worker (some name)))
  intro _
  apply gated_bind (gated_attempt (gated_workerRounds guards gated unseen before untilCalls limit))
  intro outcome
  cases outcome with
  | ok _ => exact guards.free (leaves_worker outside)
  | error raised =>
      refine .free (leaves_change (fun session => ?_))
      exact (unseen _ _).trans (guards.others session _ rfl)

theorem gated_work {name : String} (unseen : Unseen sight name)
    (dropped : ∀ session, sight (Session.dropExecutor session name) = sight session) (limit : Nat)
    (untilCalls : Option Nat) {meanwhile : (Action → Bool) → Run (Option (List (Except Raised Answer)))}
    (between : Gated touch sight meanwhile) (destroy : Bool) :
    Gated touch sight (fun blocks => work (callback blocks) limit name untilCalls (meanwhile blocks) destroy) := by
  apply gated_bind (.free (leaves_findExecutor name))
  intro executor
  apply gated_bind (.free (leaves_view _))
  intro before
  apply gated_bind (.free (leaves_change (unseen _)))
  intro _
  apply gated_bind between
  intro during
  apply gated_bind (gated_workerTurn guards gated unseen limit before untilCalls)
  intro _
  apply gated_bind (.free (leaves_isAwaited name before untilCalls))
  intro awaited
  apply gated_ite
  · exact .free (leaves_bind (leaves_change dropped) (fun _ => leaves_pure _))
  · refine .free (leaves_bind (leaves_attempt (leaves_stop unseen)) ?_)
    exact fun stopped => leaves_bind (leaves_findExecutor name) (fun _ => leaves_pure _)

end

theorem gated_runScript {perform : (Action → Bool) → Action → Run Answer} (guards : Guards touch sight)
    (gated : ∀ action, Gated touch sight (fun blocks => perform blocks action)) (message : Payload) (place : Nat)
    (script : Script) : Gated touch sight (fun blocks => runScript (perform blocks) message place script) := by
  induction script with
  | nil => exact .free (leaves_pure _)
  | cons step rest ih =>
      obtain ⟨guard, action⟩ := step
      have here := gated (action.within message)
      refine gated_ite (gated_ite ?_ ?_) ih
      · exact gated_bind here (fun _ => ih)
      · apply gated_bind (gated_attempt here)
        intro answer
        exact gated_bind (guards.free (leaves_change (fun _ => rfl))) (fun _ => ih)

theorem gated_runCallback {perform : (Action → Bool) → Action → Run Answer} (guards : Guards touch sight)
    (gated : ∀ action, Gated touch sight (fun blocks => perform blocks action)) :
    CallbackGated touch sight (fun blocks => runCallback (perform blocks)) := by
  intro subscription message
  apply gated_bind (guards.free (leaves_changeGet (fun _ => rfl)))
  intro place
  apply gated_ensuring (gated_runScript guards gated message place subscription.script)
  exact fun session => guards.others session _ rfl

theorem Gated.behind {run : (Action → Bool) → Run Value} (gated : Gated touch sight run) (action : Action) :
    Gated touch sight (fun blocks => if blocks action then stuck else run blocks) :=
  gated_unless action gated.blind (fun _ => gated.leaves)

theorem gated_startWork (guards : Guards touch sight) (gated : CallbackGated touch sight callback) (limit : Nat)
    (executor : String) (untilCalls : Option Nat) (during : Option (List Action))
    {meanwhile : (Action → Bool) → Run (Option (List (Except Raised Answer)))} (between : Gated touch sight meanwhile)
    (destroy : Bool) :
    Gated touch sight (fun blocks =>
      if blocks (.work executor untilCalls during destroy) then stuck
      else work (callback blocks) limit executor untilCalls (meanwhile blocks) destroy) := by
  apply gated_unless
  · exact gated_work (guards_blind touch) gated.blind (fun _ _ => rfl) (fun _ => rfl) limit untilCalls between.blind
      destroy
  · intro free
    obtain ⟨unseen, dropped⟩ := guards.work executor untilCalls during destroy free
    exact (gated_work guards gated unseen dropped limit untilCalls between destroy).leaves

mutual

theorem gated_performUnless (guards : Guards touch sight) (gated : CallbackGated touch sight callback) (limit : Nat) :
    ∀ action : Action, Gated touch sight (fun blocks => performUnless blocks (callback blocks) limit action)
  | .makeContext name arguments => (guards.free (leaves_makeContext name arguments)).behind _
  | .copyContext name source => (guards.free (leaves_copyContext name source)).behind _
  | .contextIsValid context => (guards.free (leaves_contextIsValid context)).behind _
  | .nodeContextIsValid node => (guards.free (leaves_nodeContextIsValid node)).behind _
  | .shutdown context => (guards.free (leaves_shutdown context)).behind _
  | .makeNode name context nodeName space => (guards.free (leaves_makeNode name context nodeName space)).behind _
  | .nodeInfo node => (guards.free (leaves_nodeInfo node)).behind _
  | .live node => (guards.free (leaves_live node)).behind _
  | .makePublisher name node kind topic qos =>
      (guards.free (leaves_makePublisher name node kind topic qos)).behind _
  | .makeSubscription name node kind topic qos registered script =>
      (guards.free (leaves_makeSubscription name node kind topic qos registered script)).behind _
  | .copyPublisher name source => (guards.free (leaves_copyPublisher name source)).behind _
  | .publish publisher draft => (guards.free (leaves_publish publisher draft)).behind _
  | .publishRange publisher first last => (guards.free (leaves_publishRange publisher first last)).behind _
  | .take subscription => (guards.free (leaves_take subscription)).behind _
  | .takeAll subscription => (guards.free (leaves_takeAll subscription)).behind _
  | .dispatch subscription => (gated_dispatch guards gated subscription).behind _
  | .handleForeign subscription kind => (gated_handleForeign guards gated subscription kind).behind _
  | .info sort name => (guards.free (leaves_info sort name)).behind _
  | .countSubscriptions publisher => (guards.free (leaves_countSubscriptions publisher)).behind _
  | .countPublishers subscription => (guards.free (leaves_countPublishers subscription)).behind _
  | .drop sort name => (guards.free (leaves_bind (leaves_drop sort name) (fun _ => leaves_pure _))).behind _
  | .dropExecutor executor =>
      gated_unless _ (.free (fun _ _ => rfl))
        (fun free => leaves_bind (leaves_change (guards.drop executor free)) (fun _ => leaves_pure _))
  | .alive => (guards.free (leaves_map _ (leaves_view _))).behind _
  | .makeExecutor name context threads =>
      gated_unless _ (.free (fun _ _ => rfl))
        (fun free => guards.makeExecutor context threads (guards.make name context threads free))
  | .addNode executor node => (Gated.free (guards.addNode executor node)).behind _
  | .isRunning executor => (Gated.free (leaves_isRunning executor)).behind _
  | .stop executor =>
      gated_unless _ (.free (fun _ _ => rfl)) (fun free => leaves_stop (guards.stop executor free))
  | .spin executor =>
      gated_unless _ (gated_spin (guards_blind touch) gated.blind (fun _ _ => rfl) limit)
        (fun free => (gated_spin guards gated (guards.spin executor free) limit).leaves)
  | .spinOnce executor => (gated_map _ (gated_pass guards gated executor)).behind _
  | .work executor untilCalls none destroy =>
      gated_startWork guards gated limit executor untilCalls none (.free (leaves_pure none)) destroy
  | .work executor untilCalls (some during) destroy =>
      gated_startWork guards gated limit executor untilCalls (some during)
        (gated_map some (gated_performAllUnless guards gated limit during)) destroy
  | .finiNativeNode node => (guards.free (leaves_finiNativeNode node)).behind _
  | .faults => (guards.free (leaves_map _ (leaves_view _))).behind _
  | .counters => (guards.free (leaves_view _)).behind _
  | .refuseCopies _ => (guards.free (leaves_bind (leaves_noteLedger _) (fun _ => leaves_pure _))).behind _
  | .throwUser message => (guards.free (leaves_raise (.user message))).behind _
  | .refuse none message =>
      (guards.free (leaves_bind (leaves_pure _) (fun _ => leaves_raise (.unreadable message)))).behind _
  | .refuse (some (sort, name)) message =>
      (guards.free (leaves_bind (leaves_requireName sort name) (fun _ => leaves_raise (.unreadable message)))).behind _

theorem gated_performAllUnless (guards : Guards touch sight) (gated : CallbackGated touch sight callback)
    (limit : Nat) : ∀ actions : List Action,
      Gated touch sight (fun blocks => performAllUnless blocks (callback blocks) limit actions)
  | [] => .free (leaves_pure [])
  | action :: rest => by
      apply gated_bind (gated_attempt (gated_performUnless guards gated limit action))
      intro answer
      exact gated_bind (gated_performAllUnless guards gated limit rest) (fun _ => .free (leaves_pure _))

end

/-- What callbacks do that are nested to any depth. -/
theorem gated_callbackUnless (guards : Guards touch sight) (limit depth : Nat) :
    CallbackGated touch sight (fun blocks => callbackUnless blocks limit depth) := by
  -- By induction on the depth: callbacks perform actions whose callbacks are nested less deep.
  induction depth with
  | zero => exact fun _ _ => .free leaves_stuck
  | succ depth ih => exact gated_runCallback guards (gated_performUnless guards ih limit)

end PubSub.Run
