import PubSub.Proofs.Loops.Exits
import PubSub.Proofs.Loops.Guarded

/-!
Spins whose callbacks are scripts.  As long as no callback destroys the executor, makes it anew or runs another loop of
it, its context stays, and its flag goes down by a stop only.  So a spin that ends without raising anything has come to
such a stop, or the context of the executor is over.
-/

namespace PubSub

/-- Whether an action stops an executor. -/
def Action.stops (name : String) : Action → Bool
  | .stop executor => executor == name
  | _ => false

/-- Whether an action destroys an executor, makes it anew, or runs a loop of it. -/
def Action.manages (name : String) : Action → Bool
  | .spin executor => executor == name
  | .work executor _ _ _ => executor == name
  | .makeExecutor executor _ _ => executor == name
  | .dropExecutor executor => executor == name
  | _ => false

/--
A callback comes to an action of some sort in the course of a spin: with a gate before these actions, the spin would
wait for good.
-/
def Session.ComesTo (session : Session) (limit depth : Nat) (name : String) (sort : Action → Bool) : Prop :=
  ((Run.spin (Run.callbackUnless sort limit depth) limit name).run session).1 = .error .stuck

namespace Run

variable {name : String} {limit depth : Nat} {session begun : Session} {executor : Executor}

/-- What manages an executor guards whatever can be seen of it, as long as its pool is guarded as well. -/
theorem guards_seen {Key : Type} {key : Executor → Key} {touch : Action → Bool}
    (nodes : ∀ (executor : Executor) nodes, key { executor with nodes } = key executor)
    (pools : ∀ executor, touch (.spin executor) = false ∨ touch (.stop executor) = false →
      Unseen (Session.seen key name) executor)
    (manages : ∀ action : Action, touch action = false → action.manages name = false) :
    Guards touch (Session.seen key name) := by
  have distinct : ∀ {executor : String}, (executor == name) = false → ¬name = executor :=
    fun differs same => beq_eq_false_iff_ne.1 differs same.symm
  have drops : ∀ {executor : String}, (executor == name) = false →
      ∀ session : Session, (session.dropExecutor executor).seen key name = session.seen key name :=
    fun differs session => congrArg (Option.map key) (Session.get?_dropExecutor (distinct differs) session)
  constructor
  case others => exact fun before after same => congrArg (fun executors => (Table.get? executors name).map key) same
  case nodes => exact fun executor replaced => Session.seen_modifyExecutor (fun _ held => nodes held (replaced held))
  case spin => exact fun executor free => pools executor (.inl free)
  case stop => exact fun executor free => pools executor (.inr free)
  case work =>
      intro executor untilCalls during destroy free
      refine ⟨fun change session => ?_, drops (manages _ free)⟩
      exact Session.seen_modifyExecutor (fun same => absurd same (distinct (manages _ free))) session
  case make =>
      intro executor context threads free held session
      exact congrArg (Option.map key) (Session.get?_nameExecutor (distinct (manages _ free)) session held)
  case drop => exact fun executor free => drops (manages _ free)

def standing (executor : Executor) : Nat × WorkerPool Raised :=
  (executor.context, executor.pool)

theorem guards_standing (name : String) :
    Guards (fun action => action.stops name || action.manages name) (Session.seen standing name) := by
  refine guards_seen (fun _ _ => rfl) (fun executor free => ?_) (fun action free => (Bool.or_eq_false_iff.1 free).2)
  have differs : (executor == name) = false := free.elim id (fun free => (Bool.or_false _).symm.trans free)
  exact fun change session =>
    Session.seen_modifyExecutor (fun same => absurd same.symm (beq_eq_false_iff_ne.1 differs)) session

theorem guards_context (name : String) : Guards (Action.manages name) (Session.seen Executor.context name) :=
  guards_seen (fun _ _ => rfl) (fun _ _ _ => Session.seen_modifyExecutor (fun _ _ => rfl)) (fun _ free => free)

theorem sight_of_mem_passes {Sight : Type} {touch : Action → Bool} {sight : Session → Sight}
    {callback : (Action → Bool) → Callback} (guards : Guards touch sight) (gated : CallbackGated touch sight callback)
    (ends : ((rounds (callback touch) name limit).run session).1 ≠ .error .stuck)
    (member : begun ∈ passes (callback (fun _ => false)) name limit session) : sight begun = sight session := by
  -- By induction on the bound: a pass that is not stuck behind the gates is the pass that is made without any.
  induction limit generalizing session with
  | zero => cases member
  | succ remaining ih =>
      obtain ⟨goesOn, first | ⟨dispatched, after, passed, later⟩⟩ := mem_passes_succ.1 member
      · rw [first]
      · obtain ⟨executor, found, _⟩ := exists_of_spins goesOn
        have visits := gated_pass guards gated name
        rw [run_rounds_succ found, if_pos goesOn] at ends
        obtain waits | same := visits.goes passed touch
        · rcases outcome : (pass (callback touch) name).run session with ⟨stop | dispatched, after⟩ <;>
            rw [outcome] at waits ends
          · cases waits
            exact absurd rfl ends
          · cases waits
        · have stays := visits.leaves session (by rw [same]; exact fun impossible => nomatch impossible)
          rw [same] at ends stays
          exact (ih ends later).trans stays

/-- The rounds of a loop with scripts for callbacks, behind gates before what touches a sight. -/
theorem sight_of_rounds {Sight : Type} {touch : Action → Bool} {sight : Session → Sight} (guards : Guards touch sight)
    (ends : ((rounds (callbackUnless touch limit depth) name limit).run session).1 ≠ .error .stuck) :
    sight ((rounds (callbackWithin limit depth) name limit).run session).2 = sight session := by
  have gated := gated_rounds guards (gated_callbackUnless guards limit depth) name limit
  have same := gated.same touch session ends
  rw [callbackUnless_none] at same
  rw [← same]
  exact gated.leaves session ends

/--
What holds of a spin whose callbacks are scripts that do not manage its executor.  It ends without raising anything only
if it came to a stop, or the context of the executor is over; what it raises is what a pass raised, as long as it is not
put down to the end of that context.
-/
structure LeavesDuly (limit depth : Nat) (name : String) (session : Session) (executor : Executor) : Prop where
  stopped : (isRunning name).run ((spin (callbackWithin limit depth) limit name).run session).2 =
    (.ok (.running false), ((spin (callbackWithin limit depth) limit name).run session).2)
  reason : ∀ answer, ((spin (callbackWithin limit depth) limit name).run session).1 = .ok answer →
    ((spin (callbackWithin limit depth) limit name).run session).2.contextIsValid executor.context = false ∨
      session.ComesTo limit depth name (Action.stops name)
  own : ∀ context raised failed,
    FailsWith (callbackWithin limit depth) name limit (session.modifyPool name WorkerPool.start) context raised failed →
      context = executor.context
  quiet : ∀ raised failed,
    FailsWith (callbackWithin limit depth) name limit (session.modifyPool name WorkerPool.start) executor.context
        raised failed →
      failed.excuses executor.context raised = true →
        (spin (callbackWithin limit depth) limit name).run session =
          (.ok (.running false), failed.modifyPool name WorkerPool.askToStop)
  raises : ∀ raised, ((spin (callbackWithin limit depth) limit name).run session).1 = .error (.raised raised) →
    ∃ failed,
      FailsWith (callbackWithin limit depth) name limit (session.modifyPool name WorkerPool.start) executor.context
        raised failed ∧ failed.excuses executor.context raised = false

section

variable (found : session.executors.get? name = some executor)
  (unmanaged : ¬session.ComesTo limit depth name (Action.manages name))

include found unmanaged

theorem exists_of_rounds :
    ∃ holder, ((rounds (callbackWithin limit depth) name limit).run
        (session.modifyPool name WorkerPool.start)).2.executors.get? name = some holder ∧
      holder.context = executor.context := by
  have stays := sight_of_rounds (guards_context name) (fun waits => unmanaged ((stuck_spin_iff found).2 waits))
  unfold Session.seen at stays
  rw [session.get?_modifyPool found, Option.map_some, Option.map_eq_some_iff] at stays
  exact stays

theorem own_of_fails {context : Nat} {raised : Raised} {failed : Session}
    (fails : FailsWith (callbackWithin limit depth) name limit (session.modifyPool name WorkerPool.start) context raised
      failed) : context = executor.context := by
  obtain ⟨begun, member, holder, there, rfl, _⟩ := fails
  rw [← callbackUnless_none] at member
  have stays := sight_of_mem_passes (guards_context name) (gated_callbackUnless (guards_context name) limit depth)
    (fun waits => unmanaged ((stuck_spin_iff found).2 waits)) member
  unfold Session.seen at stays
  rw [session.get?_modifyPool found, there] at stays
  exact Option.some.inj stays

theorem running_of_rounds (free : ¬session.ComesTo limit depth name (Action.stops name)) {holder : Executor}
    (there : ((rounds (callbackWithin limit depth) name limit).run
      (session.modifyPool name WorkerPool.start)).2.executors.get? name = some holder) :
    holder.pool.running = true := by
  have passable : ((rounds (callbackUnless (fun action => action.stops name || action.manages name) limit depth) name
      limit).run (session.modifyPool name WorkerPool.start)).1 ≠ .error .stuck := by
    intro waits
    have gated := gated_rounds (guards_blind (Action.stops name))
      (gated_callbackUnless (guards_blind (Action.stops name)) limit depth) name limit
    cases gated.either (Action.stops name) (Action.manages name) _ waits with
    | inl stops => exact free ((stuck_spin_iff found).2 stops)
    | inr manages => exact unmanaged ((stuck_spin_iff found).2 manages)
  have stays := sight_of_rounds (guards_standing name) passable
  unfold Session.seen at stays
  rw [session.get?_modifyPool found, there, Option.map_some, Option.map_some, Option.some.injEq] at stays
  exact congrArg (fun standing => standing.2.running) stays

end

theorem leavesDuly (found : session.executors.get? name = some executor)
    (ended : ((spin (callbackWithin limit depth) limit name).run session).1 ≠ .error .stuck)
    (unmanaged : ¬session.ComesTo limit depth name (Action.manages name)) :
    LeavesDuly limit depth name session executor := by
  obtain ⟨holder, there, context⟩ := exists_of_rounds found unmanaged
  have clean := leavesClean found ended
  have after : ((spin (callbackWithin limit depth) limit name).run session).2 = _ := after_spin found
  constructor
  case stopped =>
      rw [after, run_isRunning_askToStop, there]
  case reason =>
      intro answer answered
      cases valid : ((spin (callbackWithin limit depth) limit name).run session).2.contextIsValid executor.context with
      | false => exact .inl rfl
      | true =>
          -- With the flag up and the context valid, the loop would have gone on.
          refine .inr (Classical.byContradiction (fun free => ?_))
          have up := running_of_rounds found unmanaged free there
          have ends := ends_rounds (fun waits => ended ((stuck_spin_iff found).2 waits))
          rw [after] at valid
          rw [run_spin found] at answered
          rcases outcome : (rounds (callbackWithin limit depth) name limit).run
            (session.modifyPool name WorkerPool.start) with ⟨stop | value, last⟩ <;>
            rw [outcome] at there valid answered ends
          · cases answered
          · have invalid := ends.invalid there up
              (fun _ _ _ fails => (own_of_fails found unmanaged fails).trans context.symm)
            rw [context] at invalid
            exact absurd (invalid.symm.trans valid) Bool.false_ne_true
  case own => exact fun other raised failed fails => own_of_fails found unmanaged fails
  case quiet =>
      intro raised failed fails excused
      rw [run_rounds_of_fails fails] at there
      rw [clean.quiet executor.context raised failed fails excused, run_isRunning_askToStop, there]
  case raises =>
      intro raised outcome
      obtain ⟨other, failed, fails, excused⟩ | ⟨_, gone⟩ := clean.raises raised outcome
      · obtain rfl := own_of_fails found unmanaged fails
        exact ⟨failed, fails, excused⟩
      · rw [after, Session.get?_modifyPool there] at gone
        cases gone

end Run

/--
Whatever the nodes of an executor, their contexts, the queues and the callbacks: a spin that ends leaves the flag down,
raises what its passes raise, and is silent about a failed take only where the executor's own context does not run.  If
the callbacks do not manage the executor, it ends without raising anything after a stop only, or with its context over.
-/
theorem spin_leaves_clean (callback : Callback) (limit : Nat) (name : String) (session : Session) (executor : Executor)
    (found : session.executors.get? name = some executor)
    (ended : ((Run.spin callback limit name).run session).1 ≠ .error .stuck) :
    Run.LeavesClean callback limit name session ∧
      ∀ depth, callback = Run.callbackWithin limit depth →
        ¬session.ComesTo limit depth name (Action.manages name) →
          Run.LeavesDuly limit depth name session executor := by
  refine ⟨Run.leavesClean found ended, fun depth scripts unmanaged => ?_⟩
  subst scripts
  exact Run.leavesDuly found ended unmanaged

namespace Session

/-- An executor whose only node is on another context, which is shut down. -/
def misplaced : List Action :=
  [.makeContext "own" [],
    .makeContext "other" [],
    .makeNode "node" "other" (Bytes.ofString "node") (Bytes.ofString "/"),
    .makeSubscription "subscription" "node" .int64 (Bytes.ofString "t") Qos.standard true [],
    .makeExecutor "executor" "own" 1,
    .addNode "executor" (some "node"),
    .shutdown "other"]

/-- An executor that the callback of a waiting message stops. -/
def stopping : List Action :=
  [.makeContext "own" [],
    .makeNode "node" "own" (Bytes.ofString "node") (Bytes.ofString "/"),
    .makePublisher "publisher" "node" .int64 (Bytes.ofString "t") Qos.standard,
    .makeSubscription "subscription" "node" .int64 (Bytes.ofString "t") Qos.standard true
      [({ only := none, below := none, raises := false }, .stop "executor")],
    .makeExecutor "executor" "own" 1,
    .addNode "executor" (some "node"),
    .publish "publisher" (.given (.number 2))]

end Session

def Run.halt? {Value : Type} : Except Stop Value → Option Stop
  | .ok _ => none
  | .error stop => some stop

theorem Run.ne_stuck_of_halt? {Value : Type} {result : Except Stop Value}
    (ends : Run.halt? result ≠ some .stuck) : result ≠ .error .stuck :=
  fun waits => ends (congrArg Run.halt? waits)

def Stop.isTakeFailure : Stop → Bool
  | .raised failure => failure.isTakeFailure
  | .stuck => false

/-- The failed take on the other context is raised; the stop ends the other spin, whose context still runs. -/
theorem spin_leaves_clean_stopped :
    (∃ raised, ((Run.spin (Run.callbackWithin 3 1) 3 "executor").run (Session.empty.run Session.misplaced)).1 =
        .error (.raised raised) ∧ raised.isTakeFailure = true ∧
      ∃ failed, Run.FailsWith (Run.callbackWithin 3 1) "executor" 3
        ((Session.empty.run Session.misplaced).modifyPool "executor" WorkerPool.start) 0 raised failed) ∧
    ((Run.spin (Run.callbackWithin 3 1) 3 "executor").run (Session.empty.run Session.stopping)).2.contextIsValid 0 =
      true ∧
    (Session.empty.run Session.stopping).ComesTo 3 1 "executor" (Action.stops "executor") := by
  constructor
  · have holds : ∃ executor, (Session.empty.run Session.misplaced).executors.get? "executor" = some executor ∧
        executor.context = 0 :=
      ⟨_, rfl, by decide +kernel⟩
    have passable : ¬(Session.empty.run Session.misplaced).ComesTo 3 1 "executor" (Action.manages "executor") :=
      Run.ne_stuck_of_halt? (by decide +kernel)
    have raises : (Run.halt? ((Run.spin (Run.callbackWithin 3 1) 3 "executor").run
        (Session.empty.run Session.misplaced)).1).any Stop.isTakeFailure = true := by
      decide +kernel
    have ended : ((Run.spin (Run.callbackWithin 3 1) 3 "executor").run (Session.empty.run Session.misplaced)).1 ≠
        .error .stuck :=
      Run.ne_stuck_of_halt? (by decide +kernel)
    -- From here on it does not matter which session that is.
    generalize Session.empty.run Session.misplaced = session at holds passable raises ended ⊢
    obtain ⟨executor, found, own⟩ := holds
    cases outcome : ((Run.spin (Run.callbackWithin 3 1) 3 "executor").run session).1 with
    | ok answer =>
        rw [outcome] at raises
        cases raises
    | error stop =>
        rw [outcome] at raises
        cases stop with
        | stuck => cases raises
        | raised raised =>
            have duly := (spin_leaves_clean _ 3 "executor" session executor found ended).2 1 rfl passable
            obtain ⟨failed, fails, _⟩ := duly.raises raised outcome
            rw [own] at fails
            exact ⟨raised, rfl, raises, failed, fails⟩
  · have holds : ∃ executor, (Session.empty.run Session.stopping).executors.get? "executor" = some executor ∧
        executor.context = 0 :=
      ⟨_, rfl, by decide +kernel⟩
    have passable : ¬(Session.empty.run Session.stopping).ComesTo 3 1 "executor" (Action.manages "executor") :=
      Run.ne_stuck_of_halt? (by decide +kernel)
    have silent : Run.halt? ((Run.spin (Run.callbackWithin 3 1) 3 "executor").run
        (Session.empty.run Session.stopping)).1 = none := by
      decide +kernel
    have valid : ((Run.spin (Run.callbackWithin 3 1) 3 "executor").run
        (Session.empty.run Session.stopping)).2.contextIsValid 0 = true := by
      decide +kernel
    have ended : ((Run.spin (Run.callbackWithin 3 1) 3 "executor").run (Session.empty.run Session.stopping)).1 ≠
        .error .stuck :=
      Run.ne_stuck_of_halt? (by decide +kernel)
    generalize Session.empty.run Session.stopping = session at holds passable silent valid ended ⊢
    obtain ⟨executor, found, own⟩ := holds
    have duly := (spin_leaves_clean _ 3 "executor" session executor found ended).2 1 rfl passable
    refine ⟨valid, ?_⟩
    cases outcome : ((Run.spin (Run.callbackWithin 3 1) 3 "executor").run session).1 with
    | ok answer =>
        refine (duly.reason answer outcome).resolve_left (fun invalid => ?_)
        rw [own, valid] at invalid
        cases invalid
    | error stop =>
        rw [outcome] at silent
        cases silent

end PubSub
