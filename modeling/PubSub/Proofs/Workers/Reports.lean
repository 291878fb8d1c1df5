import Mathlib.Algebra.Ring.Nat
import PubSub.Client.Loop
import PubSub.Proofs.Client.Requests

/-!
What becomes of the failures of workers.  A history lists what happens to the workers of an executor, in any order: they
are started, leave or fail one by one, one of them stops the executor, or an outside stop is asked for and completed.
Outside stops cut a history into stretches, and the stop that ends a stretch reports the first failure in it; nothing
else reports or loses a failure.
-/

namespace PubSub

namespace WorkerPool

variable {Failure : Type}

/--
One thing that happens to the workers of an executor.  A stop from outside first asks the workers to leave, and is
completed when none is left; anything may happen in between.
-/
inductive Event (Failure : Type) where
  | launched (count : Nat)
  | left
  | failed (failure : Failure)
  | stoppedWithin
  | asked
  | stopped
  deriving DecidableEq, Repr

namespace Event

def failure? : Event Failure → Option Failure
  | .failed failure => some failure
  | _ => none

def isLaunch : Event Failure → Bool
  | .launched _ => true
  | _ => false

/-- Whether an outside stop is completed. -/
def isStop : Event Failure → Bool
  | .stopped => true
  | _ => false

def started : Event Failure → Nat
  | .launched count => max count 1
  | _ => 0

def ended : Event Failure → Nat
  | .left | .failed _ => 1
  | _ => 0

end Event

/-- The parts of a history between outside stops, the last of which may be followed by no stop yet. -/
def stretches (history : List (Event Failure)) : List (List (Event Failure)) :=
  history.splitOnP Event.isStop

/-- What happened since the last outside stop. -/
def sinceStop (history : List (Event Failure)) : List (Event Failure) :=
  ((stretches history).getLast?).getD []

def firstFailure (stretch : List (Event Failure)) : Option Failure :=
  stretch.findSome? Event.failure?

/-- Only a worker that has not left leaves, fails or stops its executor, and an outside stop waits for all of them. -/
def allows (pool : WorkerPool Failure) : Event Failure → Bool
  | .left | .failed _ | .stoppedWithin => decide (0 < pool.active)
  | .stopped => decide (pool.active = 0)
  | .launched _ | .asked => true

/-- What a stop reports, if anything, and the pool afterwards. -/
def step (pool : WorkerPool Failure) : Event Failure → Option Failure × WorkerPool Failure
  | .launched count => (none, pool.launch count)
  | .left => (none, pool.leave)
  | .failed failure => (none, pool.fail failure)
  | .stoppedWithin => pool.stop true
  | .asked => (none, pool.askToStop)
  | .stopped => pool.stop false

def allowsAll : WorkerPool Failure → List (Event Failure) → Bool
  | _, [] => true
  | pool, event :: rest => pool.allows event && allowsAll (pool.step event).2 rest

def run (pool : WorkerPool Failure) (history : List (Event Failure)) : WorkerPool Failure :=
  history.foldl (fun current event => (current.step event).2) pool

def reports : WorkerPool Failure → List (Event Failure) → List (Option Failure)
  | _, [] => []
  | pool, event :: rest =>
      if event.isStop then (pool.step event).1 :: reports (pool.step event).2 rest else reports (pool.step event).2 rest

variable {pool : WorkerPool Failure} {event : Event Failure} {history later : List (Event Failure)}

/-- Only the first failure is kept, and nothing but an outside stop takes it away. -/
theorem failure_step (pool : WorkerPool Failure) (unstopped : event.isStop = false) :
    (pool.step event).2.failure = pool.failure.or event.failure? := by
  cases event with
  | failed failure => rfl
  | stopped => cases unstopped
  | launched | left | stoppedWithin | asked => exact Option.or_none.symm

theorem active_step (allowed : pool.allows event = true) :
    (pool.step event).2.active + event.ended = pool.active + event.started := by
  cases event with
  | left | failed => exact Nat.sub_add_cancel (of_decide_eq_true allowed)
  | stopped => exact (of_decide_eq_true allowed).symm
  | launched | stoppedWithin | asked => rfl

theorem running_step (pool : WorkerPool Failure) (event : Event Failure) :
    (pool.step event).2.running = event.isLaunch := by
  cases event <;> rfl

theorem firstFailure_cons (event : Event Failure) (rest : List (Event Failure)) :
    firstFailure (event :: rest) = event.failure?.or (firstFailure rest) := by
  unfold firstFailure
  rw [List.findSome?_cons]
  cases event.failure? <;> rfl

theorem stretches_ne_nil (history : List (Event Failure)) : stretches history ≠ [] :=
  List.splitOnP_ne_nil Event.isStop history

theorem stretches_stopped (history : List (Event Failure)) :
    stretches (.stopped :: history) = [] :: stretches history := by
  unfold stretches
  rw [List.splitOnP_cons_eq_if_modifyHead]
  rfl

theorem stretches_cons (unstopped : event.isStop = false) {first : List (Event Failure)}
    {others : List (List (Event Failure))} (parts : stretches history = first :: others) :
    stretches (event :: history) = (event :: first) :: others := by
  unfold stretches at parts ⊢
  rw [List.splitOnP_cons_eq_if_modifyHead, unstopped, parts]
  rfl

theorem run_append (pool : WorkerPool Failure) (first second : List (Event Failure)) :
    pool.run (first ++ second) = (pool.run first).run second :=
  List.foldl_append

/--
The first failures of the stretches are what the outside stops report in turn, and last what is kept.  A failure that
was there before counts as the first of the first stretch.
-/
theorem map_firstFailure (pool : WorkerPool Failure) (history : List (Event Failure)) :
    ((stretches history).map firstFailure).modifyHead pool.failure.or =
      reports pool history ++ [(pool.run history).failure] := by
  induction history generalizing pool with
  | nil => exact congrArg (· :: []) Option.or_none
  | cons event rest ih =>
      have after := ih (pool.step event).2
      obtain ⟨first, others, parts⟩ := List.exists_cons_of_ne_nil (stretches_ne_nil rest)
      rw [parts, List.map_cons, List.modifyHead_cons] at after
      cases stops : event.isStop with
      | false =>
          rw [stretches_cons stops parts, List.map_cons, List.modifyHead_cons, firstFailure_cons, ← Option.or_assoc,
            ← failure_step pool stops, after, reports, stops]
          rfl
      | true =>
          cases event with
          | stopped =>
              have cleared : (idle : WorkerPool Failure).failure.or (firstFailure first) = firstFailure first :=
                Option.none_or
              change (idle.failure.or (firstFailure first) :: others.map firstFailure) = _ at after
              rw [stretches_stopped, parts, List.map_cons, List.map_cons, List.modifyHead_cons, ← cleared, after]
              exact congrArg (· :: _) Option.or_none
          | launched | left | failed | stoppedWithin | asked => cases stops

theorem active_run (allowed : pool.allowsAll history = true) :
    (pool.run history).active + (history.map Event.ended).sum = pool.active + (history.map Event.started).sum := by
  induction history generalizing pool with
  | nil => rfl
  | cons event rest ih =>
      rw [allowsAll, Bool.and_eq_true] at allowed
      have here := active_step allowed.1
      have after := ih allowed.2
      change ((pool.step event).2.run rest).active + _ = _
      rw [List.map_cons, List.map_cons, List.sum_cons, List.sum_cons]
      omega

theorem failure_run (pool : WorkerPool Failure) (unstopped : later.all (fun event => !event.isStop) = true) :
    (pool.run later).failure = pool.failure.or (firstFailure later) := by
  induction later generalizing pool with
  | nil => exact Option.or_none.symm
  | cons event rest ih =>
      rw [List.all_cons, Bool.and_eq_true, Bool.not_eq_true'] at unstopped
      rw [firstFailure_cons, ← Option.or_assoc, ← failure_step pool unstopped.1]
      exact ih (pool.step event).2 unstopped.2

/-- The pool of an executor after all that has happened to its workers. -/
def after (history : List (Event Failure)) : WorkerPool Failure :=
  idle.run history

theorem running_after (history : List (Event Failure)) :
    (after history).running = history.getLast?.any Event.isLaunch := by
  rcases List.eq_nil_or_concat history with rfl | ⟨first, event, rfl⟩
  · rfl
  · unfold after
    rw [List.concat_eq_append, run_append, List.getLast?_append, List.getLast?_singleton]
    exact running_step (idle.run first) event

theorem map_firstFailure_after (history : List (Event Failure)) :
    (stretches history).map firstFailure = reports idle history ++ [(after history).failure] := by
  refine Eq.trans ?_ (map_firstFailure idle history)
  cases (stretches history).map firstFailure with
  | nil => rfl
  | cons first others => exact congrArg (· :: others) Option.none_or.symm

theorem failure_after (history : List (Event Failure)) :
    (after history).failure = firstFailure (sinceStop history) := by
  have last := congrArg List.getLast? (map_firstFailure_after history)
  rw [List.getLast?_map, List.getLast?_append, List.getLast?_singleton,
    List.getLast?_eq_some_getLast (stretches_ne_nil history)] at last
  unfold sinceStop
  rw [List.getLast?_eq_some_getLast (stretches_ne_nil history)]
  exact (Option.some.inj last).symm

theorem stop_after (history : List (Event Failure)) :
    (after history).stop false = (firstFailure (sinceStop history), idle) :=
  congrArg (Prod.mk · idle) (failure_after history)

/-- What an outside stop waits for: workers that do no more than leave. -/
def leaving (pool : WorkerPool Failure) : List (Event Failure) :=
  .asked :: List.replicate pool.active .left

theorem allowsAll_left (pool : WorkerPool Failure) (ends : List (Event Failure)) (count : Nat) :
    pool.active = count → (pool.run (List.replicate count .left)).allowsAll ends = true →
      pool.allowsAll (List.replicate count .left ++ ends) = true := by
  induction count generalizing pool with
  | zero => exact fun _ allowed => allowed
  | succ count ih =>
      intro active allowed
      have here : pool.allows .left = true := decide_eq_true (active ▸ Nat.succ_pos count)
      have fewer : pool.leave.active = count := by
        change pool.active - 1 = count
        omega
      rw [List.replicate_succ, List.cons_append, allowsAll, here, Bool.true_and]
      exact ih pool.leave fewer allowed

theorem allowsAll_leaving (pool : WorkerPool Failure) : pool.allowsAll (pool.leaving ++ [.stopped]) = true := by
  have lefts := allowsAll_left pool.askToStop [] pool.active rfl rfl
  rw [List.append_nil] at lefts
  have count := active_run lefts
  have none_left : (pool.askToStop.run (List.replicate pool.active .left)).active = 0 := by
    simp only [List.map_replicate, Event.ended, Event.started, List.sum_replicate_nat, askToStop] at count ⊢
    omega
  have last : (pool.askToStop.run (List.replicate pool.active .left)).allowsAll [.stopped] = true := by
    rw [allowsAll, allowsAll, Bool.and_true]
    exact decide_eq_true none_left
  exact allowsAll_left pool.askToStop [.stopped] pool.active rfl last

theorem failure_leaving (history : List (Event Failure)) :
    (after (history ++ (after history).leaving)).failure = (after history).failure := by
  have silent : firstFailure (after history).leaving = none := by
    refine List.findSome?_eq_none_iff.2 fun event member => ?_
    rcases List.mem_cons.1 member with rfl | member
    · rfl
    · rw [List.eq_of_mem_replicate member]
      rfl
  have unstopped : ((after history).leaving.all fun event => !event.isStop) = true := by
    refine List.all_eq_true.2 fun event member => ?_
    rcases List.mem_cons.1 member with rfl | member
    · rfl
    · rw [List.eq_of_mem_replicate member]
      rfl
  refine (congrArg WorkerPool.failure (run_append idle history (after history).leaving)).trans ?_
  refine (failure_run (after history) unstopped).trans ?_
  exact (congrArg (after history).failure.or silent).trans Option.or_none

/-- What a pool holds and what stops report, told by what happened to the workers. -/
structure ReportsOnce (history : List (Event Failure)) : Prop where
  /-- The first failure of each stretch is reported by the stop that ends it, or still kept. -/
  told : (stretches history).map firstFailure = reports idle history ++ [(after history).failure]
  kept : ∀ later, (later.all fun event => !event.isStop) = true →
    (after (history ++ later)).failure = (firstFailure (sinceStop history)).or (firstFailure later)
  workers : (after history).active + (history.map Event.ended).sum = (history.map Event.started).sum
  running : (after history).running = history.getLast?.any Event.isLaunch
  within : (after history).step .stoppedWithin = (none, { after history with running := false })
  outside : (after history).step .stopped = (firstFailure (sinceStop history), idle)
  again : (after (history ++ [.stopped])).step .stopped = (none, idle)
  /-- An outside stop can always be completed, and reports the same if the workers only leave. -/
  awaited : (after history).allowsAll ((after history).leaving ++ [.stopped]) = true ∧
    (after (history ++ (after history).leaving)).step .stopped = (after history).step .stopped

theorem reportsOnce (allowed : (idle : WorkerPool Failure).allowsAll history = true) : ReportsOnce history := by
  refine ⟨map_firstFailure_after history, fun later unstopped => ?_, ?_, running_after history, rfl, stop_after history,
    ?_, allowsAll_leaving (after history), ?_⟩
  · refine (congrArg WorkerPool.failure (run_append idle history later)).trans ?_
    rw [failure_run _ unstopped]
    exact congrArg (·.or (firstFailure later)) (failure_after history)
  · exact (active_run allowed).trans (Nat.zero_add _)
  · exact congrArg (fun pool => pool.step .stopped) (run_append idle history [.stopped])
  · exact congrArg (Prod.mk · idle) (failure_leaving history)

end WorkerPool

open WorkerPool

variable {session : Session} {name : String} {executor : Executor} {history : List (Event Raised)}

namespace Session

/-- A session in which all this has happened to the workers of an executor. -/
def Has (session : Session) (name : String) (history : List (Event Raised)) : Prop :=
  ∃ executor, session.executors.get? name = some executor ∧ executor.pool = after history

theorem get?_modifyPool (found : session.executors.get? name = some executor)
    (change : WorkerPool Raised → WorkerPool Raised) :
    (session.modifyPool name change).executors.get? name = some { executor with pool := change executor.pool } := by
  refine (session.executors.get?_modify name name _).trans ?_
  rw [if_pos rfl, found]
  rfl

theorem modifyPool_of_found (found : session.executors.get? name = some executor)
    (change : WorkerPool Raised → WorkerPool Raised) :
    session.modifyPool name change = session.modifyPool name (fun _ => change executor.pool) := by
  unfold modifyPool modifyExecutor Table.modify
  rw [found]

theorem Has.happens (has : session.Has name history) (event : Event Raised) :
    (session.modifyPool name (fun pool => (pool.step event).2)).Has name (history ++ [event]) := by
  obtain ⟨executor, found, pool⟩ := has
  refine ⟨_, session.get?_modifyPool found _, ?_⟩
  rw [pool]
  exact (run_append idle history [event]).symm

end Session

theorem Run.run_stop (found : session.executors.get? name = some executor) :
    (Run.stop name).run session =
      (match (executor.pool.stop (session.worker == some name)).1 with
        | some raised => .error (.raised raised)
        | none => .ok (.running false),
        session.modifyPool name (fun _ => (executor.pool.stop (session.worker == some name)).2)) := by
  have down : (executor.pool.stop (session.worker == some name)).2.running = false := by
    unfold WorkerPool.stop
    split <;> rfl
  unfold Run.stop findExecutor
  rw [run_find_bind found, run_bind, run_view]
  dsimp only
  rw [run_bind, run_change]
  dsimp only
  cases (executor.pool.stop (session.worker == some name)).1 with
  | some raised => rfl
  | none =>
      dsimp only
      unfold isRunning findExecutor
      rw [run_find_bind (session.get?_modifyPool found _)]
      exact congrArg (fun running => (Except.ok (Answer.running running), _)) down

/-- How the calls of a client, and the loops of the workers themselves, go on with what has happened to the workers. -/
structure Session.GoesOn (session : Session) (name : String) (history : List (Event Raised)) : Prop where
  /-- Workers are started before anything else is done meanwhile. -/
  launches : ∀ callback limit untilCalls meanwhile destroy, ∃ count launched next,
    (Run.work callback limit name untilCalls meanwhile destroy).run session = (meanwhile >>= next).run launched ∧
      launched.Has name (history ++ [.launched count])
  /-- A worker whose loop is over leaves. -/
  leaves : ∀ callback limit before untilCalls begun,
    (Run.isAwaited name before untilCalls).run begun = (.ok false, begun) →
    (Run.round callback name).run begun = (.ok none, session) →
      ∃ ended, (Run.workerRounds callback name before untilCalls (limit + 1)).run begun = (.ok (), ended) ∧
        ended.Has name (history ++ [.left])
  /-- A worker fails with what its rounds raise. -/
  fails : ∀ callback limit before untilCalls begun raised,
    (Run.workerRounds callback name before untilCalls limit).run { begun with worker := some name } =
        (.error (.raised raised), session) →
      ∃ ended, (Run.workerTurn callback limit name before untilCalls).run begun = (.ok (), ended) ∧
        ended.Has name (history ++ [.failed raised])
  within : session.worker = some name →
    (Run.stop name).run session = (.ok (.running false), session.modifyPool name askToStop) ∧
      (session.modifyPool name askToStop).Has name (history ++ [.stoppedWithin])
  outside : session.worker ≠ some name →
    (Run.stop name).run session =
        (match firstFailure (sinceStop history) with
          | some raised => .error (.raised raised)
          | none => .ok (.running false),
          session.modifyPool name (fun _ => idle)) ∧
      (session.modifyPool name (fun _ => idle)).Has name (history ++ [.stopped])
  again : session.worker ≠ some name →
    ((Run.stop name).run ((Run.stop name).run session).2).1 = .ok (.running false)

theorem Session.Has.goesOn (has : session.Has name history) : session.GoesOn name history := by
  obtain ⟨executor, found, pool⟩ := id has
  have outside : session.worker ≠ some name → (Run.stop name).run session =
      (match firstFailure (sinceStop history) with
        | some raised => .error (.raised raised)
        | none => .ok (.running false),
        session.modifyPool name (fun _ => idle)) := by
    intro elsewhere
    rw [Run.run_stop found, beq_eq_false_iff_ne.2 elsewhere, pool, stop_after]
  refine ⟨fun callback limit untilCalls meanwhile destroy => ?_,
    fun callback limit before untilCalls begun goesOn quits => ?_,
    fun callback limit before untilCalls begun raised ends => ?_, fun here => ⟨?_, has.happens .stoppedWithin⟩,
    fun elsewhere => ⟨outside elsewhere, has.happens .stopped⟩, fun elsewhere => ?_⟩
  · have runs : ∃ next, (Run.work callback limit name untilCalls meanwhile destroy).run session =
        (meanwhile >>= next).run (session.modifyPool name (fun pool => pool.launch executor.threads)) := by
      apply Exists.intro
      unfold Run.work Run.findExecutor
      rw [Run.run_find_bind found, Run.run_bind, Run.run_view]
      dsimp only
      rw [Run.run_bind, Run.run_change]
    obtain ⟨next, runs⟩ := runs
    exact ⟨executor.threads, _, next, runs, has.happens (.launched executor.threads)⟩
  · refine ⟨session.modifyPool name leave, ?_, has.happens .left⟩
    rw [Run.workerRounds, Run.run_bind, goesOn]
    change ((Run.round callback name >>= _).run begun) = _
    rw [Run.run_bind, quits]
    rfl
  · refine ⟨{ session with worker := begun.worker }.modifyPool name (fun pool => pool.fail raised), ?_, ?_⟩
    · unfold Run.workerTurn
      rw [Run.run_bind, Run.run_view]
      dsimp only
      rw [Run.run_bind, Run.run_change]
      dsimp only
      rw [Run.run_bind, Run.run_attempt, ends]
      rfl
    · exact Session.Has.happens ⟨executor, found, pool⟩ (.failed raised)
  · rw [Run.run_stop found, beq_iff_eq.2 here]
    exact congrArg (Prod.mk _) (modifyPool_of_found found askToStop).symm
  · have still : (session.modifyPool name (fun _ => idle)).worker ≠ some name := elsewhere
    rw [outside elsewhere, Run.run_stop (session.get?_modifyPool found _), beq_eq_false_iff_ne.2 still]
    rfl

/--
In whatever order workers are started, leave, fail and stop their executor, among stops from outside: the first failure
since the last outside stop is what the next one reports, and it is reported by that one only.
-/
theorem failures_reported_once (history : List (Event Raised))
    (allowed : (idle : WorkerPool Raised).allowsAll history = true) :
    ReportsOnce history ∧ ∀ session name, Session.Has session name history → Session.GoesOn session name history :=
  ⟨reportsOnce allowed, fun _ _ has => has.goesOn⟩

/--
Two workers fail around a stop of one of them and a second launch; the stop from outside comes when the third has left,
and one that is started after it fails as well.
-/
def troubled : List (Event Raised) :=
  [.launched 2, .failed (.user [1]), .stoppedWithin, .launched 0, .failed (.user [2]), .asked, .left, .stopped,
    .launched 1, .failed (.user [3])]

theorem failures_reported_once_troubled :
    (idle : WorkerPool Raised).allowsAll troubled = true ∧ reports idle troubled = [some (.user [1])] ∧
      (after troubled).step .stopped = (some (.user [3]), idle) := by
  have allowed : (idle : WorkerPool Raised).allowsAll troubled = true := by decide
  have once := (failures_reported_once troubled allowed).1
  exact ⟨allowed, by decide, once.outside.trans (by decide)⟩

end PubSub
