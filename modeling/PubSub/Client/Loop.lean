import PubSub.Client.Pass

/-!
Dispatch loops: passes of an executor, one after the other, while its flag is up and its context runs.

A loop leaves its flag down.  It leaves quietly where a take failed because the executor's context was shut
down, and with what was raised otherwise.  A loop on the caller's own thread that finds nothing to do waits
for good, since nobody else could bring it work; the workers of an executor wait for the main thread.

Workers take turns only with what the main thread has done before, and one of them does the work of all:
this is one of their schedules.
-/

namespace PubSub.Run

def shouldRun (name : String) : Run Bool := do
  let executor ← findExecutor name
  return executor.pool.running && (← view (fun session => session.contextIsValid executor.context))

/-- One round of a loop: the number of callbacks that ran in a pass, or nothing if the loop is over. -/
def round (callback : Callback) (name : String) : Run (Option Nat) := do
  let executor ← findExecutor name
  if ← shouldRun name then
    match ← attempt (pass callback name) with
    | .ok dispatched => return some dispatched
    | .error raised =>
        let valid ← view (fun session => session.contextIsValid executor.context)
        if raised.isTakeFailure && !valid then return none else raise raised
  else return none

def rounds (callback : Callback) (name : String) : Nat → Run Unit
  | 0 => stuck
  | remaining + 1 => do
      match ← round callback name with
      | none => return ()
      | some 0 => stuck
      | some _ => rounds callback name remaining

def isRunning (name : String) : Run Answer := do
  let executor ← findExecutor name
  return .running executor.pool.running

/-- Dispatches on the caller's own thread until the loop is over. -/
def spin (callback : Callback) (limit : Nat) (name : String) : Run Answer := do
  let _ ← findExecutor name
  change (fun session => session.modifyPool name WorkerPool.start)
  ensuring (rounds callback name limit)
    (fun session => session.modifyPool name WorkerPool.askToStop)
  isRunning name

/-- Stops an executor.  From outside, what a worker failed with is raised. -/
def stop (name : String) : Run Answer := do
  let executor ← findExecutor name
  let fromWorker ← view (fun session => session.worker == some name)
  let (failure, pool) := executor.pool.stop fromWorker
  change (fun session => session.modifyPool name (fun _ => pool))
  match failure with
  | some raised => raise raised
  | none => isRunning name

def isAwaited (name : String) (before : Nat) (untilCalls : Option Nat) : Run Bool := do
  match untilCalls with
  | some wanted => view (fun session => before + wanted ≤ session.finishedCalls)
  | none =>
      let executor ← findExecutor name
      return !executor.pool.running

def workerRounds (callback : Callback) (name : String) (before : Nat) (untilCalls : Option Nat) :
    Nat → Run Unit
  | 0 => stuck
  | remaining + 1 => do
      if ← isAwaited name before untilCalls then return ()
      match ← round callback name with
      | none => change (fun session => session.modifyPool name WorkerPool.leave)
      | some 0 => return ()
      | some _ => workerRounds callback name before untilCalls remaining

def workerTurn (callback : Callback) (limit : Nat) (name : String) (before : Nat)
    (untilCalls : Option Nat) : Run Unit := do
  let outside ← view Session.worker
  change (fun session => { session with worker := some name })
  match ← attempt (workerRounds callback name before untilCalls limit) with
  | .ok _ => change (fun session => { session with worker := outside })
  | .error raised =>
      change (fun session =>
        { session with worker := outside }.modifyPool name (fun pool => pool.fail raised))

/--
Starts the workers of an executor, does something meanwhile, waits, and stops the executor or destroys it.
-/
def work (callback : Callback) (limit : Nat) (name : String) (untilCalls : Option Nat)
    (meanwhile : Run (Option (List (Except Raised Answer)))) (destroy : Bool) : Run Answer := do
  let executor ← findExecutor name
  let before ← view Session.finishedCalls
  change (fun session => session.modifyPool name (fun pool => pool.launch executor.threads))
  let during ← meanwhile
  workerTurn callback limit name before untilCalls
  let timedOut := !(← isAwaited name before untilCalls)
  if destroy then
    change (fun session => session.dropExecutor name)
    return .worked during timedOut none none
  else
    let stopped ← attempt (stop name)
    let executor ← findExecutor name
    let failure :=
      match stopped with
      | .ok _ => none
      | .error raised => some raised
    return .worked during timedOut failure (some executor.pool.running)

end PubSub.Run
