/-!
Worker pools: the workers of one executor, the flag that keeps them running, and the first failure that
none has reported yet.  A worker that leaves takes the flag down with it; only an outside stop waits for
all workers and hands the failure over.
-/

namespace PubSub

structure WorkerPool (Failure : Type) where
  running : Bool
  active : Nat
  failure : Option Failure
  deriving DecidableEq, Repr

namespace WorkerPool

variable {Failure : Type}

def idle : WorkerPool Failure :=
  { running := false
    active := 0
    failure := none }

instance : Inhabited (WorkerPool Failure) := ⟨idle⟩

def start (pool : WorkerPool Failure) : WorkerPool Failure :=
  { pool with running := true }

def askToStop (pool : WorkerPool Failure) : WorkerPool Failure :=
  { pool with running := false }

def launch (pool : WorkerPool Failure) (count : Nat) : WorkerPool Failure :=
  { pool with
    running := true
    active := pool.active + max count 1 }

def leave (pool : WorkerPool Failure) : WorkerPool Failure :=
  { pool with
    running := false
    active := pool.active - 1 }

def fail (pool : WorkerPool Failure) (failure : Failure) : WorkerPool Failure :=
  { pool.leave with failure := pool.failure.or (some failure) }

/-- An outside stop, once all workers have left: gives the failure that was kept, which is then gone. -/
def join (pool : WorkerPool Failure) : Option Failure × WorkerPool Failure :=
  (pool.failure, idle)

def stop (pool : WorkerPool Failure) (fromWorker : Bool) : Option Failure × WorkerPool Failure :=
  if fromWorker then (none, pool.askToStop) else pool.join

end WorkerPool

end PubSub
