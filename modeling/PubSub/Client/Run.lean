import PubSub.Client.Session

/-!
Runs: computations on a session that end with a value, are ended by something raised, or get stuck.  A run
is stuck where it waits for itself, or goes on beyond any bound that was set.
-/

namespace PubSub

inductive Stop where
  | raised (raised : Raised)
  | stuck
  deriving DecidableEq, Repr

abbrev Run (Value : Type) := ExceptT Stop (StateM Session) Value

namespace Run

variable {Value : Type}

def raise (raised : Raised) : Run Value :=
  throw (.raised raised)

def stuck : Run Value :=
  throw .stuck

def ofExcept (error : Raised) : Option Value → Run Value
  | some value => pure value
  | none => raise error

def view (read : Session → Value) : Run Value :=
  read <$> get

def change (update : Session → Session) : Run Unit :=
  modify update

def changeGet (update : Session → Value × Session) : Run Value :=
  modifyGet update

/-- What a run ends with; being stuck cannot be observed. -/
def attempt (run : Run Value) : Run (Except Raised Value) :=
  ExceptT.mk (fun session =>
    match ExceptT.run run session with
    | (.ok value, after) => (.ok (.ok value), after)
    | (.error (.raised raised), after) => (.ok (.error raised), after)
    | (.error .stuck, after) => (.error .stuck, after))

/-- Performs a run and then a change that takes place however the run ends. -/
def ensuring (run : Run Value) (cleanup : Session → Session) : Run Value :=
  ExceptT.mk (fun session =>
    match ExceptT.run run session with
    | (result, after) => (result, cleanup after))

def call (operation : Middleware → Outcome Value) : Run (Except Fault Value) :=
  changeGet (fun session =>
    match operation session.middleware with
    | (result, middleware) => (result, { session with middleware }))

def noteLedger (update : Ledger → Ledger) : Run Unit :=
  change (fun session => session.noteLedger update)

/--
The value of a call, or else the failure: it tells what was attempted and the reason that the middleware
recorded, which is thereby used up.
-/
def orFail (kind : FailureKind) (attempted : Bytes) : Except Fault Value → Run Value
  | .ok value => pure value
  | .error fault => do
      let reason ← view (fun session => session.middleware.reason)
      change (fun session => { session with middleware := session.middleware.resetReason })
      raise (.failure kind fault.status (Raised.failureText attempted fault.status reason))

def requireText (kind : FailureKind) (attempted : Bytes) (status : Status) (value : Bytes) :
    Run Unit :=
  match Raised.ofZeroByte? kind attempted status value with
  | some raised => raise raised
  | none => pure ()

/-- The object of a name, which must be in use. -/
def find (lookup : Session → Option Value) : Run Value := do
  ofExcept .unknownName (← view lookup)

variable {Other : Type}

@[simp]
theorem run_pure (value : Value) (session : Session) :
    (pure value : Run Value).run session = (.ok value, session) := rfl

@[simp]
theorem run_view (read : Session → Value) (session : Session) :
    (view read).run session = (.ok (read session), session) := rfl

@[simp]
theorem run_change (update : Session → Session) (session : Session) :
    (change update).run session = (.ok (), update session) := rfl

@[simp]
theorem run_changeGet (update : Session → Value × Session) (session : Session) :
    (changeGet update).run session = (.ok (update session).1, (update session).2) := rfl

/-- What follows a run takes place only if the run has a value. -/
theorem run_bind (first : Run Value) (next : Value → Run Other) (session : Session) :
    (first >>= next).run session =
      match first.run session with
      | (.ok value, after) => (next value).run after
      | (.error stop, after) => (.error stop, after) := by
  change (do ExceptT.bindCont next (← first.run) : StateM Session (Except Stop Other)) session = _
  simp only [bind, StateT.bind]
  rcases first.run session with ⟨result, after⟩
  cases result with
  | ok value => rfl
  | error stop => rfl

/-- A run that raises goes on with what it raised, in the session where it raised it. -/
theorem run_attempt (run : Run Value) (session : Session) :
    (attempt run).run session =
      match run.run session with
      | (.ok value, after) => (.ok (.ok value), after)
      | (.error (.raised raised), after) => (.ok (.error raised), after)
      | (.error .stuck, after) => (.error .stuck, after) := rfl

/-- The change at the end takes place however the run ended. -/
theorem run_ensuring (run : Run Value) (cleanup : Session → Session) (session : Session) :
    (ensuring run cleanup).run session =
      ((run.run session).1, cleanup (run.run session).2) := rfl

end Run

end PubSub
