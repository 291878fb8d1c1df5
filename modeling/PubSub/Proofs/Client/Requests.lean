import PubSub.Client.Creation
import PubSub.Proofs.Calls.Recorded

/-!
Requests: what a client asks of the middleware.  A request that succeeds leaves what the middleware left; one that
fails raises its cause, with the reason that the middleware recorded, and leaves no reason behind.  What is raised is
truthful if it tells what was attempted by a request, and for a reason the wording of the fault that this request had.
-/

namespace PubSub

/-- What a client asks of the middleware, by what it may be answered. -/
inductive Request : Type → Type where
  | initContext (arguments : List Bytes) : Request Nat
  | shutdown (context : Slot Nat) : Request Unit
  | initNode (name space : Bytes) (context : Slot Nat) : Request NodeState
  | initPublisher (node : Option (Slot NodeState)) (kind : MessageKind) (topic : Bytes) (qos : Qos) :
      Request PublisherState
  | initSubscription (node : Option (Slot NodeState)) (kind : MessageKind) (topic : Bytes) (qos : Qos) :
      Request SubscriptionState
  | publish (publisher : Slot PublisherState) (message : Layout) : Request Unit
  | take (subscription : Slot SubscriptionState) (buffer : Layout) : Request (Option Layout)
  | subscriptionCount (publisher : Slot PublisherState) : Request Nat
  | publisherCount (subscription : Slot SubscriptionState) : Request Nat

namespace Request

variable {Value : Type} {middleware : Middleware}

def kind : Request Value → FailureKind
  | initContext _ => .initialization
  | shutdown _ => .general
  | initNode _ _ _ => .nodeCreation
  | initPublisher _ _ _ _ => .publisherCreation
  | initSubscription _ _ _ _ => .subscriptionCreation
  | publish _ _ => .publish
  | take _ _ => .take
  | subscriptionCount _ => .general
  | publisherCount _ => .general

def outcome : Request Value → Middleware → Outcome Value
  | initContext arguments, middleware =>
      middleware.initContext (some none) (some (arguments.map some)) arguments.length
  | shutdown context, middleware => middleware.shutdownContext (some context)
  | initNode name space context, middleware =>
      middleware.initNode (some none) (some name) (some space) (some context) (some true)
  | initPublisher node kind topic qos, middleware =>
      middleware.initPublisher (some none) node (some (.complete kind)) (some topic) (some qos)
  | initSubscription node kind topic qos, middleware =>
      middleware.initSubscription (some none) node (some (.complete kind)) (some topic) (some qos)
  | publish publisher message, middleware => middleware.publish (some publisher) (some message)
  | take subscription buffer, middleware => middleware.take (some subscription) (some buffer)
  | subscriptionCount publisher, middleware => middleware.subscriptionCount (some publisher) true
  | publisherCount subscription, middleware => middleware.publisherCount (some subscription) true

theorem outcome_take (subscription : Slot SubscriptionState) (buffer : Layout)
    (middleware : Middleware) : (take subscription buffer).outcome middleware =
      middleware.take (some subscription) (some buffer) := rfl

/-- Whether a request makes a resource, which a handle is then made for. -/
def makes : Request Value → Bool
  | initContext _ => true
  | initNode _ _ _ => true
  | initPublisher _ _ _ _ => true
  | initSubscription _ _ _ _ => true
  | _ => false

/-- How a request words what it attempted: makers quote a name, and takes the kind of their handle. -/
def WordedAs : Request Value → Bytes → Prop
  | initContext _, attempted => attempted = Bytes.ofString "failed to initialize context"
  | shutdown _, attempted => attempted = Bytes.ofString "failed to shut down context"
  | initNode name _ _, attempted =>
      attempted = Bytes.ofString "failed to create " ++ Run.quotedKind "node" name
  | initPublisher _ _ topic _, attempted =>
      attempted = Bytes.ofString "failed to create publisher on '" ++ topic ++ Bytes.ofString "'"
  | initSubscription _ _ topic _, attempted =>
      attempted = Bytes.ofString "failed to create subscription on '" ++ topic ++ Bytes.ofString "'"
  | publish _ _, attempted => attempted = Bytes.ofString "failed to publish"
  | take _ _, attempted => ∃ kind, attempted = Bytes.ofString "failed to take from " ++ kind
  | subscriptionCount _, attempted => attempted = Bytes.ofString "failed to count subscriptions"
  | publisherCount _, attempted => attempted = Bytes.ofString "failed to count publishers"

theorem records (request : Request Value) (middleware : Middleware) :
    middleware.Records (request.outcome middleware) := by
  cases request with
  | initContext arguments => exact (middleware.leaves_initContext _ _ _).records
  | shutdown context => exact (middleware.leaves_shutdownContext _).records
  | initNode name space context => exact (middleware.leaves_initNode _ _ _ _ _).records
  | initPublisher node kind topic qos => exact (middleware.leaves_initPublisher _ _ _ _ _).records
  | initSubscription node kind topic qos => exact (middleware.leaves_initSubscription _ _ _ _ _).records
  | publish publisher message => exact (middleware.leaves_publish _ _).records
  | take subscription buffer => exact (middleware.leaves_take _ _).records
  | subscriptionCount publisher => exact (middleware.leaves_subscriptionCount _ _).records
  | publisherCount subscription => exact (middleware.leaves_publisherCount _ _).records

theorem blank (request : Request Value) {after : Middleware} {value : Value}
    (told : request.outcome middleware = (.ok value, after)) (blank : middleware.reason = []) :
    after.reason = [] := by
  have records := request.records middleware
  rw [told] at records
  exact records.reason_eq_nil blank rfl

end Request

def Raised.isFailure : Raised → Bool
  | failure _ _ _ => true
  | _ => false

/-- What a fault is raised as, with its own wording for a reason. -/
def Raised.ofFault (kind : FailureKind) (attempted : Bytes) (fault : Fault) : Raised :=
  .failure kind fault.status (failureText attempted fault.status fault.message)

/-- What is raised where a name holds a zero byte. -/
def Raised.zeroByte (kind : FailureKind) (attempted : Bytes) (status : Status) : Raised :=
  .failure kind status (failureText attempted status (Bytes.ofString "embedded null character"))

/--
A failure tells what a request attempted and the fault that it had, with the wording of that very fault in parentheses;
or it tells that a name holds a zero byte, and then nothing was requested.
-/
inductive Raised.Truthful : Raised → Prop
  | refused {Value : Type} (request : Request Value) {attempted : Bytes} {middleware : Middleware}
      {fault : Fault} (worded : request.WordedAs attempted)
      (failed : (request.outcome middleware).1 = .error fault) :
      Truthful (.ofFault request.kind attempted fault)
  | zeroByte (kind : FailureKind) (attempted : Bytes) (status : Status) :
      Truthful (.zeroByte kind attempted status)
  | other {raised : Raised} (plain : raised.isFailure = false) : Truthful raised

inductive Answer.Truthful : Answer → Prop
  | worked {during : Option (List (Except Raised Answer))} {timedOut : Bool} {stopped : Option Raised}
      {running : Option Bool}
      (raises : ∀ answers raised, during = some answers → .error raised ∈ answers → raised.Truthful)
      (answers : ∀ answers answer, during = some answers → .ok answer ∈ answers → Truthful answer)
      (stops : ∀ raised, stopped = some raised → raised.Truthful) :
      Truthful (.worked during timedOut stopped running)
  | other {answer : Answer} (plain : ∀ during timedOut stopped running,
      answer ≠ .worked during timedOut stopped running) : Truthful answer

def Tells {Value : Type} (accepts : Value → Prop) : Except Raised Value → Prop
  | .ok value => accepts value
  | .error raised => raised.Truthful

/-- What came of an action is truthful. -/
def Truthful : Except Raised Answer → Prop :=
  Tells Answer.Truthful

namespace Run

variable {Value Other : Type}

theorem run_view_bind (read : Session → Value) (next : Value → Run Other) (session : Session) :
    (view read >>= next).run session = (next (read session)).run session := rfl

theorem run_bind_of_error {first : Run Value} {session : Session} {stop : Stop}
    (failed : (first.run session).1 = .error stop) (next : Value → Run Other) :
    ((first >>= next).run session).1 = .error stop := by
  rw [run_bind]
  generalize first.run session = ended at failed
  obtain ⟨result, after⟩ := ended
  cases failed
  rfl

theorem run_change_bind (update : Session → Session) (next : Unit → Run Other) (session : Session) :
    (change update >>= next).run session = (next ()).run (update session) := rfl

theorem run_call_bind (operation : Middleware → Outcome Value) (next : Except Fault Value → Run Other)
    (session : Session) :
    (call operation >>= next).run session =
      (next (operation session.middleware).1).run
        { session with middleware := (operation session.middleware).2 } := rfl

def goOn (session : Session) (kind : FailureKind) (attempted : Bytes)
    (next : Value → Middleware → Except Stop Other × Session) :
    Outcome Value → Except Stop Other × Session
  | (.ok value, middleware) => next value middleware
  | (.error fault, middleware) =>
      (.error (.raised (.failure kind fault.status
        (Raised.failureText attempted fault.status middleware.reason))),
        { session with middleware := middleware.resetReason })

/-- A request that fails raises its own fault, whatever the reason was before. -/
theorem goOn_eq_ofFault (request : Request Value) (attempted : Bytes) {middleware : Middleware}
    {fault : Fault} (failed : (request.outcome middleware).1 = .error fault) (session : Session)
    (next : Value → Middleware → Except Stop Other × Session) :
    goOn session request.kind attempted next (request.outcome middleware) =
      (.error (.raised (.ofFault request.kind attempted fault)),
        { session with middleware := (request.outcome middleware).2.resetReason }) := by
  have recorded := (request.records middleware).reason_eq failed
  generalize request.outcome middleware = outcome at failed recorded
  obtain ⟨result, after⟩ := outcome
  cases failed
  unfold Raised.ofFault
  rw [← recorded]
  rfl

theorem run_request (operation : Middleware → Outcome Value) (kind : FailureKind) (attempted : Bytes)
    (session : Session) :
    (call operation >>= orFail kind attempted).run session =
      goOn session kind attempted (fun value middleware => (.ok value, { session with middleware }))
        (operation session.middleware) := by
  rw [run_call_bind]
  rcases operation session.middleware with ⟨_ | _, _⟩ <;> rfl

theorem run_request_bind (operation : Middleware → Outcome Value) (kind : FailureKind)
    (attempted : Bytes) (next : Value → Run Other) (session : Session) :
    (call operation >>= fun result => orFail kind attempted result >>= next).run session =
      goOn session kind attempted
        (fun value middleware => (next value).run { session with middleware })
        (operation session.middleware) := by
  rw [run_call_bind]
  rcases operation session.middleware with ⟨_ | _, _⟩ <;> rfl

theorem run_request_noteLedger (operation : Middleware → Outcome Value) (kind : FailureKind)
    (attempted : Bytes) (update : Ledger → Ledger) (session : Session) :
    (call operation >>= fun result =>
        noteLedger update >>= fun _ => orFail kind attempted result).run session =
      let ended := goOn session kind attempted
        (fun value middleware => (.ok value, { session with middleware }))
        (operation session.middleware)
      (ended.1, ended.2.noteLedger update) := by
  rw [run_call_bind]
  rcases operation session.middleware with ⟨_ | _, _⟩ <;> rfl

theorem run_find_bind {lookup : Session → Option Value} {session : Session} {value : Value}
    (found : lookup session = some value) (next : Value → Run Other) :
    (find lookup >>= next).run session = (next value).run session := by
  unfold find
  rw [bind_assoc, run_view_bind, found]
  rfl

theorem run_find_bind_none {lookup : Session → Option Value} {session : Session}
    (absent : lookup session = none) (next : Value → Run Other) :
    (find lookup >>= next).run session = (.error (.raised .unknownName), session) := by
  unfold find
  rw [bind_assoc, run_view_bind, absent]
  rfl

theorem run_requireText_bind (kind : FailureKind) (attempted : Bytes) (status : Status) (value : Bytes)
    (next : Unit → Run Other) (session : Session) :
    (requireText kind attempted status value >>= next).run session =
      if value.hasNul then (.error (.raised (.zeroByte kind attempted status)), session)
      else (next ()).run session := by
  unfold requireText Raised.ofZeroByte?
  cases value.hasNul <;> rfl

theorem run_requireTexts_bind (kind : FailureKind) (attempted : Bytes) (status : Status)
    (values : List Bytes) (next : PUnit → Run Other) (session : Session) :
    (values.forM (requireText kind attempted status) >>= next).run session =
      if values.any Bytes.hasNul then (.error (.raised (.zeroByte kind attempted status)), session)
      else (next ⟨⟩).run session := by
  induction values with
  | nil => rfl
  | cons value rest ih =>
      change ((requireText kind attempted status value >>= fun _ =>
        rest.forM (requireText kind attempted status)) >>= next).run session = _
      rw [bind_assoc, run_requireText_bind, ih, List.any_cons]
      cases value.hasNul <;> rfl

end Run

end PubSub
