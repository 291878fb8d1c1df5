import PubSub.Client.Script
import PubSub.Proofs.Calls.Failure
import PubSub.Proofs.Calls.Takes
import PubSub.Proofs.Client.Operations

/-!
Takes of clients.  Every take of a client, in a pass or outside, goes through one request; where that fails for a copy
that was refused the message in front is lost, and where it fails for anything else the queue is as it was.
-/

namespace PubSub

namespace Session

variable {session after : Session} {subscription : SubscriptionObject}

theorem waiting_of_endpoint {state : SubscriptionState} {held : SubscriberEnd}
    (slot : session.subscriptionSlot subscription.handle = some state)
    (endpoint : session.middleware.transport.subscribers.get? state.endpoint = some held) :
    session.waiting subscription = held.queue.waiting := by
  unfold waiting
  rw [slot]
  dsimp only
  rw [endpoint]

theorem waiting_of_takeSample {state : SubscriptionState} {sample : Nat} {taken : Transport}
    (slot : session.subscriptionSlot subscription.handle = some state)
    (front : session.middleware.transport.takeSample state.endpoint = some (sample, taken))
    (forest : after.forest = session.forest)
    (ends : after.middleware.transport.subscribers = taken.subscribers) :
    session.waiting subscription = sample :: after.waiting subscription := by
  obtain ⟨held, queue, endpoint, popped, rfl⟩ := Transport.takeSample_eq_some front
  have moved := session.middleware.transport.subscribers.get?_modify state.endpoint state.endpoint
    (fun old => { old with queue })
  rw [if_pos rfl, endpoint] at moved
  have same : after.subscriptionSlot subscription.handle = some state := by
    unfold subscriptionSlot
    rw [forest]
    exact slot
  have left : after.middleware.transport.subscribers.get? state.endpoint = some { held with queue } := by
    rw [ends]
    exact moved
  rw [waiting_of_endpoint slot endpoint, waiting_of_endpoint same left]
  exact SampleQueue.waiting_of_pop popped

/-- A take that raises has lost what waited longest where it could not be copied, and nothing otherwise. -/
theorem takeInto_failed (buffer : Layout) {kind : FailureKind} {status : Status} {message : Bytes}
    (failed : (Run.takeInto subscription buffer).run session =
      (.error (.raised (.failure kind status message)), after)) :
    (status = .error → ∃ front, session.waiting subscription = front :: after.waiting subscription) ∧
      (status ≠ .error → after.waiting subscription = session.waiting subscription) := by
  rw [Run.run_takeInto, Request.outcome_take] at failed
  rcases session.middleware.take_cases (some (session.subscriptionSlot subscription.handle))
      (some buffer) with
    ⟨fault, other, refused⟩ | ⟨_, idle⟩ |
      ⟨state, sample, taken, reason, ledger, _, there, front, left, told⟩
  · rw [refused] at failed
    cases failed
    exact ⟨fun error => absurd error other, fun _ => rfl⟩
  · rw [idle] at failed
    cases failed
  · generalize session.middleware.take _ _ = outcome at failed left told
    obtain ⟨result, changed⟩ := outcome
    dsimp only at left told
    subst left
    rcases told with rfl | ⟨filled, rfl, _⟩
    · obtain ⟨raised, ended⟩ := Prod.mk.inj failed
      cases raised
      refine ⟨fun _ => ⟨sample, ?_⟩, fun other => absurd rfl other⟩
      rw [← ended]
      exact waiting_of_takeSample (Option.some.inj there) front rfl rfl
    · cases failed

/-- A take that fills the buffer has taken what waited longest, and the buffer says what that says. -/
theorem takeInto_taken {buffer filled : Layout}
    (taken : (Run.takeInto subscription buffer).run session = (.ok (some filled), after)) :
    ∃ state held sample, session.subscriptionSlot subscription.handle = some state ∧
      session.middleware.transport.subscribers.get? state.endpoint = some held ∧
      sample ∈ held.queue.waiting ∧
      session.waiting subscription = sample :: after.waiting subscription ∧
      ((Request.take (some state) buffer).outcome session.middleware).1 = .ok (some filled) ∧
      ∀ stored, session.middleware.transport.store.samples.get? sample = some stored →
        stored.content.Whole → filled.payload = stored.content.payload := by
  rw [Run.run_takeInto, Request.outcome_take] at taken
  rcases session.middleware.take_cases (some (session.subscriptionSlot subscription.handle))
      (some buffer) with
    ⟨fault, _, refused⟩ | ⟨_, idle⟩ |
      ⟨state, sample, changed, reason, ledger, _, there, front, left, told⟩
  · rw [refused] at taken
    cases taken
  · rw [idle] at taken
    cases taken
  · have slot := Option.some.inj there
    have store := Transport.store_of_takeSample front
    obtain ⟨held, queue, endpoint, popped, _⟩ := Transport.takeSample_eq_some front
    rw [slot] at taken left told
    generalize asked : session.middleware.take _ _ = outcome at taken left told
    obtain ⟨result, remains⟩ := outcome
    dsimp only at left told
    subst left
    rcases told with rfl | ⟨copied, rfl, reads⟩
    · cases taken
    · cases taken
      refine ⟨state, held, sample, slot, endpoint, ?_, ?_, congrArg Prod.fst asked, ?_⟩
      · rw [SampleQueue.waiting_of_pop popped]
        exact List.mem_cons_self
      · exact waiting_of_takeSample slot front rfl rfl
      · rw [store] at reads
        exact reads

end Session

namespace Workspace

theorem Answer.eq_of_removed {answer : Answer} {told : Option Payload}
    (removed : answer.removed? = some told) (failed : answer.failed = true) :
    answer = .message .error none := by
  unfold removed? at removed
  split at removed
  · cases failed
  · rfl
  · cases removed

theorem Wired.kept_iff_copied {workspace : Workspace} (wired : Wired workspace)
    (legible : Legible workspace) {name : String} {queue : List (Option Payload)}
    (there : workspace.waiting name = some queue) (withBuffer : Bool)
    (failed : (workspace.step (.take (some name) withBuffer)).1.failed = true) :
    (workspace.step (.take (some name) withBuffer)).2.waiting name = some queue ↔
      (workspace.step (.take (some name) withBuffer)).1 ≠ .message .error none := by
  obtain ⟨state, found, _⟩ := Option.bind_eq_some_iff.1 there
  obtain ⟨_, ⟨none, kept⟩ | ⟨told, payload, rest, removed, before, left, _⟩⟩ :=
    (legible.takes found withBuffer).waiting legible wired (wired.step _) found
  · refine ⟨fun _ refused => ?_, fun _ => kept.trans there⟩
    rw [refused] at none
    cases none
  · have shorter : some rest ≠ some queue := by
      rw [← there, before]
      exact fun same => List.cons_ne_self _ _ (Option.some.inj same).symm
    rw [left]
    exact ⟨fun same => absurd same shorter,
      fun other => absurd (Answer.eq_of_removed removed failed) other⟩

/--
A refused copy loses a message.  A take that fails keeps its queue unless its copy was refused.  Takes go through a queue
in order: each that comes to a message tells it, or has it lost where its copy was refused, and nothing else is lost.  A
take of a client does the same to its queue, and what it raises says which it was.
-/
theorem takes_lose_refused (actions : List Action) (name : String) (queue : List (Option Payload))
    (there : (empty.run actions).waiting name = some queue) :
    (∀ withBuffer, ((empty.run actions).step (.take (some name) withBuffer)).1.failed = true →
      (((empty.run actions).step (.take (some name) withBuffer)).2.waiting name = some queue ↔
        ((empty.run actions).step (.take (some name) withBuffer)).1 ≠ .message .error none)) ∧
      (∀ takes : List Action, (∀ action ∈ takes, action.takesFrom name = true) →
        (empty.run actions).Drained ((empty.run actions).run takes) name
          (((empty.run actions).answers takes).filterMap Answer.removed?)) ∧
      ∀ (session after : Session) (subscription : SubscriptionObject) (buffer : Layout)
        (kind : FailureKind) (status : Status) (message : Bytes),
        (Run.takeInto subscription buffer).run session =
            (.error (.raised (.failure kind status message)), after) →
          (status = .error →
            ∃ front, session.waiting subscription = front :: after.waiting subscription) ∧
          (status ≠ .error → after.waiting subscription = session.waiting subscription) := by
  refine ⟨?_, ?_, ?_⟩
  · exact fun withBuffer failed =>
      (wired_empty.run actions).kept_iff_copied (legible_empty.run actions) there withBuffer failed
  · exact fun takes only =>
      (wired_empty.run actions).drained_run (legible_empty.run actions) there takes only
  · exact fun session after subscription buffer kind status message failed =>
      Session.takeInto_failed buffer failed

/-- Two messages that wait, and a copy that is going to be refused. -/
def reluctant : List Action :=
  [.initContext (some "context") (some []) 0,
    .initNode (some "node") (some (Bytes.ofString "a")) (some (Bytes.ofString "/"))
      (some "context") (some true),
    .initPublisher (some "publisher") (some "node") (some (.complete .counted))
      (some (Bytes.ofString "chatter")) (some Qos.standard),
    .initSubscription (some "subscription") (some "node") (some (.complete .counted))
      (some (Bytes.ofString "chatter")) (some Qos.standard),
    .publish (some "publisher") (some (.number 1)),
    .publish (some "publisher") (some (.number 2)),
    .refuseCopies 1]

/-- The same in a session, with one message. -/
def hesitant : List PubSub.Action :=
  [.makeContext "context" [],
    .makeNode "node" "context" (Bytes.ofString "a") (Bytes.ofString "/"),
    .makePublisher "publisher" "node" .counted (Bytes.ofString "chatter") Qos.standard,
    .makeSubscription "subscription" "node" .counted (Bytes.ofString "chatter") Qos.standard false [],
    .publish "publisher" (.given (.number 1)),
    .refuseCopies 1]

def taker : SubscriptionObject :=
  { name := "subscription"
    handle := 3
    kind := .counted
    script := []
    busy := false
    owners := 1 }

/-- Of the two messages the first is lost and the second told; the one message of the session is lost. -/
theorem takes_lose_refused_reluctant :
    (empty.run reluctant).Drained
        ((empty.run reluctant).run
          [.take (some "subscription") true, .take (some "subscription") true])
        "subscription" [none, some (.number 2)] ∧
      ∃ front, (Session.empty.run hesitant).waiting taker =
        front :: ((Run.takeInto taker (.number 0)).run (Session.empty.run hesitant)).2.waiting taker := by
  have waits : (empty.run reluctant).waiting "subscription" =
      some [some (.number 1), some (.number 2)] := by
    decide +kernel
  obtain ⟨_, drains, loses⟩ := takes_lose_refused reluctant "subscription"
    [some (.number 1), some (.number 2)] waits
  constructor
  · have drained := drains [.take (some "subscription") true, .take (some "subscription") true]
      (by decide +kernel)
    have told : ((empty.run reluctant).answers
        [.take (some "subscription") true, .take (some "subscription") true]).filterMap
          Answer.removed? = [none, some (.number 2)] := by
      decide +kernel
    rw [told] at drained
    exact drained
  · have raised : ((Run.takeInto taker (.number 0)).run (Session.empty.run hesitant)).1 =
        .error (.raised (.failure .take .error
          (Raised.failureText (Bytes.ofString "failed to take from subscription 'chatter'") .error
            (Bytes.ofString "failed to copy message of type 'test/Counted'")))) := by
      decide +kernel
    exact (loses _ _ taker (.number 0) _ _ _ (Prod.ext raised rfl)).1 rfl

/-- A take that fails has the oldest message lost, and the next one that succeeds tells the message after it. -/
theorem failed_take_loses_front :
    (empty.run reluctant).waiting "subscription" = some [some (.number 1), some (.number 2)] ∧
      ((empty.run reluctant).step (.take (some "subscription") true)).1 = .message .error none ∧
      ((empty.run reluctant).step (.take (some "subscription") true)).2.waiting "subscription" =
        some [some (.number 2)] ∧
      (((empty.run reluctant).step (.take (some "subscription") true)).2.step
        (.take (some "subscription") true)).1 = .message .ok (some (.number 2)) := by
  decide +kernel

end Workspace

end PubSub
