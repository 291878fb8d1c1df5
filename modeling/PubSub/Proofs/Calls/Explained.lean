import PubSub.Proofs.Calls.LastReason
import PubSub.Proofs.Payloads.Kinds

/-!
No call fails without a reason.  The wording of a fault is never empty, and a call that fails records the wording of
its own fault, whatever was recorded before and whatever was passed over on the way.  That nothing waits is no fault,
and a take that finds nothing records nothing.
-/

namespace PubSub

theorem Bytes.ofString_ne_nil {literal : String} (filled : literal ≠ "") : ofString literal ≠ [] := by
  intro empty
  have same : ofString literal = ofString "" := empty
  exact filled (ofString_injective same)

theorem Fault.message_ne_nil (fault : Fault) : fault.message ≠ [] := by
  cases fault <;> simp [message, Bytes.ofString_ne_nil]

namespace Middleware

variable {Value : Type} {middleware : Middleware}

def Explained (outcome : Outcome Value) : Prop :=
  ∀ fault, outcome.1 = .error fault → outcome.2.reason ≠ []

theorem Leaves.explained {forgets : Bool} {outcome : Outcome Value}
    (leaves : middleware.Leaves forgets outcome) : Explained outcome := by
  intro fault failed
  rw [leaves.records.reason_eq failed]
  exact fault.message_ne_nil

end Middleware

namespace Workspace

variable {workspace : Workspace}

theorem failure_of_status {answer : Answer} {told : Status} (status : answer.status? = some told)
    (failed : told ≠ .ok) (waiting : told ≠ .takeFailed) : answer.failure? = some told := by
  have fails : decide (told ≠ .ok ∧ told ≠ .takeFailed) = true := decide_eq_true ⟨failed, waiting⟩
  unfold Answer.failure?
  rw [status, Option.filter_some, if_pos fails]

/-- A call that sets or resets the reason has no fault, so a call with a fault gives its wording. -/
theorem left_of_fault {action : Action} {fault : Fault} (failed : workspace.fault? action = some fault) :
    workspace.left? action = some fault.message := by
  have kept : workspace.forgets action = false := by
    unfold forgets
    rw [failed]
    rfl
  unfold left?
  rw [kept, if_neg Bool.false_ne_true]
  cases action with
  | resetReason => cases failed
  | setReason reason => cases failed
  | _ => exact congrArg (Option.map Fault.message) failed

theorem left_of_takeFailed {action : Action}
    (nothing : (workspace.step action).1.status? = some .takeFailed) : workspace.left? action = none := by
  have granted : workspace.fault? action = none := by
    have told := workspace.status_fault? action
    unfold Answer.failure? at told
    rw [nothing, Option.filter_some, if_neg (by decide)] at told
    exact Option.map_eq_none_iff.1 told
  have kept : workspace.forgets action = false := by
    rw [Bool.eq_false_iff]
    intro forgets
    rw [answer_of_forgets forgets] at nothing
    cases nothing
  unfold left?
  rw [kept, if_neg Bool.false_ne_true]
  cases action with
  | resetReason => cases nothing
  | setReason reason => cases nothing
  | _ => exact congrArg (Option.map Fault.message) granted

/-- What the reason is good for after any call, whatever became of the calls before it. -/
structure Explains (workspace : Workspace) : Prop where
  /-- A call whose status is neither that it went well nor that nothing waits leaves a reason. -/
  failing : ∀ action told, (workspace.step action).1.status? = some told →
    told ≠ .ok → told ≠ .takeFailed → (workspace.step action).2.middleware.reason ≠ []
  /-- A call that answers that nothing waits leaves the reason as it was. -/
  waiting : ∀ action, (workspace.step action).1.status? = some .takeFailed →
    (workspace.step action).2.middleware.reason = workspace.middleware.reason
  /-- A message of any content may be sent from any slot: what fails leaves a reason. -/
  publish : ∀ slot message, Middleware.Explained (workspace.middleware.publish slot message)
  /-- A message may be taken over any content: what fails leaves a reason. -/
  take : ∀ slot message, Middleware.Explained (workspace.middleware.take slot message)
  /-- A take that finds nothing leaves the reason as it was, whatever it would have been taken over. -/
  missed : ∀ slot message, (workspace.middleware.take slot message).1 = .ok none →
    (workspace.middleware.take slot message).2.reason = workspace.middleware.reason

/-- Every failure has a reason, and a take that finds nothing touches none. -/
theorem explains (workspace : Workspace) : workspace.Explains where
  failing := by
    intro action told status failed waiting
    have fails : (workspace.fault? action).map Fault.status = some told := by
      rw [status_fault?, failure_of_status status failed waiting]
    obtain ⟨fault, fault?, -⟩ := Option.map_eq_some_iff.1 fails
    rw [reason_step, left_of_fault fault?, Option.getD_some]
    exact fault.message_ne_nil
  waiting := by
    intro action nothing
    rw [reason_step, left_of_takeFailed nothing, Option.getD_none]
  publish := fun slot message => (workspace.middleware.leaves_publish slot message).explained
  take := fun slot message => (workspace.middleware.leaves_take slot message).explained
  missed := by
    intro slot message nothing
    have leaves := workspace.middleware.leaves_take slot message
    unfold Middleware.Leaves at leaves
    rw [nothing] at leaves
    exact leaves

def silent : List Action :=
  [.initContext (some "context") none 0,
    .initNode (some "node") (some (Bytes.ofString "listener")) (some (Bytes.ofString "/"))
      (some "context") (some true),
    .initSubscription (some "subscription") (some "node") (some (.complete .int64))
      (some (Bytes.ofString "chatter")) (some Qos.standard),
    .shutdown (some "other")]

/-- The take finds nothing and keeps the reason of the failure before it; a take without a subscription has its own. -/
theorem explains_silent :
    ((empty.run silent).step (.take (some "subscription") true)).1 = .message .takeFailed none ∧
      ((empty.run silent).step (.take (some "subscription") true)).2.middleware.reason =
        (empty.run silent).middleware.reason ∧
      ((empty.run silent).step (.take (some "nobody") true)).1 = .message .subscriptionInvalid none ∧
      ((empty.run silent).step (.take (some "nobody") true)).2.middleware.reason ≠ [] := by
  have nothing : ((empty.run silent).step (.take (some "subscription") true)).1 =
      .message .takeFailed none := by decide +kernel
  have failed : ((empty.run silent).step (.take (some "nobody") true)).1 =
      .message .subscriptionInvalid none := by decide +kernel
  have explains := (empty.run silent).explains
  exact ⟨nothing, explains.waiting _ (congrArg Answer.status? nothing), failed,
    explains.failing _ _ (congrArg Answer.status? failed) (by decide) (by decide)⟩

end Workspace

end PubSub
