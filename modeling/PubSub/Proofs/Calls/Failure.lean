import PubSub.Proofs.Calls.Answers
import PubSub.Proofs.Calls.Effect
import PubSub.Proofs.Delivery.Run

/-!
Calls that fail.  Whatever a call did before it found out that it fails, nothing is left of it but the reason and
what was counted: every resource, queue and history is as it was, and whoever goes on is answered as before.
-/

namespace PubSub

namespace Workspace

variable {workspace after : Workspace}

def Answer.status? : Answer → Option Status
  | .status told => some told
  | .finding told _ => some told
  | .expansion told _ => some told
  | .arguments told _ => some told
  | .count told _ => some told
  | .message told _ => some told
  | _ => none

def Answer.failed (answer : Answer) : Bool :=
  answer.status?.any (fun told => told ≠ .ok)

def Answer.bare : Answer → Bool
  | .status _ => true
  | .finding _ written => written.isNone
  | .expansion _ written => written.isNone
  | .arguments _ written => written.isNone
  | .count _ written => written.isNone
  | .message _ written => written.isNone
  | _ => false

/--
Whether a call does all or nothing.  A take may lose what it cannot copy, and arguments that are malformed are
read as far as they go.
-/
def Action.isAtomic : Action → Bool
  | .take _ _ => false
  | .parseArguments _ _ _ => false
  | _ => true

theorem failed_statusOf {Value : Type} {result : Except Fault Value}
    (failed : (some (statusOf result)).any (fun status => status ≠ .ok) = true) :
    valueOf result = none := by
  cases result with
  | ok value => cases failed
  | error fault => rfl

theorem bare_of_failed (workspace : Workspace) {action : Action} (atomic : action.isAtomic = true)
    (failed : (workspace.step action).1.failed = true) : (workspace.step action).1.bare = true := by
  cases action with
  | validate kind name wantsVerdict => exact Option.isNone_iff_eq_none.2 (failed_statusOf failed)
  | expand topic name space wantsOutput =>
      rw [answer_expand] at failed ⊢
      generalize workspace.middleware.expand topic name space wantsOutput = expanded at failed ⊢
      cases expanded with
      | none => cases failed
      | some outcome => exact Option.isNone_iff_eq_none.2 (failed_statusOf failed)
  | subscriptionCount publisher wantsCount =>
      exact Option.isNone_iff_eq_none.2 (failed_statusOf failed)
  | publisherCount subscription wantsCount =>
      exact Option.isNone_iff_eq_none.2 (failed_statusOf failed)
  | initContext context vector count => rw [answer_initContext]; rfl
  | shutdown context => rfl
  | finiContext context => rw [answer_finiContext]; rfl
  | initNode node name space context options => rw [answer_initNode]; rfl
  | finiNode node => rw [answer_finiNode]; rfl
  | initPublisher publisher node support topic options => rw [answer_initPublisher]; rfl
  | finiPublisher publisher node => rw [answer_finiPublisher]; rfl
  | initSubscription subscription node support topic options => rw [answer_initSubscription]; rfl
  | finiSubscription subscription node => rw [answer_finiSubscription]; rfl
  | publish publisher data =>
      cases data with
      | none => rfl
      | some datum =>
          unfold step publishFilled at failed ⊢
          dsimp only at failed ⊢
          generalize (kindOf workspace.publisherKinds publisher).getD .int64 = kind at failed ⊢
          cases fits : datum.payload kind with
          | ok payload => rfl
          | error expected =>
              rw [fits] at failed
              cases failed
  | take subscription withBuffer => cases atomic
  | parseArguments vector count wantsOutput => cases atomic
  | contextIsValid context => cases failed
  | nodeInfo node => cases failed
  | publisherInfo publisher => cases failed
  | subscriptionInfo subscription => cases failed
  | topicCount => cases failed
  | resetReason => cases failed
  | setReason reason => cases failed
  | refuseCopies count => cases failed

theorem answer_recount (workspace : Workspace) (reason : Bytes) (ledger : Ledger) {action : Action}
    (quiet : action.movesMessages = false) :
    ((workspace.withMiddleware (workspace.middleware.recount reason ledger)).step action).1 =
      (workspace.step action).1 := by
  cases action with
  | publish publisher data => cases quiet
  | take subscription withBuffer => cases quiet
  | validate kind name wantsVerdict =>
      have blind := workspace.middleware.fst_validate_recount reason ledger kind name wantsVerdict
      exact congrArg (fun result => Answer.finding (statusOf result) (valueOf result)) blind
  | expand topic name space wantsOutput =>
      rw [answer_expand, answer_expand]
      exact congrArg (fun told => Option.elim told Answer.endless _)
        (workspace.middleware.fst_expand_recount reason ledger topic name space wantsOutput)
  | parseArguments vector count wantsOutput =>
      have blind :=
        workspace.middleware.fst_parseArguments_recount reason ledger vector count wantsOutput
      exact congrArg (fun result => Answer.arguments (statusOf result) (valueOf result)) blind
  | initContext context vector count =>
      rw [answer_initContext, answer_initContext]
      exact congrArg (fun result => Answer.status (statusOf result))
        (workspace.middleware.fst_initContext_recount reason ledger _ vector count)
  | shutdown context =>
      exact congrArg (fun result => Answer.status (statusOf result))
        (workspace.middleware.fst_shutdownContext_recount reason ledger _)
  | finiContext context =>
      rw [answer_finiContext, answer_finiContext]
      exact congrArg (fun result => Answer.status (statusOf result))
        (workspace.middleware.fst_finiContext_recount reason ledger _)
  | contextIsValid context => rfl
  | initNode node name space context options =>
      rw [answer_initNode, answer_initNode]
      exact congrArg (fun result => Answer.status (statusOf result))
        (workspace.middleware.fst_initNode_recount reason ledger _ name space _ options)
  | finiNode node =>
      rw [answer_finiNode, answer_finiNode]
      exact congrArg (fun result => Answer.status (statusOf result))
        (workspace.middleware.fst_finiNode_recount reason ledger _)
  | nodeInfo node => rfl
  | initPublisher publisher node support topic options =>
      rw [answer_initPublisher, answer_initPublisher]
      exact congrArg (fun result => Answer.status (statusOf result))
        (workspace.middleware.fst_initPublisher_recount reason ledger _ _ support topic options)
  | finiPublisher publisher node =>
      rw [answer_finiPublisher, answer_finiPublisher]
      exact congrArg (fun result => Answer.status (statusOf result))
        (workspace.middleware.fst_finiPublisher_recount reason ledger _ _)
  | publisherInfo publisher => rfl
  | subscriptionCount publisher wantsCount =>
      have blind := workspace.middleware.fst_subscriptionCount_recount reason ledger
        (slot workspace.publishers publisher) wantsCount
      exact congrArg (fun result => Answer.count (statusOf result) (valueOf result)) blind
  | initSubscription subscription node support topic options =>
      rw [answer_initSubscription, answer_initSubscription]
      exact congrArg (fun result => Answer.status (statusOf result))
        (workspace.middleware.fst_initSubscription_recount reason ledger _ _ support topic options)
  | finiSubscription subscription node =>
      rw [answer_finiSubscription, answer_finiSubscription]
      exact congrArg (fun result => Answer.status (statusOf result))
        (workspace.middleware.fst_finiSubscription_recount reason ledger _ _)
  | subscriptionInfo subscription => rfl
  | publisherCount subscription wantsCount =>
      have blind := workspace.middleware.fst_publisherCount_recount reason ledger
        (slot workspace.subscriptions subscription) wantsCount
      exact congrArg (fun result => Answer.count (statusOf result) (valueOf result)) blind
  | topicCount => rfl
  | resetReason => rfl
  | setReason reason => rfl
  | refuseCopies count => rfl

/-- A workspace is as it was, but for the reason and for what was counted. -/
structure Undisturbed (before after : Workspace) : Prop where
  /-- Resources, endpoints, contexts, topics and samples are all the same. -/
  same : ∃ reason ledger,
    after = before.withMiddleware (before.middleware.recount reason ledger)
  /-- As many messages were released as were made. -/
  live : ∀ kind, after.middleware.ledger.live kind = before.middleware.ledger.live kind
  waiting : ∀ name, after.waiting name = before.waiting name
  retained : ∀ name, after.retained name = before.retained name
  /-- What is valid, what matches and what can be initialised is as before. -/
  answers : ∀ action : Action, action.movesMessages = false →
    (after.step action).1 = (before.step action).1

theorem undisturbed_of_noted {changed : Middleware} (noted : workspace.middleware.Noted changed) :
    workspace.Undisturbed (workspace.withMiddleware changed) := by
  obtain ⟨reason, ledger, rfl, live⟩ := noted
  constructor
  · exact ⟨reason, ledger, rfl⟩
  · exact live
  · exact fun _ => rfl
  · exact fun _ => rfl
  · exact fun _ quiet => workspace.answer_recount reason ledger quiet

/-- All that a call can do beside taking notes, it does only where it succeeds. -/
theorem Effect.undisturbed {action : Action} {answer : Answer}
    (effect : workspace.Effect action answer after) (atomic : action.isAtomic = true)
    (failed : answer.failed = true) : workspace.Undisturbed after := by
  cases effect with
  | noted unmoved noted => exact undisturbed_of_noted noted
  | took => cases atomic
  | _ => cases failed

/-- A call that fails answers its status and nothing else, and leaves everything as it was. -/
theorem failed_undisturbed (workspace : Workspace) (action : Action) (atomic : action.isAtomic = true)
    (failed : (workspace.step action).1.failed = true) :
    (workspace.step action).1.bare = true ∧ workspace.Undisturbed (workspace.step action).2 := by
  constructor
  · exact workspace.bare_of_failed atomic failed
  · exact (workspace.step_effect action).undisturbed atomic failed

def refusal : List Action :=
  [.initContext (some "context") (some []) 0,
    .initNode (some "node") (some (Bytes.ofString "talker")) (some (Bytes.ofString "/"))
      (some "context") (some false),
    .initPublisher (some "publisher") (some "node") (some (.complete .counted))
      (some (Bytes.ofString "chatter")) (some { Qos.standard with durability := .transientLocal }),
    .initSubscription (some "subscription") (some "node") (some (.complete .counted))
      (some (Bytes.ofString "chatter")) (some Qos.standard),
    .publish (some "publisher") (some (.number 1)),
    .refuseCopies 1]

/-- The message that could not be copied is gone again, and the earlier one still waits. -/
theorem failed_undisturbed_refusal :
    ((empty.run refusal).step (.publish (some "publisher") (some (.number 2)))).1 = .status .error ∧
      ((empty.run refusal).step (.publish (some "publisher") (some (.number 2)))).2.waiting
        "subscription" = some [some (.number 1)] := by
  have failed : ((empty.run refusal).step
      (.publish (some "publisher") (some (.number 2)))).1 = .status .error := by
    decide +kernel
  have kept := (failed_undisturbed (empty.run refusal)
    (.publish (some "publisher") (some (.number 2))) rfl (by rw [failed]; rfl)).2.waiting "subscription"
  refine ⟨failed, kept.trans ?_⟩
  decide +kernel

end Workspace

end PubSub
