import PubSub.Proofs.Calls.Failure
import PubSub.Proofs.Calls.Recorded

/-!
The reason after a run of calls.  A call that fails gives the wording of its fault, a reason can be set and reset,
and whatever else is called leaves the reason that was given last: a take that finds nothing, too.  One thing does
not: an endpoint that is initialised past an idle rule forgets the reason of whoever failed before it.
-/

namespace PubSub

def faultOf {Value : Type} (outcome : Outcome Value) : Option Fault :=
  match outcome.1 with
  | .ok _ => none
  | .error fault => some fault

theorem Fault.status_ne_takeFailed (fault : Fault) : fault.status ≠ .takeFailed := by
  intro same
  cases fault <;> cases same

theorem Middleware.Leaves.reason {Value : Type} {middleware : Middleware} {forgets : Bool}
    {outcome : Outcome Value} (leaves : middleware.Leaves forgets outcome) :
    outcome.2.reason =
      ((faultOf outcome).map Fault.message).getD (if forgets then [] else middleware.reason) := by
  unfold Middleware.Leaves at leaves
  unfold faultOf
  cases told : outcome.1 with
  | ok value =>
      rw [told] at leaves
      exact leaves
  | error fault =>
      rw [told] at leaves
      exact leaves

namespace Workspace

variable {workspace : Workspace}

def fault? (workspace : Workspace) (action : Action) : Option Fault :=
  let middleware := workspace.middleware
  match action with
  | .validate kind name wantsVerdict => faultOf (middleware.validate kind name wantsVerdict)
  | .expand topic name space wantsOutput =>
      (middleware.expand topic name space wantsOutput).bind faultOf
  | .parseArguments vector count wantsOutput =>
      faultOf (middleware.parseArguments vector count wantsOutput)
  | .initContext context vector count =>
      faultOf (middleware.initContext (slot workspace.contexts context) vector count)
  | .shutdown context => faultOf (middleware.shutdownContext (slot workspace.contexts context))
  | .finiContext context => faultOf (middleware.finiContext (slot workspace.contexts context))
  | .initNode node name space context options =>
      faultOf (middleware.initNode (slot workspace.nodes node) name space
        (slot workspace.contexts context) options)
  | .finiNode node => faultOf (middleware.finiNode (slot workspace.nodes node))
  | .initPublisher publisher node support topic options =>
      faultOf (middleware.initPublisher (slot workspace.publishers publisher)
        (slot workspace.nodes node) support topic options)
  | .finiPublisher publisher node =>
      faultOf (middleware.finiPublisher (slot workspace.publishers publisher)
        (slot workspace.nodes node))
  | .subscriptionCount publisher wantsCount =>
      faultOf (middleware.subscriptionCount (slot workspace.publishers publisher) wantsCount)
  | .publish publisher none =>
      faultOf (middleware.publish (slot workspace.publishers publisher) none)
  | .publish publisher (some datum) =>
      let kind := (kindOf workspace.publisherKinds publisher).getD .int64
      match datum.payload kind with
      | .ok payload =>
          faultOf ((middleware.withLedger (middleware.ledger.noteInit kind)).publish
            (slot workspace.publishers publisher) (some (kind.fresh.fill payload)))
      | .error _ => none
  | .initSubscription subscription node support topic options =>
      faultOf (middleware.initSubscription (slot workspace.subscriptions subscription)
        (slot workspace.nodes node) support topic options)
  | .finiSubscription subscription node =>
      faultOf (middleware.finiSubscription (slot workspace.subscriptions subscription)
        (slot workspace.nodes node))
  | .publisherCount subscription wantsCount =>
      faultOf (middleware.publisherCount (slot workspace.subscriptions subscription) wantsCount)
  | .take subscription withBuffer =>
      match withBuffer, kindOf workspace.subscriptionKinds subscription with
      | true, some kind =>
          faultOf ((middleware.withLedger (middleware.ledger.noteInit kind)).take
            (slot workspace.subscriptions subscription) (some kind.fresh))
      | true, none =>
          faultOf (middleware.take (slot workspace.subscriptions subscription) (some (.number 0)))
      | false, _ => faultOf (middleware.take (slot workspace.subscriptions subscription) none)
  | _ => none

/-- The status of a failure, if an answer tells one.  That nothing waits is no failure. -/
def Answer.failure? (answer : Answer) : Option Status :=
  answer.status?.filter (fun told => told ≠ .ok ∧ told ≠ .takeFailed)

theorem failure_status (fault : Fault) : (Answer.status fault.status).failure? = some fault.status := by
  have fails : decide (fault.status ≠ .ok ∧ fault.status ≠ .takeFailed) = true :=
    decide_eq_true ⟨fault.status_ne_ok, fault.status_ne_takeFailed⟩
  unfold Answer.failure? Answer.status?
  rw [Option.filter_some, if_pos fails]

theorem failure_statusOf {Value : Type} {answer : Answer} (outcome : Outcome Value)
    (told : answer.status? = some (statusOf outcome.1)) :
    answer.failure? = (faultOf outcome).map Fault.status := by
  unfold Answer.failure? faultOf
  rw [told]
  cases outcome.1 with
  | ok value => rfl
  | error fault => exact failure_status fault

theorem failure_takeFilled (workspace : Workspace) (subscription : Option String) (kind : MessageKind) :
    (workspace.takeFilled subscription kind).1.failure? =
      (faultOf ((workspace.middleware.withLedger (workspace.middleware.ledger.noteInit kind)).take
        (slot workspace.subscriptions subscription) (some kind.fresh))).map Fault.status := by
  unfold takeFilled faultOf
  dsimp only
  generalize ((workspace.middleware.withLedger _).take _ _).1 = result
  rcases result with fault | _ | layout
  · exact failure_status fault
  · rfl
  · rfl

theorem status_fault? (workspace : Workspace) (action : Action) :
    (workspace.fault? action).map Fault.status = (workspace.step action).1.failure? := by
  cases action with
  | validate kind name wantsVerdict => exact (failure_statusOf _ rfl).symm
  | expand topic name space wantsOutput =>
      rw [answer_expand]
      unfold fault?
      dsimp only
      cases workspace.middleware.expand topic name space wantsOutput with
      | none => rfl
      | some outcome => exact (failure_statusOf outcome rfl).symm
  | parseArguments vector count wantsOutput => exact (failure_statusOf _ rfl).symm
  | initContext context vector count =>
      rw [answer_initContext]
      exact (failure_statusOf _ rfl).symm
  | shutdown context => exact (failure_statusOf _ rfl).symm
  | finiContext context =>
      rw [answer_finiContext]
      exact (failure_statusOf _ rfl).symm
  | contextIsValid context => rfl
  | initNode node name space context options =>
      rw [answer_initNode]
      exact (failure_statusOf _ rfl).symm
  | finiNode node =>
      rw [answer_finiNode]
      exact (failure_statusOf _ rfl).symm
  | nodeInfo node => rfl
  | initPublisher publisher node support topic options =>
      rw [answer_initPublisher]
      exact (failure_statusOf _ rfl).symm
  | finiPublisher publisher node =>
      rw [answer_finiPublisher]
      exact (failure_statusOf _ rfl).symm
  | publisherInfo publisher => rfl
  | subscriptionCount publisher wantsCount => exact (failure_statusOf _ rfl).symm
  | publish publisher data =>
      cases data with
      | none => exact (failure_statusOf _ rfl).symm
      | some datum =>
          unfold fault? step publishFilled
          dsimp only
          generalize (kindOf workspace.publisherKinds publisher).getD .int64 = kind
          cases datum.payload kind with
          | ok payload => exact (failure_statusOf _ rfl).symm
          | error expected => rfl
  | initSubscription subscription node support topic options =>
      rw [answer_initSubscription]
      exact (failure_statusOf _ rfl).symm
  | finiSubscription subscription node =>
      rw [answer_finiSubscription]
      exact (failure_statusOf _ rfl).symm
  | subscriptionInfo subscription => rfl
  | publisherCount subscription wantsCount => exact (failure_statusOf _ rfl).symm
  | take subscription withBuffer =>
      cases withBuffer with
      | false => exact (failure_statusOf _ rfl).symm
      | true =>
          unfold fault? step
          dsimp only
          cases kindOf workspace.subscriptionKinds subscription with
          | none => exact (failure_statusOf _ rfl).symm
          | some kind => exact (workspace.failure_takeFilled subscription kind).symm
  | topicCount => rfl
  | resetReason => rfl
  | setReason reason => rfl
  | refuseCopies count => rfl

/-- The reason that a call gives: the wording of its fault, or the one that it is there to set. -/
def given? (workspace : Workspace) (action : Action) : Option Bytes :=
  match action with
  | .resetReason => some []
  | .setReason reason => some reason
  | _ => (workspace.fault? action).map Fault.message

/-- Whether a call initialises an endpoint, and passes an idle rule on the way to its topic. -/
def forgets (workspace : Workspace) (action : Action) : Bool :=
  (workspace.fault? action).isNone &&
    match action with
    | .initPublisher _ node _ topic _ =>
        workspace.middleware.passesIdle (slot workspace.nodes node) topic
    | .initSubscription _ node _ topic _ =>
        workspace.middleware.passesIdle (slot workspace.nodes node) topic
    | _ => false

/-- The reason that a call leaves in place of the one before it, if it does not keep that. -/
def left? (workspace : Workspace) (action : Action) : Option Bytes :=
  if workspace.forgets action then some [] else workspace.given? action

theorem reason_of_leaves {Value : Type} {action : Action} {outcome : Outcome Value} {passes : Bool}
    (leaves : workspace.middleware.Leaves passes outcome)
    (after : (workspace.step action).2.middleware.reason = outcome.2.reason)
    (fault : workspace.fault? action = faultOf outcome)
    (given : workspace.given? action = (workspace.fault? action).map Fault.message)
    (forgets : workspace.forgets action = ((workspace.fault? action).isNone && passes)) :
    (workspace.step action).2.middleware.reason =
      (workspace.left? action).getD workspace.middleware.reason := by
  rw [after, leaves.reason]
  unfold left?
  rw [forgets, given, fault]
  cases faultOf outcome with
  | some fault => rfl
  | none =>
      cases passes with
      | true => rfl
      | false => rfl

theorem reason_kept {action : Action}
    (after : (workspace.step action).2.middleware.reason = workspace.middleware.reason)
    (given : workspace.given? action = none) (kept : workspace.forgets action = false) :
    (workspace.step action).2.middleware.reason =
      (workspace.left? action).getD workspace.middleware.reason := by
  unfold left?
  rw [after, kept, if_neg Bool.false_ne_true, given]
  rfl

theorem middleware_initContext (workspace : Workspace) (context : Option String)
    (vector : Option (List (Option Bytes))) (count : Int) :
    (workspace.step (.initContext context vector count)).2.middleware =
      (workspace.middleware.initContext (slot workspace.contexts context) vector count).2 := by
  unfold step
  dsimp only
  generalize workspace.middleware.initContext _ vector count = outcome
  obtain ⟨_ | _, _⟩ := outcome <;> rfl

theorem middleware_finiContext (workspace : Workspace) (context : Option String) :
    (workspace.step (.finiContext context)).2.middleware =
      (workspace.middleware.finiContext (slot workspace.contexts context)).2 := by
  unfold step
  dsimp only
  generalize workspace.middleware.finiContext _ = outcome
  obtain ⟨_ | _, _⟩ := outcome <;> rfl

theorem middleware_initNode (workspace : Workspace) (node : Option String)
    (name space : Option Bytes) (context : Option String) (options : Option Bool) :
    (workspace.step (.initNode node name space context options)).2.middleware =
      (workspace.middleware.initNode (slot workspace.nodes node) name space
        (slot workspace.contexts context) options).2 := by
  unfold step
  dsimp only
  generalize workspace.middleware.initNode _ name space _ options = outcome
  obtain ⟨_ | _, _⟩ := outcome <;> rfl

theorem middleware_finiNode (workspace : Workspace) (node : Option String) :
    (workspace.step (.finiNode node)).2.middleware =
      (workspace.middleware.finiNode (slot workspace.nodes node)).2 := by
  unfold step
  dsimp only
  generalize workspace.middleware.finiNode _ = outcome
  obtain ⟨_ | _, _⟩ := outcome <;> rfl

theorem middleware_initPublisher (workspace : Workspace) (publisher node : Option String)
    (support : Option TypeSupport) (topic : Option Bytes) (options : Option Qos) :
    (workspace.step (.initPublisher publisher node support topic options)).2.middleware =
      (workspace.middleware.initPublisher (slot workspace.publishers publisher)
        (slot workspace.nodes node) support topic options).2 := by
  unfold step
  dsimp only
  generalize workspace.middleware.initPublisher _ _ support topic options = outcome
  obtain ⟨_ | _, _⟩ := outcome <;> rfl

theorem middleware_finiPublisher (workspace : Workspace) (publisher node : Option String) :
    (workspace.step (.finiPublisher publisher node)).2.middleware =
      (workspace.middleware.finiPublisher (slot workspace.publishers publisher)
        (slot workspace.nodes node)).2 := by
  unfold step
  dsimp only
  generalize workspace.middleware.finiPublisher _ _ = outcome
  obtain ⟨_ | _, _⟩ := outcome <;> rfl

theorem middleware_initSubscription (workspace : Workspace) (subscription node : Option String)
    (support : Option TypeSupport) (topic : Option Bytes) (options : Option Qos) :
    (workspace.step (.initSubscription subscription node support topic options)).2.middleware =
      (workspace.middleware.initSubscription (slot workspace.subscriptions subscription)
        (slot workspace.nodes node) support topic options).2 := by
  unfold step
  dsimp only
  generalize workspace.middleware.initSubscription _ _ support topic options = outcome
  obtain ⟨_ | _, _⟩ := outcome <;> rfl

theorem middleware_finiSubscription (workspace : Workspace) (subscription node : Option String) :
    (workspace.step (.finiSubscription subscription node)).2.middleware =
      (workspace.middleware.finiSubscription (slot workspace.subscriptions subscription)
        (slot workspace.nodes node)).2 := by
  unfold step
  dsimp only
  generalize workspace.middleware.finiSubscription _ _ = outcome
  obtain ⟨_ | _, _⟩ := outcome <;> rfl

theorem reason_publishFilled (workspace : Workspace) (publisher : Option String) (datum : Datum) :
    (workspace.step (.publish publisher (some datum))).2.middleware.reason =
      (workspace.left? (.publish publisher (some datum))).getD workspace.middleware.reason := by
  cases fits : datum.payload ((kindOf workspace.publisherKinds publisher).getD .int64) with
  | error expected =>
      have unfit : workspace.fault? (.publish publisher (some datum)) = none := by
        unfold fault?
        dsimp only
        rw [fits]
      refine reason_kept ?_ (congrArg (Option.map Fault.message) unfit) (Bool.and_false _)
      unfold step publishFilled
      dsimp only
      rw [fits]
      rfl
  | ok payload =>
      have sent := (workspace.middleware.withLedger (workspace.middleware.ledger.noteInit
        ((kindOf workspace.publisherKinds publisher).getD .int64))).leaves_publish
          (slot workspace.publishers publisher)
          (some (((kindOf workspace.publisherKinds publisher).getD .int64).fresh.fill payload))
      refine reason_of_leaves sent ?_ ?_ rfl rfl
      · unfold step publishFilled
        dsimp only
        rw [fits]
        rfl
      · unfold fault?
        dsimp only
        rw [fits]

theorem reason_take (workspace : Workspace) (subscription : Option String) (withBuffer : Bool) :
    (workspace.step (.take subscription withBuffer)).2.middleware.reason =
      (workspace.left? (.take subscription withBuffer)).getD workspace.middleware.reason := by
  cases withBuffer with
  | false => exact reason_of_leaves (workspace.middleware.leaves_take _ _) rfl rfl rfl rfl
  | true =>
      cases known : kindOf workspace.subscriptionKinds subscription with
      | none =>
          have taken := workspace.middleware.leaves_take (slot workspace.subscriptions subscription)
            (some (.number 0))
          refine reason_of_leaves taken ?_ ?_ rfl rfl
          · unfold step
            dsimp only
            rw [known]
            rfl
          · unfold fault?
            dsimp only
            rw [known]
      | some kind =>
          have taken := (workspace.middleware.withLedger
            (workspace.middleware.ledger.noteInit kind)).leaves_take
              (slot workspace.subscriptions subscription) (some kind.fresh)
          refine reason_of_leaves taken ?_ ?_ rfl rfl
          · unfold step
            dsimp only
            rw [known]
            dsimp only
            rw [snd_takeFilled]
            rfl
          · unfold fault?
            dsimp only
            rw [known]

/-- What one call leaves as reason: its own, an empty one, or the one before it. -/
theorem reason_step (workspace : Workspace) (action : Action) :
    (workspace.step action).2.middleware.reason =
      (workspace.left? action).getD workspace.middleware.reason := by
  cases action with
  | validate kind name wantsVerdict =>
      exact reason_of_leaves (workspace.middleware.leaves_validate _ _ _) rfl rfl rfl rfl
  | expand topic name space wantsOutput =>
      cases expanded : workspace.middleware.expand topic name space wantsOutput with
      | none =>
          have endless : workspace.fault? (.expand topic name space wantsOutput) = none := by
            unfold fault?
            dsimp only
            rw [expanded]
            rfl
          refine reason_kept ?_ (congrArg (Option.map Fault.message) endless) (Bool.and_false _)
          unfold step
          dsimp only
          rw [expanded]
      | some outcome =>
          have fault : workspace.fault? (.expand topic name space wantsOutput) = faultOf outcome := by
            unfold fault?
            dsimp only
            rw [expanded]
            rfl
          refine reason_of_leaves (Middleware.leaves_expand expanded) ?_ fault rfl rfl
          unfold step
          dsimp only
          rw [expanded]
          rfl
  | parseArguments vector count wantsOutput =>
      exact reason_of_leaves (workspace.middleware.leaves_parseArguments _ _ _) rfl rfl rfl rfl
  | initContext context vector count =>
      exact reason_of_leaves (workspace.middleware.leaves_initContext _ _ _)
        (congrArg Middleware.reason (workspace.middleware_initContext _ _ _)) rfl rfl rfl
  | shutdown context =>
      exact reason_of_leaves (workspace.middleware.leaves_shutdownContext _) rfl rfl rfl rfl
  | finiContext context =>
      exact reason_of_leaves (workspace.middleware.leaves_finiContext _)
        (congrArg Middleware.reason (workspace.middleware_finiContext _)) rfl rfl rfl
  | contextIsValid context => exact reason_kept rfl rfl rfl
  | initNode node name space context options =>
      exact reason_of_leaves (workspace.middleware.leaves_initNode _ _ _ _ _)
        (congrArg Middleware.reason (workspace.middleware_initNode _ _ _ _ _)) rfl rfl rfl
  | finiNode node =>
      exact reason_of_leaves (workspace.middleware.leaves_finiNode _)
        (congrArg Middleware.reason (workspace.middleware_finiNode _)) rfl rfl rfl
  | nodeInfo node => exact reason_kept rfl rfl rfl
  | initPublisher publisher node support topic options =>
      exact reason_of_leaves (workspace.middleware.leaves_initPublisher _ _ _ _ _)
        (congrArg Middleware.reason (workspace.middleware_initPublisher _ _ _ _ _)) rfl rfl rfl
  | finiPublisher publisher node =>
      exact reason_of_leaves (workspace.middleware.leaves_finiPublisher _ _)
        (congrArg Middleware.reason (workspace.middleware_finiPublisher _ _)) rfl rfl rfl
  | publisherInfo publisher => exact reason_kept rfl rfl rfl
  | subscriptionCount publisher wantsCount =>
      exact reason_of_leaves (workspace.middleware.leaves_subscriptionCount _ _) rfl rfl rfl rfl
  | publish publisher data =>
      cases data with
      | none => exact reason_of_leaves (workspace.middleware.leaves_publish _ _) rfl rfl rfl rfl
      | some datum => exact workspace.reason_publishFilled publisher datum
  | initSubscription subscription node support topic options =>
      exact reason_of_leaves (workspace.middleware.leaves_initSubscription _ _ _ _ _)
        (congrArg Middleware.reason (workspace.middleware_initSubscription _ _ _ _ _)) rfl rfl rfl
  | finiSubscription subscription node =>
      exact reason_of_leaves (workspace.middleware.leaves_finiSubscription _ _)
        (congrArg Middleware.reason (workspace.middleware_finiSubscription _ _)) rfl rfl rfl
  | subscriptionInfo subscription => exact reason_kept rfl rfl rfl
  | publisherCount subscription wantsCount =>
      exact reason_of_leaves (workspace.middleware.leaves_publisherCount _ _) rfl rfl rfl rfl
  | take subscription withBuffer => exact workspace.reason_take subscription withBuffer
  | topicCount => exact reason_kept rfl rfl rfl
  | resetReason => rfl
  | setReason reason => rfl
  | refuseCopies count => exact reason_kept rfl rfl rfl

def mindful (workspace : Workspace) : List Action → Bool
  | [] => true
  | action :: rest => !workspace.forgets action && (workspace.step action).2.mindful rest

theorem getLastD_toList_append (given : Option Bytes) (rest : List Bytes) (before : Bytes) :
    (given.toList ++ rest).getLastD before = rest.getLastD (given.getD before) := by
  cases given with
  | none => rfl
  | some reason => exact List.getLastD_cons

/-- After a run the reason is the last one that was left. -/
theorem reason_run (workspace : Workspace) (actions : List Action) :
    (workspace.run actions).middleware.reason =
      (workspace.gather left? actions).getLastD workspace.middleware.reason := by
  induction actions generalizing workspace with
  | nil => rfl
  | cons action rest ih =>
      calc
        (workspace.run (action :: rest)).middleware.reason
          = ((workspace.step action).2.gather left? rest).getLastD
              (workspace.step action).2.middleware.reason := ih _
        _ = ((workspace.step action).2.gather left? rest).getLastD
              ((workspace.left? action).getD workspace.middleware.reason) := by rw [reason_step]
        _ = (workspace.gather left? (action :: rest)).getLastD workspace.middleware.reason :=
            (getLastD_toList_append _ _ _).symm

theorem gather_left_of_mindful (workspace : Workspace) {actions : List Action}
    (mindful : workspace.mindful actions = true) :
    workspace.gather left? actions = workspace.gather given? actions := by
  induction actions generalizing workspace with
  | nil => rfl
  | cons action rest ih =>
      unfold Workspace.mindful at mindful
      obtain ⟨kept, later⟩ := Bool.and_eq_true_iff.1 mindful
      have same : workspace.left? action = workspace.given? action := by
        unfold left?
        rw [Bool.not_eq_true'] at kept
        rw [kept, if_neg Bool.false_ne_true]
      unfold gather
      rw [same, ih _ later]

theorem statusOf_of_faultOf {Value : Type} {outcome : Outcome Value} (granted : faultOf outcome = none) :
    statusOf outcome.1 = .ok := by
  unfold faultOf at granted
  cases told : outcome.1 with
  | ok value => rfl
  | error fault =>
      rw [told] at granted
      cases granted

theorem answer_of_forgets {action : Action} (forgets : workspace.forgets action = true) :
    (workspace.step action).1 = .status .ok := by
  unfold Workspace.forgets at forgets
  obtain ⟨granted, passes⟩ := Bool.and_eq_true_iff.1 forgets
  rw [Option.isNone_iff_eq_none] at granted
  cases action with
  | initPublisher publisher node support topic options =>
      rw [answer_initPublisher, statusOf_of_faultOf granted]
  | initSubscription subscription node support topic options =>
      rw [answer_initSubscription, statusOf_of_faultOf granted]
  | _ => cases passes

/-- What becomes of reasons in a run of calls. -/
structure Remembers (workspace : Workspace) (actions : List Action) : Prop where
  /-- The reason is the last one left: that of a failure or a setting, or none by a reset or where it was forgotten. -/
  last : (workspace.run actions).middleware.reason =
    (workspace.gather left? actions).getLastD workspace.middleware.reason
  /-- Where no call forgets, it is the last one that a failure or a setting gave, or none since a reset. -/
  faithful : workspace.mindful actions = true →
    (workspace.run actions).middleware.reason =
      (workspace.gather given? actions).getLastD workspace.middleware.reason
  /-- A call has a fault where it answers the status of a failure, and the fault is of that status. -/
  failing : ∀ action, ((workspace.run actions).fault? action).map Fault.status =
    ((workspace.run actions).step action).1.failure?
  /-- A call that forgets is granted, and leaves no reason. -/
  forgetful : ∀ action, (workspace.run actions).forgets action = true →
    ((workspace.run actions).step action).1 = .status .ok ∧
      ((workspace.run actions).step action).2.middleware.reason = []

/--
The reason stays until another failure or a reset replaces it, with one exception: an endpoint that is initialised
past an idle rule takes away the reason of an earlier failure, whose own reason it should not have touched.
-/
theorem remembers_unless_forgets (workspace : Workspace) (actions : List Action) :
    workspace.Remembers actions where
  last := workspace.reason_run actions
  faithful := by
    intro mindful
    rw [reason_run, gather_left_of_mindful workspace mindful]
  failing := (workspace.run actions).status_fault?
  forgetful := by
    intro action forgets
    refine ⟨answer_of_forgets forgets, ?_⟩
    rw [reason_step]
    unfold left?
    rw [if_pos forgets]
    rfl

def troubled : List Action :=
  [.initContext (some "context")
      (some [some sectionFlag, some ruleFlag, some (Bytes.ofString "/\x7bbad\x7d:=/x")]) 3,
    .initNode (some "node") (some (Bytes.ofString "talker")) (some (Bytes.ofString "/"))
      (some "context") (some true),
    .shutdown (some "other")]

def unrelated : Action :=
  .initPublisher (some "publisher") (some "node") (some (.complete .int64))
    (some (Bytes.ofString "chatter")) (some Qos.standard)

theorem remembers_unless_forgets_troubled :
    (empty.run troubled).middleware.reason = Bytes.ofString "context is not initialized" ∧
      ((empty.run troubled).step unrelated).1 = .status .ok ∧
      ((empty.run troubled).step unrelated).2.middleware.reason = [] := by
  have remembers := empty.remembers_unless_forgets troubled
  have forgets : (empty.run troubled).forgets unrelated = true := by decide +kernel
  refine ⟨?_, remembers.forgetful unrelated forgets⟩
  rw [remembers.faithful (by decide +kernel)]
  decide +kernel

/-- The shutdown that failed is the last failure, and a publisher that is initialised after it takes its reason away. -/
theorem reason_forgotten :
    (empty.gather given? (troubled ++ [unrelated])).getLastD empty.middleware.reason =
        Bytes.ofString "context is not initialized" ∧
      ((empty.run troubled).step unrelated).1 = .status .ok ∧
      (empty.run (troubled ++ [unrelated])).middleware.reason = [] := by
  decide +kernel

end Workspace

end PubSub
