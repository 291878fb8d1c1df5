import PubSub.Client.Loop
import PubSub.Proofs.Client.Asks

/-!
Dispatch passes and loops proceed, whatever their callbacks do that proceed themselves.  A callback begins in a scene
that is reached, with all that is kept around it: the buffer of its message, its subscription and those that the pass
comes to later, and their nodes.
-/

namespace PubSub

namespace Run

variable {Value : Type} {scene : Scene} {accepts : Value → Prop}

def CallbackProceeds (callback : Callback) : Prop :=
  ∀ subscription message, orderlyScript subscription.script = true →
    Proceeds Anything (callback subscription message)

variable {callback : Callback}

theorem proceedsAt_keepingSubscriptions {items : List Nat} {body : Run Value}
    (present : ∀ item ∈ items, scene.session.subscriptions.contains item = true)
    (proceeds : Proceeds accepts body) :
    ProceedsAt scene accepts (keepingSubscriptions items body) :=
  proceedsAt_keeping (.reshares (.subscriptionsKept present) (Session.reshares_retainSubscriptions _ _) rfl) rfl
    (fun _ => .reshares (.subscriptionsLeft rfl) (Session.reshares_releaseSubscriptions _ _) rfl) (proceeds _)

theorem proceeds_handOver (proceeds : CallbackProceeds callback) (index : Nat)
    {subscription : SubscriptionObject} (orderly : orderlyScript subscription.script = true)
    (payload : Payload) : Proceeds Anything (handOver callback index subscription payload) := by
  apply proceeds_bind (proceeds_view _)
  intro busy _
  refine proceeds_ite (fun _ _ => ⟨.refl, trivial⟩) ?_
  apply proceeds_bind (proceeds_change (fun scene _ => .silent (.marked index true) rfl rfl))
  intro _ _
  exact proceeds_ensuring (proceeds subscription payload orderly)
    (fun scene => .silent (.marked index false) rfl rfl)

theorem proceeds_handleMessage (proceeds : CallbackProceeds callback) (index : Nat)
    {subscription : SubscriptionObject} (orderly : orderlyScript subscription.script = true)
    (kind : MessageKind) (message : Layout) :
    Proceeds Anything (handleMessage callback index subscription kind message) := by
  by_cases same : kind = subscription.kind
  · subst same
    cases reads : subscription.kind.decode message with
    | error overlong =>
        rw [handleMessage_of_overlong reads]
        exact proceeds_raise (.other rfl)
    | ok payload =>
        rw [handleMessage_of_decode reads]
        exact proceeds_handOver proceeds index orderly payload
  · unfold handleMessage
    rw [if_pos same]
    exact proceeds_raise_bind (.other rfl)

theorem proceeds_deliverFront (proceeds : CallbackProceeds callback) (index : Nat)
    {subscription : SubscriptionObject} (orderly : orderlyScript subscription.script = true) :
    Proceeds Anything (deliverFront callback index subscription) := by
  apply proceeds_withBuffer
  intro buffer
  apply proceeds_bind (proceeds_takeInto _ _)
  intro taken _
  cases taken with
  | none => exact proceeds_pure trivial
  | some filled =>
      apply proceeds_bind (proceeds_handleMessage proceeds index orderly _ _)
      exact fun _ _ => proceeds_pure trivial

theorem proceedsAt_keepingOne {index : Nat} {subscription : SubscriptionObject}
    (there : scene.session.subscriptions.get? index = some subscription) {body : Run Value}
    (proceeds : orderlyScript subscription.script = true → Proceeds accepts body) :
    ProceedsAt scene accepts (keepingSubscriptions [index] body) := by
  intro reached
  have orderly := reached.owned.scripts index subscription there
  have present : ∀ item ∈ [index], scene.session.subscriptions.contains item = true := by
    intro item member
    rw [List.mem_singleton.1 member]
    exact (scene.session.subscriptions.contains_iff index).2 ⟨subscription, there⟩
  exact proceedsAt_keepingSubscriptions present (proceeds orderly) reached

theorem proceeds_dispatch (proceeds : CallbackProceeds callback) (name : String) :
    Proceeds Answer.Truthful (dispatch callback name) := by
  intro scene
  apply proceedsAt_find_bind
  rintro ⟨index, subscription⟩ found
  have delivers := proceedsAt_keepingOne (findSubscription_eq_some found)
    (fun orderly => proceeds_deliverFront proceeds index orderly)
  exact proceedsAt_bind delivers (fun _ _ _ _ => proceeds_answer rfl _)

theorem proceeds_handleForeign (proceeds : CallbackProceeds callback) (name : String)
    (kind : MessageKind) : Proceeds Answer.Truthful (handleForeign callback name kind) := by
  apply proceeds_withBuffer
  intro buffer scene
  apply proceedsAt_find_bind
  rintro ⟨index, subscription⟩ found
  have hands := proceedsAt_keepingOne (findSubscription_eq_some found)
    (fun orderly => proceeds_handleMessage proceeds index orderly kind buffer)
  exact proceedsAt_bind hands (fun _ _ _ _ => proceeds_answer rfl _)

theorem proceeds_sumOver {visit : Nat → Run Nat} (proceeds : ∀ index, Proceeds Anything (visit index))
    (items : List Nat) : Proceeds Anything (sumOver visit items) := by
  induction items with
  | nil => exact proceeds_pure trivial
  | cons index rest ih =>
      apply proceeds_bind (proceeds index)
      exact fun _ _ => proceeds_bind ih (fun _ _ => proceeds_pure trivial)

theorem proceeds_visitSubscription (proceeds : CallbackProceeds callback) (index : Nat) :
    Proceeds Anything (visitSubscription callback index) := by
  intro scene
  apply proceedsAt_view_bind
  intro reached
  cases there : scene.session.subscriptions.get? index with
  | none => exact ⟨.refl, trivial⟩
  | some subscription =>
      have orderly := reached.owned.scripts index subscription there
      have delivers := proceeds_deliverFront proceeds index orderly
      exact proceeds_bind delivers (fun _ _ => proceeds_pure trivial) scene reached

theorem proceeds_visitNode (proceeds : CallbackProceeds callback) (node : Nat) :
    Proceeds Anything (visitNode callback node) := by
  intro scene
  apply proceedsAt_bind (proceeds_pruneSubscriptions node scene)
  intro live after outcome _
  apply proceedsAt_keepingSubscriptions (pruneSubscriptions_there outcome)
  exact proceeds_sumOver (proceeds_visitSubscription proceeds) live

theorem proceeds_findExecutor (name : String) : Proceeds Anything (findExecutor name) :=
  proceeds_find _

theorem proceeds_addNode (name : String) (node : Option String) :
    Proceeds Answer.Truthful (addNode name node) := by
  apply proceeds_bind (proceeds_findExecutor name)
  intro _ _
  cases node with
  | none => exact proceeds_answer rfl
  | some node =>
      apply proceeds_bind (proceeds_findNode node)
      rintro ⟨index, _⟩ _
      refine proceeds_bind (proceeds_change (fun scene _ => ?_)) (fun _ _ => proceeds_answer rfl)
      exact .silent (.executorChanged name (fun _ => rfl) (fun _ _ _ failed => .inl failed)) rfl rfl

theorem proceeds_pruneNodes (name : String) : Proceeds Anything (pruneNodes name) := by
  intro scene _
  unfold pruneNodes
  rw [run_changeGet]
  cases scene.session.executors.get? name with
  | none => exact ⟨.refl, trivial⟩
  | some executor =>
      refine ⟨.silent (.executorChanged name (fun _ => rfl) ?_) rfl rfl, trivial⟩
      exact fun _ _ _ failed => .inl failed

theorem proceeds_pass (proceeds : CallbackProceeds callback) (name : String) :
    Proceeds Anything (pass callback name) := by
  apply proceeds_bind (proceeds_findExecutor name)
  intro executor _ scene
  apply proceedsAt_bind (proceeds_pruneNodes name scene)
  intro live after outcome _
  have inside := proceeds_sumOver (proceeds_visitNode proceeds) live
  exact proceedsAt_keeping
    (.reshares (.nodesKept (pruneNodes_there outcome)) (Session.reshares_retainNodes _ _) rfl) rfl
    (fun _ => .reshares (.nodesLeft rfl) (Session.reshares_releaseNodes _ _) rfl) (inside _)

theorem proceeds_shouldRun (name : String) : Proceeds Anything (shouldRun name) := by
  apply proceeds_bind (proceeds_findExecutor name)
  exact fun _ _ => proceeds_bind (proceeds_view _) (fun _ _ => proceeds_pure trivial)

/-- What a pass raised is raised on, unless the loop is over. -/
theorem proceeds_round (proceeds : CallbackProceeds callback) (name : String) :
    Proceeds Anything (round callback name) := by
  apply proceeds_bind (proceeds_findExecutor name)
  intro executor _
  apply proceeds_bind (proceeds_shouldRun name)
  intro goesOn _
  refine proceeds_ite ?_ (proceeds_pure trivial)
  apply proceeds_bind (proceeds_attempt (proceeds_pass proceeds name))
  intro outcome told
  cases outcome with
  | ok dispatched => exact proceeds_pure trivial
  | error raised =>
      apply proceeds_bind (proceeds_view _)
      exact fun _ _ => proceeds_ite (proceeds_pure trivial) (proceeds_raise told)

theorem proceeds_rounds (proceeds : CallbackProceeds callback) (name : String) (limit : Nat) :
    Proceeds Anything (rounds callback name limit) := by
  induction limit with
  | zero => exact proceeds_stuck
  | succ remaining ih =>
      apply proceeds_bind (proceeds_round proceeds name)
      intro outcome _
      rcases outcome with _ | _ | dispatched
      · exact proceeds_pure trivial
      · exact proceeds_stuck
      · exact ih

theorem proceeds_isRunning (name : String) : Proceeds Answer.Truthful (isRunning name) :=
  proceeds_bind (proceeds_findExecutor name) (fun _ _ => proceeds_answer rfl)

theorem goes_modifyPool (scene : Scene) (name : String) {update : WorkerPool Raised → WorkerPool Raised}
    (failure : ∀ pool, (update pool).failure = pool.failure) :
    scene.Goes (scene.withSession (scene.session.modifyPool name update)) :=
  .silent (.executorChanged name (fun _ => rfl) (fun executor _ _ failed =>
    .inl ((failure executor.pool).symm.trans failed))) rfl rfl

theorem proceeds_modifyPool (name : String) (update : WorkerPool Raised → WorkerPool Raised)
    (failure : ∀ pool, (update pool).failure = pool.failure) :
    Proceeds Anything (change (fun session => session.modifyPool name update)) :=
  proceeds_change (fun scene _ => goes_modifyPool scene name failure)

theorem proceeds_spin (proceeds : CallbackProceeds callback) (limit : Nat) (name : String) :
    Proceeds Answer.Truthful (spin callback limit name) := by
  apply proceeds_bind (proceeds_findExecutor name)
  intro executor _
  apply proceeds_bind (proceeds_modifyPool name WorkerPool.start (fun _ => rfl))
  intro _ _
  apply proceeds_bind
  · exact proceeds_ensuring (proceeds_rounds proceeds name limit)
      (fun scene => goes_modifyPool scene name (fun _ => rfl))
  · exact fun _ _ => proceeds_isRunning name

theorem proceeds_stop (name : String) : Proceeds Answer.Truthful (stop name) := by
  intro scene reached
  refine proceedsAt_find_bind (fun executor found => ?_) reached
  have recorded : ∀ raised, executor.pool.failure = some raised → raised.Truthful :=
    fun raised failed => reached.blank_and_truthful.2.failures name executor raised found failed
  apply proceedsAt_view_bind
  generalize (scene.session.worker == some name) = fromWorker
  have stops : ∀ raised, (executor.pool.stop fromWorker).1 = some raised ∨
      (executor.pool.stop fromWorker).2.failure = some raised → raised.Truthful := by
    intro raised
    cases fromWorker with
    | true => exact fun told => told.elim (fun none => nomatch none) (recorded raised)
    | false => exact fun told => told.elim (recorded raised) (fun none => nomatch none)
  dsimp only
  generalize executor.pool.stop fromWorker = stopped at stops
  apply proceeds_bind (proceeds_change (fun scene _ => ?_))
  · intro _ _
    rcases stopped with ⟨_ | raised, pool⟩
    · exact proceeds_isRunning name
    · exact proceeds_raise (stops raised (.inl rfl))
  · exact .silent (.executorChanged name (fun _ => rfl) (fun _ raised _ failed =>
      .inr (stops raised (.inr failed)))) rfl rfl

theorem proceeds_isAwaited (name : String) (before : Nat) (untilCalls : Option Nat) :
    Proceeds Anything (isAwaited name before untilCalls) := by
  cases untilCalls with
  | none => exact proceeds_bind (proceeds_findExecutor name) (fun _ _ => proceeds_pure trivial)
  | some wanted => exact proceeds_view _

theorem proceeds_workerRounds (proceeds : CallbackProceeds callback) (name : String) (before : Nat)
    (untilCalls : Option Nat) (limit : Nat) :
    Proceeds Anything (workerRounds callback name before untilCalls limit) := by
  induction limit with
  | zero => exact proceeds_stuck
  | succ remaining ih =>
      apply proceeds_bind (proceeds_isAwaited name before untilCalls)
      intro awaited _
      refine proceeds_ite (proceeds_pure trivial) ?_
      apply proceeds_bind (proceeds_round proceeds name)
      intro outcome _
      rcases outcome with _ | _ | dispatched
      · exact proceeds_modifyPool name WorkerPool.leave (fun _ => rfl)
      · exact proceeds_pure trivial
      · exact ih

theorem proceeds_workerTurn (proceeds : CallbackProceeds callback) (limit : Nat) (name : String)
    (before : Nat) (untilCalls : Option Nat) :
    Proceeds Anything (workerTurn callback limit name before untilCalls) := by
  apply proceeds_bind (proceeds_view _)
  intro outside _
  apply proceeds_bind (proceeds_change (fun scene _ => .silent (.workerSet (some name)) rfl rfl))
  intro _ _
  apply proceeds_bind (proceeds_attempt (proceeds_workerRounds proceeds name before untilCalls limit))
  intro outcome told
  cases outcome with
  | ok _ => exact proceeds_change (fun scene _ => .silent (.workerSet outside) rfl rfl)
  | error raised =>
      intro scene reached
      have leaves : scene.Goes _ := .silent (.workerSet outside) rfl rfl
      refine ⟨leaves.trans (.silent (.executorChanged name (fun _ => rfl) ?_) rfl rfl), trivial⟩
      intro executor other _ failed
      have either : executor.pool.failure.or (some raised) = some other := failed
      rcases kept : executor.pool.failure with _ | first
      · rw [kept, Option.none_or, Option.some.injEq] at either
        exact .inr (either ▸ told)
      · rw [kept, Option.some_or] at either
        exact .inl either

def Recounts (during : Option (List (Except Raised Answer))) : Prop :=
  ∀ answers, during = some answers → ∀ answer ∈ answers, Truthful answer

theorem recounts_none : Recounts none :=
  fun _ same => nomatch same

theorem truthful_worked {during : Option (List (Except Raised Answer))} (recounts : Recounts during)
    (timedOut : Bool) {stopped : Option Raised} (running : Option Bool)
    (stops : ∀ raised, stopped = some raised → raised.Truthful) :
    (Answer.worked during timedOut stopped running).Truthful :=
  .worked (fun answers _ told member => recounts answers told _ member)
    (fun answers _ told member => recounts answers told _ member) stops

theorem proceeds_work (proceeds : CallbackProceeds callback) (limit : Nat) (name : String)
    (untilCalls : Option Nat) {meanwhile : Run (Option (List (Except Raised Answer)))}
    (goesOn : Proceeds Recounts meanwhile) (destroy : Bool) :
    Proceeds Answer.Truthful (work callback limit name untilCalls meanwhile destroy) := by
  apply proceeds_bind (proceeds_findExecutor name)
  intro executor _
  apply proceeds_bind (proceeds_view _)
  intro before _
  apply proceeds_bind (proceeds_modifyPool name (fun pool => pool.launch executor.threads) (fun _ => rfl))
  intro _ _
  apply proceeds_bind goesOn
  intro during recounts
  apply proceeds_bind (proceeds_workerTurn proceeds limit name before untilCalls)
  intro _ _
  apply proceeds_bind (proceeds_isAwaited name before untilCalls)
  intro awaited _
  apply proceeds_ite
  · have drops : Proceeds Anything (change (fun session => session.dropExecutor name)) :=
      proceeds_change (fun scene _ =>
        .reshares (.executorDropped name) (scene.session.reshares_dropExecutor name) rfl)
    apply proceeds_bind drops
    exact fun _ _ => proceeds_pure (truthful_worked recounts _ _ (fun _ none => nomatch none))
  · apply proceeds_bind (proceeds_attempt (proceeds_stop name))
    intro stopped told
    apply proceeds_bind (proceeds_findExecutor name)
    intro _ _
    refine proceeds_pure (truthful_worked recounts _ _ (fun raised failed => ?_))
    cases stopped with
    | ok _ => cases failed
    | error other =>
        cases failed
        exact told

end Run

end PubSub
