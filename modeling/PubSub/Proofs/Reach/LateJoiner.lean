import PubSub.Proofs.Calls.Initialised
import PubSub.Proofs.Calls.Takes
import PubSub.Proofs.Payloads.Kinds
import PubSub.Proofs.Reach.SoleSource

/-!
Subscriptions that come late.  The history of a publisher that is replayed, and the queue of a subscription that was
there all the time, are cut in two places of their own; where the history is not the shorter one, they agree.
-/

namespace PubSub

namespace Workspace

variable {workspace : Workspace} {publisher name : String} {node : Option String} {support : Option TypeSupport}
  {topic : Option Bytes} {qos offered requested : Qos} {samples : List Nat} {log : List Publication}

theorem keepsNewest_initPublisher
    (made : (workspace.step (.initPublisher (some name) node support topic (some qos))).1 = .status .ok) :
    (workspace.step (.initPublisher (some name) node support topic (some qos))).2.KeepsNewest name qos.resolve [] := by
  rcases workspace.middleware.initPublisher_cases (slot workspace.publishers (some name))
      (slot workspace.nodes node) support topic (some qos) with
    ⟨⟨fault, failed⟩, _, _⟩ | ⟨kind, _, owner, topicName, resolved, _, _, same, _, _, _, _, registered⟩
  · rw [step_initPublisher_error (Prod.ext failed rfl)] at made
    exact absurd (Answer.status.inj made) fault.status_ne_ok
  · cases same
    rw [step_initPublisher_ok registered]
    have there := workspace.publishers.get?_set name name
      (resolved.registerPublisher topicName kind qos.resolve owner.context).1
    have inserted := resolved.transport.publishers.get?_insert
      { qos := qos.resolve, context := owner.context, history := [] } resolved.transport.publishers.next
    refine ⟨_, publisherOf_eq_some.2 ⟨_, there.trans (if_pos rfl), inserted.trans (if_pos rfl)⟩, rfl, ?_⟩
    exact List.drop_nil.symm

theorem exists_of_initSubscription {after : Workspace}
    (made : workspace.step (.initSubscription (some name) node support topic (some qos)) = (.status .ok, after)) :
    ∃ state context running, after.subscriptions.get? name = some state ∧
      after.subscriberOf name =
        some
          { qos := qos.resolve
            context
            queue := (SampleQueue.ofQos qos.resolve).pushAll (workspace.middleware.transport.replayed
              (workspace.middleware.pruneGraph.topic state.key) qos.resolve) } ∧
      after.middleware.transport.contexts.get? context = some running := by
  rcases workspace.middleware.initSubscription_cases (slot workspace.subscriptions (some name))
      (slot workspace.nodes node) support topic (some qos) with
    ⟨⟨fault, failed⟩, _, _⟩ |
      ⟨kind, _, owner, topicName, resolved, _, _, same, _, runs, transport, graph, registered⟩
  · rw [step_initSubscription_error (Prod.ext failed rfl)] at made
    exact absurd (Answer.status.inj (congrArg Prod.fst made)) fault.status_ne_ok
  · cases same
    rw [step_initSubscription_ok registered] at made
    cases made
    obtain ⟨reason, ledger, rfl, _⟩ := Middleware.noted_of_eq transport graph
    have there := workspace.subscriptions.get?_set name name
      ((workspace.middleware.recount reason ledger).registerSubscription topicName kind qos.resolve owner.context).1
    obtain ⟨_, subscribers⟩ := (workspace.middleware.recount reason ledger).transport.addSubscriber_ends
      (workspace.middleware.pruneGraph.topic (Middleware.topicKey topicName qos.resolve.plainTopic kind)) qos.resolve
      owner.context
    have contexts := (Middleware.registerSubscription_transport (workspace.middleware.recount reason ledger)
      topicName kind qos.resolve owner.context).2.contexts
    obtain ⟨running, found⟩ : ∃ running, workspace.middleware.transport.contexts.get? owner.context = some running := by
      unfold Transport.isValid at runs
      cases found : workspace.middleware.transport.contexts.get? owner.context with
      | none => rw [found] at runs; cases runs
      | some running => exact ⟨running, rfl⟩
    refine ⟨_, owner.context, running, there.trans (if_pos rfl),
      subscriberOf_eq_some.2 ⟨_, there.trans (if_pos rfl), (subscribers _).trans (if_pos rfl)⟩, ?_⟩
    exact (congrArg (fun arena => arena.get? owner.context) contexts).trans found

/-- A transient-local subscription that was made was put into its queue what the only publisher keeps. -/
theorem KeepsNewest.attends (keepsNewest : workspace.KeepsNewest publisher offered samples) (wired : Wired workspace)
    (sole : workspace.sole publisher = true) (late : qos.resolve.isTransientLocal = true)
    (made : (workspace.step (.initSubscription (some name) node support topic (some qos))).1 = .status .ok)
    (matched : (workspace.step (.initSubscription (some name) node support topic (some qos))).2.matched publisher
      name = true) :
    ∃ context,
      (workspace.step (.initSubscription (some name) node support topic (some qos))).2.Attends publisher name offered
        qos.resolve context (offered.newest samples) := by
  have effect := workspace.step_effect (.initSubscription (some name) node support topic (some qos))
  obtain ⟨state, context, running, here, present, there⟩ := exists_of_initSubscription (Prod.ext made rfl)
  obtain ⟨held, known, rfl, kept⟩ := keepsNewest
  obtain ⟨mine, found, endpoint⟩ := publisherOf_eq_some.1 known
  rcases effect.publisher wired found endpoint with ⟨⟨_, other⟩, _⟩ | ⟨remains, later⟩
  · cases other
  · rw [if_neg (fun sends => nomatch sends.1)] at later
    obtain ⟨sender, same, _, also, its, subscribed, key, compatible⟩ := exists_of_matched matched here
    cases remains.symm.trans also
    cases later.symm.trans its
    cases present.symm.trans subscribed
    have replayed := wired.replayed_of_sole sole found endpoint late compatible
    rw [key] at replayed
    rw [replayed, kept] at present
    refine ⟨context, ⟨held, publisherOf_eq_some.2 ⟨mine, remains, later⟩, rfl, ?_⟩, present, matched, running, there⟩
    have again := held.qos.newest_append samples []
    rw [List.append_nil, List.append_nil] at again
    exact kept.trans again.symm

/-- The messages that a publisher sends along a run, in order. -/
def messagesSent (publisher : String) (workspace : Workspace) (actions : List Action) : List Payload :=
  (workspace.gather (sentBy publisher) actions).map Prod.snd

theorem exists_publication_of_sent {actions : List Action} {sent : Nat × Payload}
    (member : sent ∈ workspace.gather (sentBy publisher) actions) :
    ∃ publication ∈ workspace.publications actions,
      publication.sample = some sent.1 ∧ publication.message = sent.2 := by
  induction actions generalizing workspace with
  | nil => cases member
  | cons action rest ih =>
      rcases List.mem_append.1 member with here | later
      · have told := Option.mem_toList.1 here
        unfold sentBy at told
        split at told
        · obtain ⟨publication, made, its⟩ := Option.bind_eq_some_iff.1 told
          obtain ⟨sample, numbered, rfl⟩ := Option.map_eq_some_iff.1 its
          refine ⟨publication, List.mem_append_left _ ?_, numbered, rfl⟩
          exact Option.mem_toList.2 made
        · cases told
      · obtain ⟨publication, listed, its⟩ := ih later
        exact ⟨publication, List.mem_append_right _ listed, its⟩

theorem Logged.payload?_eq (logged : Logged workspace log) {publication : Publication} (listed : publication ∈ log)
    {sample : Nat} (its : publication.sample = some sample) {held : Sample}
    (there : workspace.middleware.transport.store.samples.get? sample = some held) :
    workspace.middleware.transport.store.payload? sample = some publication.message := by
  obtain ⟨other, also, numbered, _, admits, content⟩ := logged.traced.told sample held there
  cases logged.traced.eq_of_sample also listed numbered its
  obtain ⟨_, reads, _⟩ := MessageKind.fill_of_admits held.kind.shapes_fresh admits
  unfold SampleStore.payload?
  rw [there, Option.map_some, content, reads]

theorem waiting_of_subscriberOf {subscriber : SubscriberEnd}
    (present : workspace.subscriberOf name = some subscriber) :
    workspace.waiting name =
      some (subscriber.queue.waiting.map workspace.middleware.transport.store.payload?) := by
  rw [waiting_eq, present, Option.map_some]

theorem waiting_of_sent (wired : Wired workspace) (logged : Logged workspace log) {subscriber : SubscriberEnd}
    (present : workspace.subscriberOf name = some subscriber) {sent : List (Nat × Payload)} {number : Nat}
    (waits : subscriber.queue.waiting = (sent.map Prod.fst).rtake number)
    (told : ∀ entry ∈ sent, ∃ publication ∈ log, publication.sample = some entry.1 ∧
      publication.message = entry.2) :
    workspace.waiting name = some (((sent.map Prod.snd).rtake number).map some) := by
  obtain ⟨state, here, endpoint⟩ := subscriberOf_eq_some.1 present
  rw [waiting_of_subscriberOf present, waits]
  simp only [List.rtake, List.length_map, ← List.map_drop, List.map_map]
  refine congrArg some (List.map_congr_left (fun entry member => ?_))
  obtain ⟨publication, listed, its, message⟩ := told entry (List.mem_of_mem_drop member)
  have kept : entry.1 ∈ subscriber.queue.waiting := by
    rw [waits, List.rtake, List.length_map, ← List.map_drop]
    exact List.mem_map_of_mem member
  obtain ⟨held, there⟩ := wired.sound.exists_of_waiting endpoint kept
  exact (logged.payload?_eq listed its there).trans (congrArg some message)

theorem soleThrough_append (first second : List Action)
    (sole : workspace.soleThrough publisher (first ++ second) = true) :
    workspace.soleThrough publisher first = true ∧ (workspace.run first).soleThrough publisher second = true := by
  induction first generalizing workspace with
  | nil => exact ⟨sole_of_soleThrough sole, sole⟩
  | cons action rest ih =>
      obtain ⟨here, later⟩ := Bool.and_eq_true_iff.1 sole
      obtain ⟨early, late⟩ := ih later
      exact ⟨Bool.and_eq_true_iff.2 ⟨here, early⟩, late⟩

theorem numbersSent_append (first second : List Action) :
    workspace.numbersSent publisher (first ++ second) =
      workspace.numbersSent publisher first ++ (workspace.run first).numbersSent publisher second := by
  induction first generalizing workspace with
  | nil => rfl
  | cons action rest ih =>
      rw [List.cons_append, numbersSent_cons, numbersSent_cons, ih, List.append_assoc]
      rfl

theorem Wired.exists_of_spared (wired : Wired workspace) {held : SubscriberEnd}
    (present : workspace.subscriberOf name = some held) {actions : List Action}
    (spared : ∀ action ∈ actions, action.spares name = true) :
    ∃ later, (workspace.run actions).subscriberOf name = some later ∧ later.context = held.context := by
  induction actions generalizing workspace held with
  | nil => exact ⟨held, present, rfl⟩
  | cons action rest ih =>
      obtain ⟨first, others⟩ := List.forall_mem_cons.1 spared
      obtain ⟨state, here, endpoint⟩ := subscriberOf_eq_some.1 present
      obtain ⟨left, turned⟩ := (workspace.step_effect action).spared wired here endpoint first
      obtain ⟨later, found, same⟩ := ih (wired.step action) (subscriberOf_eq_some.2 ⟨state, left, turned⟩) others
      refine ⟨later, found, same.trans ?_⟩
      split <;> rfl

structure Awaits (workspace : Workspace) (publisher name : String) (requested : Qos) : Prop where
  matched : workspace.matched publisher name = true
  runs : workspace.runs name = true
  unfilled : ∃ context,
    workspace.subscriberOf name = some { qos := requested, context, queue := SampleQueue.ofQos requested }

/-- A subscription of a profile was there before a publisher sent anything, and was left alone since. -/
inductive JoinsEarly (start : Workspace) (publisher early : String) (requested : Qos) : List Action → Prop
  /-- It is older than the calls. -/
  | there {actions : List Action} (awaits : start.Awaits publisher early requested)
      (spared : ∀ action ∈ actions, action.spares early = true) : JoinsEarly start publisher early requested actions
  /-- It was made by one of them. -/
  | made {first second : List Action} {node : Option String} {support : Option TypeSupport} {topic : Option Bytes}
      {qos : Qos} (resolved : qos.resolve = requested)
      (granted : ((start.run first).step (.initSubscription (some early) node support topic (some qos))).1 =
        .status .ok)
      (matched : ((start.run first).step (.initSubscription (some early) node support topic (some qos))).2.matched
        publisher early = true)
      (silent : start.messagesSent publisher first = []) (spared : ∀ action ∈ second, action.spares early = true) :
      JoinsEarly start publisher early requested
        (first ++ .initSubscription (some early) node support topic (some qos) :: second)

/-- What a new subscription of a profile finds after some calls, of the messages that a publisher sent with them. -/
structure CatchesUp (start : Workspace) (publisher : String) (offered requested : Qos) (actions : List Action)
    (late : String) (after : Workspace) : Prop where
  /-- A transient-local one finds the newest, as many as the publisher keeps and it has room for. -/
  newest : requested.isTransientLocal = true → after.matched publisher late = true →
    let sent := start.messagesSent publisher actions
    after.waiting late = some ((sent.rtake (requested.room (offered.room sent.length))).map some)
  /-- It finds what is left in the queue of one that came before the first of them, if the publisher keeps enough. -/
  asEarly : requested.isTransientLocal = true → after.matched publisher late = true → offered.Covers requested →
    ∀ early, start.JoinsEarly publisher early requested actions → (start.run actions).runs early = true →
      after.waiting late = after.waiting early
  /-- Any other one finds nothing. -/
  volatile : requested.durability = .volatile → after.waiting late = some []

theorem Awaits.attends (awaits : workspace.Awaits publisher name requested)
    (fresh : workspace.KeepsNewest publisher offered []) :
    ∃ context, workspace.Attends publisher name offered requested context [] := by
  obtain ⟨context, unfilled⟩ := awaits.unfilled
  have runs := awaits.runs
  unfold Workspace.runs Transport.isValid at runs
  rw [unfilled, Option.any_some] at runs
  refine ⟨context, fresh, unfilled, awaits.matched, ?_⟩
  cases found : workspace.middleware.transport.contexts.get? context with
  | none =>
      rw [found] at runs
      cases runs
  | some state => exact ⟨state, rfl⟩

/-- A subscription that runs in the end was put all that the publisher sent meanwhile into its queue. -/
theorem Attends.run_of_runs {context : Nat}
    (attends : workspace.Attends publisher name offered requested context samples) (wired : Wired workspace)
    (settled : Settled workspace) (keeps : offered.isTransientLocal = true) (late : requested.isTransientLocal = true)
    {actions : List Action} (sole : workspace.soleThrough publisher actions = true)
    (spared : ∀ action ∈ actions, action.spares name = true) (runs : (workspace.run actions).runs name = true) :
    (workspace.run actions).Attends publisher name offered requested context
      (samples ++ workspace.numbersSent publisher actions) := by
  -- Its context in the end is the one that it had from the start.
  obtain ⟨held, present, same⟩ := wired.exists_of_spared attends.queued spared
  unfold Workspace.runs at runs
  rw [present, Option.any_some, same] at runs
  exact attends.run wired settled keeps late sole spared runs

/-- A subscription that was there before a publisher sent anything was put all that it sent into its queue. -/
theorem JoinsEarly.attends {early : String} {actions : List Action}
    (joins : workspace.JoinsEarly publisher early requested actions) (wired : Wired workspace)
    (settled : Settled workspace) (fresh : workspace.KeepsNewest publisher offered [])
    (sole : workspace.soleThrough publisher actions = true) (late : requested.isTransientLocal = true)
    (runs : (workspace.run actions).runs early = true) :
    ∃ context, (workspace.run actions).Attends publisher early offered requested context
      (workspace.numbersSent publisher actions) := by
  have keeps := fresh.isTransientLocal (sole_of_soleThrough sole)
  cases joins with
  | there awaits spared =>
      obtain ⟨context, attends⟩ := awaits.attends fresh
      exact ⟨context, attends.run_of_runs wired settled keeps late sole spared runs⟩
  | @made first second node support topic qos resolved granted matched silent spared =>
      subst resolved
      obtain ⟨before, there⟩ := soleThrough_append first _ sole
      obtain ⟨here, after⟩ := Bool.and_eq_true_iff.1 there
      have quiet : workspace.numbersSent publisher first = [] := by
        unfold messagesSent at silent
        unfold numbersSent
        rw [List.map_eq_nil_iff.1 silent, List.map_nil]
      have idle : (workspace.run first).numberSent publisher
          (.initSubscription (some early) node support topic (some qos)) = [] :=
        if_neg (fun sends => nomatch sends.1)
      have kept := fresh.run wired keeps before
      rw [quiet, List.append_nil] at kept
      obtain ⟨context, attends⟩ := kept.attends (wired.run first) here late granted matched
      have whole : workspace.run (first ++ .initSubscription (some early) node support topic (some qos) :: second) =
          ((workspace.run first).step (.initSubscription (some early) node support topic (some qos))).2.run second :=
        List.foldl_append
      rw [whole] at runs ⊢
      have done := attends.run_of_runs ((wired.run first).step _) ((settled.run wired first).step (wired.run first) _)
        keeps late after spared runs
      rw [show offered.newest ([] : List Nat) = [] from List.drop_nil] at done
      rw [numbersSent_append, quiet, numbersSent_cons, idle, List.nil_append]
      exact ⟨context, done⟩

theorem Wired.subscriberOf_of_silent (wired : Wired workspace) {held : SubscriberEnd}
    (present : workspace.subscriberOf name = some held) (action : Action) (spared : action.spares name = true)
    (silent : action.publishes? = none) : (workspace.step action).2.subscriberOf name = some held := by
  obtain ⟨state, here, endpoint⟩ := subscriberOf_eq_some.1 present
  obtain ⟨left, turned⟩ := (workspace.step_effect action).spared wired here endpoint spared
  rw [if_neg (not_feeds silent)] at turned
  exact subscriberOf_eq_some.2 ⟨state, left, turned⟩

theorem Attends.waiting {context : Nat}
    (attends : workspace.Attends publisher name offered requested context samples) (countable : requested.Countable) :
    workspace.waiting name =
      some ((requested.newest samples).map workspace.middleware.transport.store.payload?) := by
  have waits := ((SampleQueue.fits_ofQos requested).pushAll countable samples).2
  rw [waiting_of_subscriberOf attends.queued, waits]
  rfl

/--
After a publisher was made, and as long as it is the only transient-local one with its topic, a subscription catches up
on what it sent.
-/
theorem catchesUp (before actions : List Action) {publisher late : String} {node lateNode : Option String}
    {support lateSupport : Option TypeSupport} {topic lateTopic : Option Bytes} {offered requested : Qos}
    (created : ((empty.run before).step
      (.initPublisher (some publisher) node support topic (some offered))).1 = .status .ok)
    (sole : ((empty.run before).step
      (.initPublisher (some publisher) node support topic (some offered))).2.soleThrough publisher actions = true)
    (small : requested.depth.toNat < 2 ^ 63)
    (joined : ((((empty.run before).step
      (.initPublisher (some publisher) node support topic (some offered))).2.run actions).step
        (.initSubscription (some late) lateNode lateSupport lateTopic (some requested))).1 = .status .ok) :
    let start := ((empty.run before).step (.initPublisher (some publisher) node support topic (some offered))).2
    start.CatchesUp publisher offered.resolve requested.resolve actions late
      ((start.run actions).step
        (.initSubscription (some late) lateNode lateSupport lateTopic (some requested))).2 := by
  intro start
  have wired : Wired start := (wired_empty.run before).step _
  have settled : Settled start := (settled_empty.run wired_empty before).step (wired_empty.run before) _
  have fresh : start.KeepsNewest publisher offered.resolve [] := keepsNewest_initPublisher created
  have countable := (Qos.sized_resolve requested small).countable
  have keeps := fresh.isTransientLocal (sole_of_soleThrough sole)
  have lone : (start.run actions).sole publisher = true :=
    (soleThrough_append actions [] (by rw [List.append_nil]; exact sole)).2
  have keepsNewest := fresh.run wired keeps sole
  rw [List.nil_append] at keepsNewest
  have attends := fun transient matched => keepsNewest.attends (wired.run actions) lone transient joined matched
  constructor
  · intro transient matched sent
    obtain ⟨context, attends⟩ := attends transient matched
    have logged := (((logged_empty.run before).step
      (.initPublisher (some publisher) node support topic (some offered))).run actions).step
        (.initSubscription (some late) lateNode lateSupport lateTopic (some requested))
    have waits := ((SampleQueue.fits_ofQos requested.resolve).pushAll countable
      (offered.resolve.newest (start.numbersSent publisher actions))).2
    have length : (start.numbersSent publisher actions).length = sent.length := by
      rw [numbersSent, List.length_map]
      exact (List.length_map _).symm
    have newest := requested.resolve.newest_newest offered.resolve (start.numbersSent publisher actions)
    rw [length] at newest
    refine waiting_of_sent ((wired.run actions).step _) logged attends.queued (waits.trans newest) ?_
    intro entry member
    obtain ⟨publication, listed, its⟩ := exists_publication_of_sent member
    exact ⟨publication, List.mem_append_left _ (List.mem_append_right _ listed), its⟩
  · intro transient matched covers early joins runs
    obtain ⟨context, attends⟩ := attends transient matched
    obtain ⟨_, earlier⟩ := joins.attends wired settled fresh sole transient runs
    have kept := (wired.run actions).subscriberOf_of_silent earlier.queued
      (.initSubscription (some late) lateNode lateSupport lateTopic (some requested)) rfl rfl
    have waits := ((SampleQueue.fits_ofQos requested.resolve).pushAll countable
      (start.numbersSent publisher actions)).2
    rw [attends.waiting countable, waiting_of_subscriberOf kept, waits, covers.newest_newest]
    rfl
  · intro volatile
    obtain ⟨state, context, _, _, present, _⟩ := exists_of_initSubscription (Prod.ext joined rfl)
    have nothing : ∀ topic, (start.run actions).middleware.transport.replayed topic requested.resolve = [] :=
      fun topic => if_neg (by unfold Qos.isTransientLocal; rw [volatile]; exact nofun)
    rw [waiting_of_subscriberOf present, nothing]
    rfl

def talker : List Action :=
  [.initContext (some "context") (some []) 0,
    .initNode (some "node") (some (Bytes.ofString "talker")) (some (Bytes.ofString "/")) (some "context") (some false)]

def durable (depth : UInt64) : Qos :=
  { Qos.standard with depth, durability := .transientLocal }

def announces (publisher : String) (depth : UInt64) : Action :=
  .initPublisher (some publisher) (some "node") (some (.complete .int64)) (some (Bytes.ofString "chatter"))
    (some (durable depth))

def listens (subscription : String) (depth : UInt64) : Action :=
  .initSubscription (some subscription) (some "node") (some (.complete .int64)) (some (Bytes.ofString "chatter"))
    (some (durable depth))

/-- Four messages, for two subscriptions that come before the first of them; one takes what it gets. -/
def chatter : List Action :=
  [listens "early" 2, listens "other" 1,
    .publish (some "talker") (some (.number 1)),
    .publish (some "talker") (some (.number 2)),
    .take (some "other") true,
    .publish (some "talker") (some (.number 3)),
    .publish (some "talker") (some (.number 4))]

/-- Of four messages the publisher keeps three; a late subscription has room for two, like those that came early. -/
theorem catchesUp_chatter :
    let start := ((empty.run (talker ++ [listens "first" 2])).step (announces "talker" 3)).2
    let after := ((start.run chatter).step (listens "late" 2)).2
    after.waiting "late" = some [some (.number 3), some (.number 4)] ∧
      after.waiting "late" = after.waiting "early" ∧ after.waiting "late" = after.waiting "first" := by
  intro start after
  have created : ((empty.run (talker ++ [listens "first" 2])).step (announces "talker" 3)).1 = .status .ok := by
    decide +kernel
  have sole : start.soleThrough "talker" chatter = true := by decide +kernel
  have joined : ((start.run chatter).step (listens "late" 2)).1 = .status .ok := by decide +kernel
  have catches : start.CatchesUp "talker" (durable 3) (durable 2) chatter "late" after :=
    catchesUp (talker ++ [listens "first" 2]) chatter created sole (by decide) joined
  have matched : after.matched "talker" "late" = true := by decide +kernel
  have first : start.JoinsEarly "talker" "first" (durable 2) chatter :=
    .there ⟨by decide +kernel, by decide +kernel, 0, by decide +kernel⟩ (by decide +kernel)
  have early : start.JoinsEarly "talker" "early" (durable 2) ([] ++ listens "early" 2 :: chatter.tail) :=
    .made (by decide) (by decide +kernel) (by decide +kernel) rfl (by decide +kernel)
  have sent : start.messagesSent "talker" chatter = [.number 1, .number 2, .number 3, .number 4] := by decide +kernel
  have covers : (durable 3).Covers (durable 2) := by decide +kernel
  refine ⟨(catches.newest rfl matched).trans ?_, catches.asEarly rfl matched covers "early" early ?_,
    catches.asEarly rfl matched covers "first" first ?_⟩
  · rw [sent]
    rfl
  · decide +kernel
  · decide +kernel

end Workspace

end PubSub
