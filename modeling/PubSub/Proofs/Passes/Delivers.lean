import PubSub.Proofs.Passes.Attended
import PubSub.Proofs.Passes.Once

/-!
Runs that deliver.  A run delivers what is in front for some subscriptions, in their order, up to the first for which
something is raised: as many fronts leave their queues as were heard, and nothing else changes.  A visit delivers what
is in front for its subscription, visits of several deliver for all of them, and so does a pass.
-/

namespace PubSub

structure Session.SameOwners (before after : Session) : Prop where
  subscriptions : ∀ index, after.subscriptions.get? index = before.subscriptions.get? index
  nodes : ∀ node, (after.nodes.get? node).map NodeObject.owners = (before.nodes.get? node).map NodeObject.owners

theorem Session.SameOwners.trans {first second third : Session} (early : first.SameOwners second)
    (late : second.SameOwners third) : first.SameOwners third :=
  ⟨fun index => (late.subscriptions index).trans (early.subscriptions index),
    fun node => (late.nodes node).trans (early.nodes node)⟩

namespace Run

variable {session after : Session} {callback : Callback} {listener : Listener} {index : Nat}
  {held : SubscriptionObject} {state : SubscriptionState}

/-- A run tells a listener what is in front for some subscriptions, until something is raised, and does nothing else. -/
structure Delivers (listener : Listener) (session : Session) (indices : List Nat) (run : Run Nat) : Prop where
  ended : (run.run session).1 = (hear listener (session.row indices 0) session.memory).ended
  memory : (run.run session).2.memory = (hear listener (session.row indices 0) session.memory).memory
  follows : session.Follows (run.run session).2
  owners : session.SameOwners (run.run session).2
  taken : ∀ index, (run.run session).2.pending index =
    if index ∈ (hear listener (session.row indices 0) session.memory).messages.map Prod.fst then
      (session.pending index).tail
    else session.pending index

theorem take_of_takeInto {buffer : Layout} {filled : Option Layout}
    (took : (takeInto held buffer).run session = (.ok filled, after)) :
    ∃ middleware, session.middleware.take (some (session.subscriptionSlot held.handle)) (some buffer) =
        (.ok filled, middleware) ∧ after = { session with middleware } := by
  rw [run_takeInto, Request.outcome_take] at took
  generalize session.middleware.take _ _ = outcome at took ⊢
  obtain ⟨fault | taken, middleware⟩ := outcome
  · cases took
  · cases took
    exact ⟨middleware, rfl, rfl⟩

theorem fst_takeInto (attends : session.Attends callback listener index held state) :
    session.waiting held = [] ∧
        ((takeInto held held.kind.fresh).run (session.buffered held.kind)).1 = .ok none ∨
      ∃ sample rest filled, session.waiting held = sample :: rest ∧
        ((takeInto held held.kind.fresh).run (session.buffered held.kind)).1 = .ok (some filled) := by
  obtain ⟨endpoint, there, runs⟩ := attends.runs
  let buffered := session.buffered held.kind
  have slot : buffered.subscriptionSlot held.handle = some state := attends.slot
  have known : buffered.middleware.transport.subscribers.get? state.endpoint = some endpoint := there
  have valid : buffered.middleware.transport.isValid endpoint.context = true := runs
  have answer := Request.outcome_take_waiting known held.kind.fresh
  rw [if_pos valid, attends.kind] at answer
  have waits := Session.waiting_of_endpoint attends.slot there
  rw [run_takeInto, slot, waits]
  generalize (Request.take (some state) held.kind.fresh).outcome buffered.middleware = outcome at answer ⊢
  obtain ⟨result, middleware⟩ := outcome
  cases queue : endpoint.queue.waiting with
  | nil =>
      rw [queue] at answer
      cases answer
      exact .inl ⟨rfl, rfl⟩
  | cons sample rest =>
      have copies := attends.copies sample (by rw [waits, queue]; exact List.mem_cons_self)
      -- The buffer was counted, which changes no refusal.
      have counted : buffered.middleware.ledger.refusals = session.middleware.ledger.refusals := rfl
      have same := Ledger.fst_copy_of_refusals counted held.kind
        (session.middleware.transport.store.content held.kind sample) held.kind.fresh
      rw [← same] at copies
      obtain ⟨filled, copied⟩ := Option.ne_none_iff_exists'.1 copies
      have content : buffered.middleware.transport.store.content held.kind sample =
        session.middleware.transport.store.content held.kind sample := rfl
      rw [queue] at answer
      dsimp only at answer
      rw [content, copied] at answer
      cases answer
      exact .inr ⟨sample, rest, filled, rfl, rfl⟩

def handed (session : Session) (index : Nat) (memory : Memory) : Session :=
  ((session.setBusy index true).withMemory memory).setBusy index false

theorem run_handOver (attends : session.Attends callback listener index held state)
    (there : after.subscriptions.get? index = some held) (message : Payload) :
    (handOver callback index held message).run after =
      let told := listener index message after.memory
      (told.1.mapError Stop.raised, handed after index told.2) := by
  have quiet : after.isBusy index = false := by
    unfold Session.isBusy
    rw [there, Option.any_some]
    exact attends.idle
  unfold handOver
  rw [run_view_bind, quiet, if_neg Bool.false_ne_true, run_change_bind, run_ensuring,
    show (callback held message).run (after.setBusy index true) = _ from
      attends.listens held.owners message (after.setBusy index true)]
  rfl

/-- Whoever is marked as running and no longer running is what it was before, if it was not running. -/
theorem get?_handed (there : session.subscriptions.get? index = some held) (idle : held.busy = false)
    (memory : Memory) (other : Nat) :
    (handed session index memory).subscriptions.get? other = session.subscriptions.get? other := by
  have marked := fun busy (arena : Arena SubscriptionObject) =>
    arena.get?_modify index other (fun held => { held with busy })
  refine (marked false _).trans ?_
  by_cases same : other = index
  · rw [if_pos same]
    refine (congrArg _ (Arena.get?_modify session.subscriptions index index _)).trans ?_
    rw [if_pos rfl, there, same, there]
    obtain ⟨_, _, _, _, _, _⟩ := held
    cases idle
    rfl
  · rw [if_neg same]
    exact (marked true _).trans (if_neg same)

theorem follows_handed (there : session.subscriptions.get? index = some held) (idle : held.busy = false)
    (memory : Memory) : session.Follows (handed session index memory) := by
  have same := fun other => congrArg (Option.map SubscriptionObject.bare) (get?_handed there idle memory other)
  exact
    { forest := rfl
      objects := same
      listed := (Session.follows_withSubscriptions same).listed
      targets := fun _ => rfl
      middleware := .refl _ }

theorem takeInto_front (fit : session.Fit) (attends : session.Attends callback listener index held state)
    {filled : Layout} (took : (takeInto held held.kind.fresh).run (session.buffered held.kind) =
      (.ok (some filled), after)) :
    ∃ sample message, session.waiting held = sample :: after.waiting held ∧
      session.middleware.transport.store.payload? sample = some message ∧
      held.kind.decode filled = .ok message := by
  obtain ⟨other, endpoint, sample, slot, there, member, waits, answered, reads⟩ :=
    Session.takeInto_taken took
  cases attends.slot.symm.trans slot
  have sound : (session.buffered held.kind).middleware.transport.Sound (fun _ => 0) := fit.sound
  obtain ⟨stored, present⟩ := sound.exists_of_waiting there member
  obtain ⟨_, copied⟩ := Request.copied_of_taken there (Prod.ext answered rfl)
  rw [attends.kind] at copied
  obtain ⟨message, decodes⟩ := MessageKind.decode_of_copy copied
  refine ⟨sample, stored.content.payload, waits, congrArg (Option.map _) present, ?_⟩
  rw [decodes, MessageKind.eq_of_accept decodes, reads stored present (fit.proper sample stored present).1]

theorem take_none {middleware changed : Middleware} {slot : Option (Slot SubscriptionState)}
    {message : Option Layout} (told : middleware.take slot message = (.ok none, changed)) :
    changed = middleware := by
  rcases middleware.take_cases slot message with ⟨fault, _, refused⟩ | ⟨_, idle⟩ |
    ⟨_, _, _, _, _, _, _, _, _, failed | ⟨filled, filledIt, _⟩⟩
  · cases refused.symm.trans told
  · exact congrArg Prod.snd (told.symm.trans idle)
  · rw [told] at failed
    cases failed
  · rw [told] at filledIt
    cases filledIt

theorem run_visit_empty (attends : session.Attends callback listener index held state)
    (took : (takeInto held held.kind.fresh).run (session.buffered held.kind) = (.ok none, after)) :
    (visitSubscription callback index).run session =
      (.ok 0, (session.buffered held.kind).unbuffered held.kind) := by
  obtain ⟨middleware, told, rfl⟩ := take_of_takeInto took
  rw [take_none told] at took
  rw [run_visitSubscription attends.found, deliverFront_eq,
    run_receive_otherwise took (fun filled same => nomatch Except.ok.inj same)]
  rfl

theorem run_visit_front (attends : session.Attends callback listener index held state)
    {filled : Layout} {message : Payload}
    (took : (takeInto held held.kind.fresh).run (session.buffered held.kind) = (.ok (some filled), after))
    (decodes : held.kind.decode filled = .ok message) :
    (visitSubscription callback index).run session =
      let told := listener index message session.memory
      ((told.1.mapError Stop.raised).map (fun _ => 1), (handed after index told.2).unbuffered held.kind) := by
  obtain ⟨middleware, _, rfl⟩ := take_of_takeInto took
  have there : ({ session.buffered held.kind with middleware } : Session).subscriptions.get? index =
    some held := attends.found
  rw [run_visitSubscription attends.found, deliverFront_eq, run_receive_taken took,
    handleMessage_of_decode decodes, run_bind, run_handOver attends there]
  generalize told : listener index message ({ session.buffered held.kind with middleware } : Session).memory =
    outcome
  rw [show listener index message session.memory = outcome from told]
  obtain ⟨raised | _, memory⟩ := outcome <;> rfl

theorem delivers_visit_empty (attends : session.Attends callback listener index held state)
    (empty : session.waiting held = [])
    (took : (takeInto held held.kind.fresh).run (session.buffered held.kind) = (.ok none, after)) :
    Delivers listener session [index] (visitSubscription callback index) := by
  have ended := run_visit_empty attends took
  have row : session.row [index] 0 = [] := by
    rw [Session.row_singleton, Session.pending_of_found attends.found, empty]
    rfl
  have buffers : session.middleware.Drains (session.buffered held.kind).middleware :=
    session.middleware.drains_withLedger rfl
  have follows : session.Follows ((session.buffered held.kind).unbuffered held.kind) :=
    Session.follows_middleware (buffers.trans (Middleware.drains_withLedger _ rfl))
  constructor
  · rw [ended, row]
    rfl
  · rw [ended, row]
    rfl
  · rw [ended]
    exact follows
  · rw [ended]
    exact ⟨fun _ => rfl, fun _ => rfl⟩
  · intro other
    rw [ended, row]
    rfl

theorem follows_front (attends : session.Attends callback listener index held state)
    {taken : Option Layout}
    (took : (takeInto held held.kind.fresh).run (session.buffered held.kind) = (.ok taken, after))
    (memory : Memory) : session.Follows ((handed after index memory).unbuffered held.kind) := by
  obtain ⟨middleware, told, rfl⟩ := take_of_takeInto took
  have buffers : session.middleware.Drains (session.buffered held.kind).middleware :=
    session.middleware.drains_withLedger rfl
  have takes : session.Follows { session with middleware } :=
    Session.follows_middleware (buffers.trans (Middleware.drains_take told))
  have there : ({ session with middleware } : Session).subscriptions.get? index = some held := attends.found
  have hands := follows_handed there attends.idle memory
  exact (takes.trans hands).trans (Session.follows_middleware (Middleware.drains_withLedger _ rfl))

theorem pending_front (fit : session.Fit) (attends : session.Attends callback listener index held state)
    {taken : Option Layout}
    (took : (takeInto held held.kind.fresh).run (session.buffered held.kind) = (.ok taken, after))
    (memory : Memory) (other : Nat) :
    ((handed after index memory).unbuffered held.kind).pending other =
      if other = index then (after.waiting held).filterMap session.middleware.transport.store.payload?
      else session.pending other := by
  have follows := follows_front attends took memory
  have sound := follows.middleware.sound fit.sound
  obtain ⟨⟨middleware, rfl⟩, _, endpoints⟩ := Session.takeInto_changes took
  have known : ({ session.buffered held.kind with middleware } : Session).subscriptions.get? index =
    some held := attends.found
  have there := get?_handed known attends.idle memory
  by_cases same : other = index
  · rw [if_pos same, same]
    exact follows.pending sound ((there index).trans attends.found) rfl
  · rw [if_neg same]
    cases found : session.subscriptions.get? other with
    | none =>
        exact (Session.pending_of_gone ((there other).trans found)).trans (Session.pending_of_gone found).symm
    | some elder =>
        have apart : ∀ state, session.subscriptionSlot elder.handle = some state →
            middleware.transport.subscribers.get? state.endpoint =
              session.middleware.transport.subscribers.get? state.endpoint := by
          intro here slot
          refine endpoints here.endpoint (fun own mine equal => same ?_)
          exact fit.apart other index elder held here own found attends.found slot mine equal.symm
        have waits : ((handed { session.buffered held.kind with middleware } index memory).unbuffered
            held.kind).waiting elder = session.waiting elder := Session.waiting_congr rfl apart
        rw [follows.pending sound ((there other).trans found) waits, Session.pending_of_found found]

theorem delivers_visit_front (fit : session.Fit) (attends : session.Attends callback listener index held state)
    {filled : Layout} (took : (takeInto held held.kind.fresh).run (session.buffered held.kind) =
      (.ok (some filled), after)) :
    Delivers listener session [index] (visitSubscription callback index) := by
  obtain ⟨sample, message, waits, told, decodes⟩ := takeInto_front fit attends took
  have ended := run_visit_front attends took decodes
  have pending : session.pending index =
      message :: (after.waiting held).filterMap session.middleware.transport.store.payload? := by
    rw [Session.pending_of_found attends.found, waits, List.filterMap_cons_some told]
  have row : session.row [index] 0 = [(index, message)] := by
    rw [Session.row_singleton, pending]
    rfl
  have left : ∀ memory other, ((handed after index memory).unbuffered held.kind).pending other =
      if other ∈ [index] then (session.pending other).tail else session.pending other := by
    intro memory other
    rw [pending_front fit attends took memory other]
    by_cases same : other = index
    · rw [if_pos same, if_pos (List.mem_singleton.2 same), same, pending, List.tail_cons]
    · rw [if_neg same, if_neg (fun member => same (List.mem_singleton.1 member))]
  obtain ⟨middleware, _, rfl⟩ := take_of_takeInto took
  have owners : ∀ memory, session.SameOwners
      ((handed { session.buffered held.kind with middleware } index memory).unbuffered held.kind) :=
    fun memory => ⟨get?_handed attends.found attends.idle memory, fun _ => rfl⟩
  obtain ⟨messages, memory, ending⟩ := hear_singleton listener index message session.memory
  constructor
  · rw [ended, row, ending]
  · rw [ended, row, memory]
    rfl
  · rw [ended]
    exact follows_front attends took _
  · rw [ended]
    exact owners _
  · intro other
    rw [ended, row, messages]
    exact left _ other

/-- A visit of an attended subscription delivers what is in front there. -/
theorem delivers_visit (fit : session.Fit) (attended : session.Attended callback listener index) :
    Delivers listener session [index] (visitSubscription callback index) := by
  obtain ⟨held, state, attends⟩ := attended
  rcases fst_takeInto attends with ⟨empty, none⟩ | ⟨_, _, filled, _, some⟩
  · exact delivers_visit_empty attends empty (Prod.ext none rfl)
  · exact delivers_visit_front fit attends (Prod.ext some rfl)

theorem delivers_nil (listener : Listener) (session : Session) (visit : Nat → Run Nat) :
    Delivers listener session [] (sumOver visit []) :=
  ⟨rfl, rfl, .refl session, ⟨fun _ => rfl, fun _ => rfl⟩, fun _ => rfl⟩

theorem Delivers.stops {visit : Nat → Run Nat} {item : Nat} {rest first second : List Nat}
    (here : Delivers listener session first (visit item)) {raised : Raised}
    (stopped : (hear listener (session.row first 0) session.memory).raised = some raised) :
    Delivers listener session (first ++ second) (sumOver visit (item :: rest)) := by
  have ended := here.ended
  unfold Heard.ended at ended
  rw [stopped] at ended
  have run : (sumOver visit (item :: rest)).run session =
      (.error (.raised raised), ((visit item).run session).2) := by
    rw [run_sumOver_cons, ← Prod.eta ((visit item).run session), ended]
  have heard : hear listener (session.row (first ++ second) 0) session.memory =
      hear listener (session.row first 0) session.memory := by
    rw [Session.row_append, hear_append_of_some stopped]
  constructor
  · rw [run, heard]
    exact ended.symm.trans here.ended
  · rw [run, heard]
    exact here.memory
  · rw [run]
    exact here.follows
  · rw [run]
    exact here.owners
  · rw [run, heard]
    exact here.taken

theorem Delivers.goesOn {visit : Nat → Run Nat} {item : Nat} {rest first second : List Nat}
    (here : Delivers listener session first (visit item))
    (silent : (hear listener (session.row first 0) session.memory).raised = none)
    (there : Delivers listener ((visit item).run session).2 second (sumOver visit rest))
    (apart : ∀ index ∈ first, index ∉ second) :
    Delivers listener session (first ++ second) (sumOver visit (item :: rest)) := by
  have all := messages_of_none silent
  have ended := here.ended
  unfold Heard.ended at ended
  rw [silent, all] at ended
  have taken := here.taken
  rw [all] at taken
  have listed := (session.fst_row_sublist first 0).subset
  -- What is told later was not touched yet.
  have row : ((visit item).run session).2.row second 0 = session.row second 0 := by
    apply Session.row_congr
    intro index member
    rw [taken index, if_neg (fun early => apart index (listed early) member)]
  have heard := hear_append_of_none silent (session.row second 0)
  have run : (sumOver visit (item :: rest)).run session =
      let ended := (sumOver visit rest).run ((visit item).run session).2
      (ended.1.map (fun others => (session.row first 0).length + others), ended.2) := by
    rw [run_sumOver_cons, ← Prod.eta ((visit item).run session), ended]
  obtain ⟨lateEnded, lateMemory, lateFollows, lateOwners, lateTaken⟩ := there
  rw [row, here.memory] at lateEnded lateMemory lateTaken
  generalize late : hear listener (session.row second 0)
    (hear listener (session.row first 0) session.memory).memory = others at heard lateEnded lateMemory lateTaken
  have within : ∀ index ∈ others.messages.map Prod.fst, index ∈ second := by
    intro index member
    rw [← late] at member
    have initial := (messages_initial listener (session.row second 0)
      (hear listener (session.row first 0) session.memory).memory).map Prod.fst
    exact (session.fst_row_sublist second 0).subset (initial.subset member)
  rw [← Session.row_append] at heard
  constructor
  · rw [run, heard]
    dsimp only
    rw [lateEnded]
    unfold Heard.ended
    dsimp only
    cases others.raised with
    | none => simp only [Except.map, List.length_append]
    | some raised => rfl
  · rw [run, heard]
    exact lateMemory
  · rw [run]
    exact here.follows.trans lateFollows
  · rw [run]
    exact here.owners.trans lateOwners
  · intro index
    rw [run, heard]
    dsimp only
    rw [lateTaken index, taken index, List.map_append]
    by_cases early : index ∈ (session.row first 0).map Prod.fst
    · rw [if_pos early, if_pos (List.mem_append_left _ early),
        if_neg (fun member => apart index (listed early) (within index member))]
    · rw [if_neg early]
      by_cases afterwards : index ∈ others.messages.map Prod.fst
      · rw [if_pos afterwards, if_pos (List.mem_append_right _ afterwards)]
      · rw [if_neg afterwards, if_neg (fun member => (List.mem_append.1 member).elim early afterwards)]

/-- Runs that deliver one after the other deliver for all of their subscriptions. -/
theorem delivers_sumOver {visit : Nat → Run Nat} {indices : Nat → List Nat} {items : List Nat}
    (each : ∀ item ∈ items, ∀ later, session.Follows later → session.SameOwners later →
      Delivers listener later (indices item) (visit item))
    (distinct : (items.flatMap indices).Nodup) :
    Delivers listener session (items.flatMap indices) (sumOver visit items) := by
  induction items generalizing session with
  | nil => exact delivers_nil listener session visit
  | cons item rest ih =>
      rw [List.flatMap_cons, List.nodup_append] at distinct
      obtain ⟨_, later, apart⟩ := distinct
      have here := each item List.mem_cons_self session (.refl session) ⟨fun _ => rfl, fun _ => rfl⟩
      rw [List.flatMap_cons]
      cases outcome : (hear listener (session.row (indices item) 0) session.memory).raised with
      | some raised => exact here.stops outcome
      | none =>
          have there := ih (fun other member last follows owners =>
            each other (List.mem_cons_of_mem _ member) last (here.follows.trans follows)
              (here.owners.trans owners)) later
          exact here.goesOn outcome there (fun index member also => apart index member index also rfl)

end Run

end PubSub
