import PubSub.Proofs.Client.Accounts
import PubSub.Proofs.Client.Failures
import PubSub.Proofs.Payloads.Kinds

/-!
Deliveries.  What is taken is what was published: the message of the very publish that made the sample in front, whatever
the destination held before, and a client that takes it returns that message or hands it to the callback.
-/

namespace PubSub

theorem MessageKind.eq_of_accept {kind : MessageKind} {payload accepted : Payload}
    (bounded : kind.accept payload = .ok accepted) : accepted = payload := by
  cases kind with
  | boundedText bound =>
      cases payload with
      | number value =>
          cases bounded
          rfl
      | text bytes =>
          unfold accept BoundedText.ofBytes at bounded
          dsimp only at bounded
          by_cases short : bytes.length ≤ bound
          · rw [dif_pos short] at bounded
            cases bounded
            rfl
          · rw [dif_neg short] at bounded
            cases bounded
  | _ =>
      cases bounded
      rfl

namespace Workspace

variable {workspace : Workspace} {log : List Publication}

/--
Whoever takes the message in front gets what one publish sent, if the context runs and no copy is refused: all of it and
nothing else, whatever the destination held.
-/
structure Carries (workspace : Workspace) (log : List Publication) : Prop where
  front : ∀ name state held sample rest, workspace.subscriptions.get? name = some state →
    workspace.middleware.transport.subscribers.get? state.endpoint = some held →
      held.queue.waiting = sample :: rest →
        ∃ publication ∈ log, publication.sample = some sample ∧
          (∀ other ∈ log, other.sample = some sample → other = publication) ∧
          ∀ destination, state.kind.Shapes destination →
            (workspace.middleware.take (some (some state)) (some destination)).1 =
                (if workspace.middleware.transport.isValid held.context then
                  if state.kind = .counted ∧ 0 < workspace.middleware.ledger.refusals then
                    .error (.messageNotCopied state.kind.typeName)
                  else .ok (some (destination.fill publication.message))
                else .error .subscriptionNotValid) ∧
              (destination.fill publication.message).payload = publication.message ∧
              (destination.fill publication.message).Terminated

theorem Traceable.carries (traceable : Traceable workspace log) : workspace.Carries log := by
  constructor
  intro name state held sample rest found endpoint waits
  have member : sample ∈ held.queue.waiting := by
    rw [waits]
    exact List.mem_cons_self
  obtain ⟨stored, there, same⟩ := traceable.waiting found endpoint member
  obtain ⟨publication, listed, its, _, admits, content⟩ :=
    traceable.logged.traced.told sample stored there
  rw [same] at admits content
  refine ⟨publication, listed, its, fun other also mine =>
    traceable.logged.traced.eq_of_sample also listed mine its, fun destination shaped => ?_⟩
  obtain ⟨whole, reads, _⟩ := MessageKind.fill_of_admits state.kind.shapes_fresh admits
  have copies : state.kind.copy (state.kind.fresh.fill publication.message) destination =
      some (destination.fill publication.message) := by
    refine (MessageKind.copy_eq_some_iff whole).2 ⟨?_, shaped, ?_⟩
    · rw [reads]
      exact admits
    · rw [reads]
  refine ⟨?_, (MessageKind.fill_of_admits shaped admits).2.1, MessageKind.terminated_fill shaped admits⟩
  refine (Request.outcome_take_waiting endpoint destination).trans ?_
  congr 1
  rw [waits]
  dsimp only
  have sampled : workspace.middleware.transport.store.content state.kind sample =
      state.kind.fresh.fill publication.message := by
    unfold SampleStore.content
    rw [there]
    exact content
  rw [sampled]
  unfold Ledger.copy
  by_cases refused : state.kind = .counted ∧ 0 < workspace.middleware.ledger.refusals
  · rw [if_pos refused, if_pos refused]
  · rw [if_neg refused, if_neg refused]
    dsimp only
    rw [copies]

end Workspace

namespace Session

def buffered (session : Session) (kind : MessageKind) : Session :=
  session.noteLedger (fun ledger => ledger.noteInit kind)

/-- A session where a message of a kind was released. -/
def unbuffered (session : Session) (kind : MessageKind) : Session :=
  session.noteLedger (fun ledger => ledger.noteFini kind)

end Session

namespace Run

variable {Value : Type} {session after : Session} {subscription : SubscriptionObject}

theorem run_withBuffer (kind : MessageKind) (use : Layout → Run Value) (session : Session) :
    (withBuffer kind use).run session =
      let ended := (use kind.fresh).run (session.buffered kind)
      (ended.1, ended.2.unbuffered kind) := rfl

def receive (subscription : SubscriptionObject) (nothing : Value) (next : Layout → Run Value) :
    Run Value :=
  withBuffer subscription.kind (fun buffer => do
    match ← takeInto subscription buffer with
    | none => return nothing
    | some filled => next filled)

theorem takeMessage_eq (subscription : SubscriptionObject) :
    takeMessage subscription =
      receive subscription none (fun filled => return some (← decode subscription.kind filled)) := rfl

theorem deliverFront_eq (callback : Callback) (index : Nat) (subscription : SubscriptionObject) :
    deliverFront callback index subscription =
      receive subscription false (fun filled => do
        handleMessage callback index subscription subscription.kind filled
        return true) := rfl

theorem run_receive_taken {nothing : Value} {next : Layout → Run Value} {filled : Layout}
    (took : (takeInto subscription subscription.kind.fresh).run (session.buffered subscription.kind) =
      (.ok (some filled), after)) :
    (receive subscription nothing next).run session =
      let ended := (next filled).run after
      (ended.1, ended.2.unbuffered subscription.kind) := by
  unfold receive
  rw [run_withBuffer, run_bind, took]

theorem run_receive_otherwise {nothing : Value} {next : Layout → Run Value}
    {ended : Except Stop (Option Layout)}
    (took : (takeInto subscription subscription.kind.fresh).run (session.buffered subscription.kind) =
      (ended, after))
    (empty : ∀ filled, ended ≠ .ok (some filled)) :
    (receive subscription nothing next).run session =
      (ended.map (fun _ => nothing), after.unbuffered subscription.kind) := by
  unfold receive
  rw [run_withBuffer, run_bind, took]
  rcases ended with stop | _ | filled
  · rfl
  · rfl
  · exact absurd rfl (empty filled)

end Run

namespace Session

variable {session : Session} {log : List Publication}

theorem holds_of_subscriptionSlot {handle : Nat} {state : SubscriptionState}
    (slot : session.subscriptionSlot handle = some state) :
    ∃ parent, session.Holds handle (.subscription (some state)) parent := by
  unfold subscriptionSlot at slot
  split at slot
  · rename_i found
    subst slot
    exact ⟨_, _, found, rfl, rfl⟩
  · cases slot

/--
Whoever takes from a subscription gets the message of the one publish whose sample was in front: it is returned, or the
callback is given it.  Where nothing is taken, nothing is returned, and no callback runs.
-/
structure HandsOver (session : Session) (log : List Publication) : Prop where
  taken : ∀ index subscription filled after, session.subscriptions.get? index = some subscription →
    (Run.takeInto subscription subscription.kind.fresh).run (session.buffered subscription.kind) =
        (.ok (some filled), after) →
      ∃ sample, ∃ publication ∈ log, publication.sample = some sample ∧
        (∀ other ∈ log, other.sample = some sample → other = publication) ∧
        session.waiting subscription = sample :: after.waiting subscription ∧
        (Run.takeMessage subscription).run session =
          (.ok (some publication.message), after.unbuffered subscription.kind) ∧
        ∀ callback, (Run.deliverFront callback index subscription).run session =
          let ended := (Run.handOver callback index subscription publication.message).run after
          (ended.1.map (fun _ => true), ended.2.unbuffered subscription.kind)
  otherwise : ∀ subscription ended after,
    (Run.takeInto subscription subscription.kind.fresh).run (session.buffered subscription.kind) =
        (ended, after) →
      (∀ filled, ended ≠ .ok (some filled)) →
        (Run.takeMessage subscription).run session =
            (ended.map (fun _ => none), after.unbuffered subscription.kind) ∧
          ∀ callback index, (Run.deliverFront callback index subscription).run session =
            (ended.map (fun _ => false), after.unbuffered subscription.kind)

/-- What fills the buffer is decoded as the message of the publish that the sample is from. -/
theorem decode_of_takeInto {scene : Scene} (course : Scene.start.Course log scene) {index : Nat}
    {subscription : SubscriptionObject} {filled : Layout} {after : Session}
    (found : scene.session.subscriptions.get? index = some subscription)
    (took : (Run.takeInto subscription subscription.kind.fresh).run
      (scene.session.buffered subscription.kind) = (.ok (some filled), after)) :
    ∃ sample, ∃ publication ∈ log, publication.sample = some sample ∧
      (∀ other ∈ log, other.sample = some sample → other = publication) ∧
      scene.session.waiting subscription = sample :: after.waiting subscription ∧
      subscription.kind.decode filled = .ok publication.message := by
  have reached : scene.Reached := course.moves
  have logged := course.logged
  obtain ⟨state, held, sample, slot, endpoint, member, waits, answered, reads⟩ :=
    Session.takeInto_taken took
  obtain ⟨parent, holds⟩ := holds_of_subscriptionSlot slot
  obtain ⟨_, same, its⟩ := reached.linked.subscription index subscription _ parent found holds
  cases same
  obtain ⟨stored, there⟩ := reached.sound.exists_of_waiting endpoint member
  obtain ⟨publication, listed, mine, _, admits, content⟩ := logged.traced.told sample stored there
  have told : filled.payload = publication.message := by
    obtain ⟨_, contents, _⟩ := MessageKind.fill_of_admits stored.kind.shapes_fresh admits
    rw [reads stored there (logged.proper sample stored there).1, content, contents]
  obtain ⟨_, copied⟩ := Request.copied_of_taken endpoint (Prod.ext answered rfl)
  obtain ⟨message, decodes⟩ := MessageKind.decode_of_copy copied
  refine ⟨sample, publication, listed, mine, fun other also its =>
    logged.traced.eq_of_sample also listed its mine, waits, ?_⟩
  rw [← its, decodes, MessageKind.eq_of_accept decodes, told]

theorem handsOver_of_course {scene : Scene} (course : Scene.start.Course log scene) :
    scene.session.HandsOver log := by
  constructor
  · intro index subscription filled after found took
    obtain ⟨sample, publication, listed, mine, only, waits, decoded⟩ :=
      decode_of_takeInto course found took
    refine ⟨sample, publication, listed, mine, only, waits, ?_, fun callback => ?_⟩
    · rw [Run.takeMessage_eq, Run.run_receive_taken took]
      dsimp only
      unfold Run.decode
      rw [decoded]
      rfl
    · rw [Run.deliverFront_eq, Run.run_receive_taken took]
      dsimp only
      rw [Run.handleMessage_of_decode decoded, Run.run_bind]
      generalize (Run.handOver callback index subscription publication.message).run after = ended
      rcases ended with ⟨_ | _, _⟩ <;> rfl
  · intro subscription ended after took nothing
    constructor
    · rw [Run.takeMessage_eq]
      exact Run.run_receive_otherwise took nothing
    · intro callback index
      rw [Run.deliverFront_eq]
      exact Run.run_receive_otherwise took nothing

end Session

/--
A value is what its own message says.  Along every run of calls, whoever takes gets the message of one publish, whatever
the destination held before; and along every course of a client, so does whoever takes and every callback.
-/
theorem payloads_survive :
    (∀ (kind : MessageKind) (payload : Payload), kind.Admits payload →
        kind.decode (kind.encode payload) = .ok payload) ∧
      (∀ actions, (Workspace.empty.run actions).Carries (Workspace.empty.publications actions)) ∧
      (∀ actions, orderlyAll actions = true →
        Scene.start.Goes (Scene.start.withSession (Session.empty.run actions))) ∧
      ∀ scene log, Scene.start.Course log scene → scene.session.HandsOver log :=
  ⟨fun _ _ => MessageKind.decode_encode, fun actions => (Workspace.traceable_run actions).carries,
    Scene.goes_run, fun _ _ => Session.handsOver_of_course⟩

namespace Workspace

/-- A text with a zero byte in it waits for a subscription. -/
def zeroByteSent : List Action :=
  [.initContext (some "context") (some []) 0,
    .initNode (some "node") (some (Bytes.ofString "a")) (some (Bytes.ofString "/"))
      (some "context") (some false),
    .initPublisher (some "publisher") (some "node") (some (.complete .text))
      (some (Bytes.ofString "chatter")) (some Qos.standard),
    .initSubscription (some "subscription") (some "node") (some (.complete .text))
      (some (Bytes.ofString "chatter")) (some Qos.standard),
    .publish (some "publisher") (some (.text [97, 0, 98]))]

theorem waits_zeroByteSent :
    ∃ state held, (empty.run zeroByteSent).subscriptions.get? "subscription" = some state ∧
      state.kind = .text ∧
      (empty.run zeroByteSent).middleware.transport.subscribers.get? state.endpoint = some held ∧
      held.queue.waiting = [0] ∧
      (empty.run zeroByteSent).middleware.transport.isValid held.context = true :=
  ⟨_, _, rfl, by decide +kernel, rfl, by decide +kernel, by decide +kernel⟩

theorem message_zeroByteSent {publication : Publication}
    (listed : publication ∈ empty.publications zeroByteSent) : publication.message = .text [97, 0, 98] := by
  have sent : (empty.publications zeroByteSent).map Publication.message = [.text [97, 0, 98]] := by
    decide +kernel
  exact List.mem_singleton.1 (sent ▸ List.mem_map_of_mem listed)

end Workspace

namespace Session

/-- A client sends a text with a zero byte in it, and it waits for a subscription. -/
def zeroByteSent : List Action :=
  [.makeContext "context" [],
    .makeNode "node" "context" (Bytes.ofString "a") (Bytes.ofString "/"),
    .makePublisher "publisher" "node" .text (Bytes.ofString "chatter") Qos.standard,
    .makeSubscription "subscription" "node" .text (Bytes.ofString "chatter") Qos.standard false [],
    .publish "publisher" (.given (.text [97, 0, 98]))]

theorem takes_zeroByteSent :
    ∃ subscription filled, (empty.run zeroByteSent).subscriptions.get? 0 = some subscription ∧
      ((Run.takeInto subscription subscription.kind.fresh).run
        ((empty.run zeroByteSent).buffered subscription.kind)).1 = .ok (some filled) ∧
      ((Run.takeMessage subscription).run (empty.run zeroByteSent)).1 =
        .ok (some (.text [97, 0, 98])) :=
  ⟨_, _, rfl, rfl, rfl⟩

end Session

/-- The text arrives whole where a longer one was, and a client that takes it is given it. -/
theorem payloads_survive_zero_byte :
    (MessageKind.boundedText 3).decode ((MessageKind.boundedText 3).encode (.text [97, 0, 98])) =
        .ok (.text [97, 0, 98]) ∧
      (∃ state, (Workspace.empty.run Workspace.zeroByteSent).subscriptions.get? "subscription" =
          some state ∧
        let longer := Layout.text (TextBuffer.fresh.store (Bytes.ofString "longer"))
        ((Workspace.empty.run Workspace.zeroByteSent).middleware.take (some (some state))
            (some longer)).1 = .ok (some (longer.fill (.text [97, 0, 98]))) ∧
          (longer.fill (.text [97, 0, 98])).payload = .text [97, 0, 98]) ∧
      ∃ log, Scene.start.Course log (Scene.start.withSession (Session.empty.run Session.zeroByteSent)) ∧
        ∃ publication ∈ log, publication.message = .text [97, 0, 98] ∧ ∃ subscription,
          (Session.empty.run Session.zeroByteSent).subscriptions.get? 0 = some subscription ∧
            ((Run.takeMessage subscription).run (Session.empty.run Session.zeroByteSent)).1 =
              .ok (some publication.message) := by
  obtain ⟨round, native, goes, client⟩ := payloads_survive
  refine ⟨round (.boundedText 3) (.text [97, 0, 98]) ⟨rfl, by rintro bound ⟨⟩; decide⟩, ?_, ?_⟩
  · obtain ⟨state, held, found, kind, endpoint, waits, runs⟩ := Workspace.waits_zeroByteSent
    obtain ⟨publication, listed, _, _, reads⟩ :=
      (native Workspace.zeroByteSent).front "subscription" state held 0 [] found endpoint waits
    obtain ⟨taken, whole, _⟩ := reads (.text (TextBuffer.fresh.store (Bytes.ofString "longer")))
      (kind ▸ rfl)
    have other : ¬(state.kind = .counted ∧
        0 < (Workspace.empty.run Workspace.zeroByteSent).middleware.ledger.refusals) := by
      rw [kind]
      exact fun both => nomatch both.1
    rw [if_pos runs, if_neg other, Workspace.message_zeroByteSent listed] at taken
    rw [Workspace.message_zeroByteSent listed] at whole
    exact ⟨state, found, taken, whole⟩
  · obtain ⟨log, course⟩ := goes Session.zeroByteSent rfl
    obtain ⟨subscription, filled, found, took, text⟩ := Session.takes_zeroByteSent
    obtain ⟨_, publication, listed, _, _, _, returned, _⟩ :=
      (client _ log course).taken 0 subscription filled _ found (Prod.ext took rfl)
    have answered := congrArg Prod.fst returned
    have message : publication.message = .text [97, 0, 98] :=
      Option.some.inj (Except.ok.inj (answered.symm.trans text))
    exact ⟨log, course, publication, listed, message, subscription, found, answered⟩

end PubSub
