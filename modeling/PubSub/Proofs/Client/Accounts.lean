import PubSub.Proofs.Client.Standing

/-!
Accounts of the messages in a session.  Every move keeps the shares of samples and the ledger in order, and the log of a
course tells which messages were encoded and released, and what the samples are made of.
-/

namespace PubSub

namespace Ledger

variable (ledger : Ledger) (kind other : MessageKind)

theorem encoded_noteInit :
    ((ledger.noteInit kind).calls other).acquired = (ledger.calls other).acquired ∧
      ((ledger.noteInit kind).calls other).released = (ledger.calls other).released :=
  ⟨ledger.calls_note_same kind other (fun _ => rfl), ledger.calls_note_same kind other (fun _ => rfl)⟩

theorem acquired_noteAcquired :
    ((ledger.noteAcquired kind).calls other).acquired = (ledger.calls other).acquired + [kind].count other := by
  unfold noteAcquired
  rw [calls_note]
  by_cases same : other = kind
  · rw [if_pos same, same, List.count_singleton_self]
  · rw [if_neg same, List.count_eq_zero_of_not_mem (by simpa using same), Nat.add_zero]

theorem released_noteReleased :
    ((ledger.noteReleased kind).calls other).released = (ledger.calls other).released + [kind].count other := by
  unfold noteReleased
  rw [calls_note]
  by_cases same : other = kind
  · rw [if_pos same, same, List.count_singleton_self]
  · rw [if_neg same, List.count_eq_zero_of_not_mem (by simpa using same), Nat.add_zero]

theorem released_noteAcquired :
    ((ledger.noteAcquired kind).calls other).released = (ledger.calls other).released :=
  ledger.calls_note_same kind other (fun _ => rfl)

theorem acquired_noteReleased :
    ((ledger.noteReleased kind).calls other).acquired = (ledger.calls other).acquired :=
  ledger.calls_note_same kind other (fun _ => rfl)

theorem encoded_noteFini :
    ((ledger.noteFini kind).calls other).acquired = (ledger.calls other).acquired ∧
      ((ledger.noteFini kind).calls other).released = (ledger.calls other).released :=
  ⟨ledger.calls_note_same kind other (fun _ => rfl), ledger.calls_note_same kind other (fun _ => rfl)⟩

end Ledger

namespace SampleStore

variable {store : SampleStore}

theorem calls_create_same {Field : Type} {field : Calls → Field} (store : SampleStore)
    (kind other : MessageKind) (message : Layout)
    (init : ∀ calls, field { calls with init := calls.init + 1 } = field calls)
    (fini : ∀ calls, field { calls with fini := calls.fini + 1 } = field calls)
    (copy : ∀ calls, field { calls with copy := calls.copy + 1 } = field calls) :
    field ((store.create kind message).2.ledger.calls other) = field (store.ledger.calls other) := by
  have copied : field (((store.ledger.noteInit kind).copy kind message kind.fresh).2.calls other) =
      field (store.ledger.calls other) :=
    (calls_copy_same _ kind other message kind.fresh copy).trans
      (store.ledger.calls_note_same kind other init)
  unfold create
  generalize (store.ledger.noteInit kind).copy kind message kind.fresh = outcome at copied ⊢
  rcases outcome with ⟨_ | content, ledger⟩
  · exact (ledger.calls_note_same kind other fini).trans copied
  · exact copied

theorem Settled.note {elsewhere : MessageKind → Nat} (settled : store.Settled elsewhere)
    (kind : MessageKind) {change : Calls → Calls}
    (same : ∀ calls, (change calls).init = calls.init ∧ (change calls).fini = calls.fini) :
    ({ store with ledger := store.ledger.note kind change } : SampleStore).Settled elsewhere := by
  intro other
  dsimp only
  rw [@Ledger.calls_note_same _ Calls.init _ kind other _ (fun calls => (same calls).1),
    @Ledger.calls_note_same _ Calls.fini _ kind other _ (fun calls => (same calls).2)]
  exact settled other

theorem Settled.noteInit {buffers : List MessageKind} (settled : store.Settled (buffers.count ·))
    (kind : MessageKind) :
    ({ store with ledger := store.ledger.noteInit kind } : SampleStore).Settled
      ((kind :: buffers).count ·) := by
  intro other
  have before := settled other
  simp only [stored, Ledger.noteInit, Ledger.calls_note, List.count_cons] at before ⊢
  by_cases same : other = kind
  · subst same
    simp only [↓reduceIte, beq_self_eq_true]
    omega
  · have apart : (kind == other) = false := beq_eq_false_iff_ne.2 (Ne.symm same)
    simp only [if_neg same, apart, Bool.false_eq_true, ↓reduceIte]
    omega

theorem Settled.noteFini {kind : MessageKind} {buffers : List MessageKind}
    (settled : store.Settled ((kind :: buffers).count ·)) :
    ({ store with ledger := store.ledger.noteFini kind } : SampleStore).Settled (buffers.count ·) := by
  intro other
  have before := settled other
  simp only [stored, Ledger.noteFini, Ledger.calls_note, List.count_cons] at before ⊢
  by_cases same : other = kind
  · subst same
    simp only [↓reduceIte, beq_self_eq_true] at before ⊢
    omega
  · have apart : (kind == other) = false := beq_eq_false_iff_ne.2 (Ne.symm same)
    simp only [if_neg same, apart, Bool.false_eq_true, ↓reduceIte] at before ⊢
    omega

end SampleStore

theorem Middleware.encoded_publish (middleware : Middleware) (slot : Option (Slot PublisherState))
    (message : Option Layout) (kind : MessageKind) :
    ((middleware.publish slot message).2.ledger.calls kind).acquired =
        (middleware.ledger.calls kind).acquired ∧
      ((middleware.publish slot message).2.ledger.calls kind).released =
        (middleware.ledger.calls kind).released := by
  rcases middleware.publish_store slot message with only | ⟨other, layout, only⟩
  · exact ⟨only.acquired kind, only.released kind⟩
  · have created := fun (field : Calls → Nat) =>
      @SampleStore.calls_create_same _ field middleware.transport.store other kind layout
    exact ⟨(only.acquired kind).trans
        (created Calls.acquired (fun _ => rfl) (fun _ => rfl) (fun _ => rfl)),
      (only.released kind).trans
        (created Calls.released (fun _ => rfl) (fun _ => rfl) (fun _ => rfl))⟩

namespace Scene

variable {scene later : Scene}

/-- What every move does to the samples, and to the calls that were made for them and for other messages. -/
structure Accounts (scene later : Scene) : Prop where
  sound : scene.session.middleware.transport.Sound (fun _ => 0) →
    later.session.middleware.transport.Sound (fun _ => 0)
  settled : scene.session.middleware.transport.store.Settled (scene.buffers.count ·) →
    later.session.middleware.transport.store.Settled (later.buffers.count ·)
  unsent : later.session.middleware.transport.store.samples.next =
      scene.session.middleware.transport.store.samples.next →
    scene.session.middleware.transport.store.Unsent later.session.middleware.transport.store
  calls : later.encoded = scene.encoded → ∀ kind,
    (later.session.middleware.ledger.calls kind).acquired =
        (scene.session.middleware.ledger.calls kind).acquired ∧
      (later.session.middleware.ledger.calls kind).released =
        (scene.session.middleware.ledger.calls kind).released

theorem Accounts.of_reshares (reshares : scene.session.Reshares later.session)
    (buffers : later.buffers = scene.buffers) : scene.Accounts later where
  sound := reshares.sound
  settled := by
    intro settled
    rw [buffers]
    exact settled.sharesOnly reshares.store
  unsent := fun _ => reshares.store.unsent
  calls := fun _ kind => ⟨reshares.store.acquired kind, reshares.store.released kind⟩

/-- A publish may make a sample; what it makes in vain it releases. -/
theorem accounts_publish (slot : Slot PublisherState) (message : Layout) {result : Except Fault Unit}
    {middleware : Middleware}
    (told : (Request.publish slot message).outcome scene.session.middleware = (result, middleware)) :
    scene.Accounts (scene.withSession { scene.session with middleware }) := by
  have same : middleware = (scene.session.middleware.publish (some slot) (some message)).2 :=
    (congrArg Prod.snd told).symm
  subst same
  have books := scene.session.middleware.publish_store (some slot) (some message)
  constructor
  · exact fun sound => scene.session.middleware.sound_publish sound _ _
  · intro settled
    rcases books with only | ⟨kind, layout, only⟩
    · exact settled.sharesOnly only
    · exact (settled.create kind layout).sharesOnly only
  · intro next
    rcases books with only | ⟨kind, layout, only⟩
    · exact only.unsent
    · rcases scene.session.middleware.transport.store.create_cases kind layout with
        ⟨_, _, samples⟩ | ⟨content, _, _, samples⟩
      · exact (SampleStore.Unsent.of_eq samples).trans only.unsent
      · have made := only.next.trans (congrArg Arena.next samples)
        exact absurd (made.symm.trans next) (Nat.succ_ne_self _)
  · exact fun _ kind => scene.session.middleware.encoded_publish _ _ kind

theorem accounts_request {Value : Type} (request : Request Value) {result : Except Fault Value}
    {middleware : Middleware}
    (told : request.outcome scene.session.middleware = (result, middleware)) :
    scene.Accounts (scene.withSession { scene.session with middleware }) := by
  cases quiet : request.publishes with
  | false => exact .of_reshares (request.reshares quiet told) rfl
  | true =>
      cases request with
      | publish slot message => exact accounts_publish slot message told
      | _ => cases quiet

theorem Move.accounts (move : scene.Move later) : scene.Accounts later := by
  cases move with
  | refused request failed =>
      have asked := accounts_request request failed
      exact ⟨asked.sound, asked.settled, asked.unsent, asked.calls⟩
  | answered request uses told => exact accounts_request request told
  | made makes => exact .of_reshares makes.reshares rfl
  | @contextShared name source handle found =>
      exact .of_reshares ((scene.session.retainHandle handle).reshares_nameContext name handle) rfl
  | @contextTaken name node index object found =>
      exact .of_reshares ((scene.session.retainHandle object.context).reshares_nameContext name object.context) rfl
  | @nodeShared name source index object found =>
      exact .of_reshares ((scene.session.retainNode index).reshares_nameNode name index) rfl
  | @subscriptionShared name source index object found =>
      exact .of_reshares ((scene.session.retainSubscription index).reshares_nameSubscription name index) rfl
  | @publisherShared name source publisher found =>
      exact .of_reshares
        ((scene.session.retainHandle publisher.handle).reshares_namePublisher name publisher) rfl
  | @executorMade name context handle threads found =>
      have named := fun executor =>
        (scene.session.retainHandle handle).reshares_nameExecutor name executor
      exact .of_reshares (named _) rfl
  | dropped sort name => exact .of_reshares (scene.session.reshares_drop sort name) rfl
  | executorDropped name => exact .of_reshares (scene.session.reshares_dropExecutor name) rfl
  | nodesKept present => exact .of_reshares (scene.session.reshares_retainNodes _) rfl
  | nodesLeft kept => exact .of_reshares (scene.session.reshares_releaseNodes _) rfl
  | subscriptionsKept present => exact .of_reshares (scene.session.reshares_retainSubscriptions _) rfl
  | subscriptionsLeft kept => exact .of_reshares (scene.session.reshares_releaseSubscriptions _) rfl
  | bufferMade kind =>
      exact ⟨id, fun settled => settled.noteInit kind, fun _ => .of_eq rfl,
        fun _ other => Ledger.encoded_noteInit _ kind other⟩
  | @bufferLeft kind rest kept =>
      refine ⟨id, fun settled => ?_, fun _ => .of_eq rfl,
        fun _ other => Ledger.encoded_noteFini _ kind other⟩
      rw [kept] at settled
      exact settled.noteFini
  | messageEncoded kind =>
      refine ⟨id, fun settled => settled.note kind (fun _ => ⟨rfl, rfl⟩), fun _ => .of_eq rfl, ?_⟩
      exact fun same => absurd same (List.cons_ne_self _ _)
  | @messageReleased kind rest kept =>
      refine ⟨id, fun settled => settled.note kind (fun _ => ⟨rfl, rfl⟩), fun _ => .of_eq rfl, ?_⟩
      exact fun same => absurd (kept.symm.trans same.symm) (List.cons_ne_self _ _)
  | refusalsSet count => exact ⟨id, id, fun _ => .of_eq rfl, fun _ _ => ⟨rfl, rfl⟩⟩
  | _ => exact .of_reshares (.of_eq rfl) rfl

/-- Every sample has one share for each place where it is kept. -/
theorem Reached.sound (reached : scene.Reached) :
    scene.session.middleware.transport.Sound (fun _ => 0) :=
  reached.holds (fun scene => scene.session.middleware.transport.Sound (fun _ => 0))
    (Arena.owned_empty _ (fun _ => rfl)) (fun _ _ _ move => move.accounts.sound)

/-- What was made and not released is the samples, and the buffers of takes that are not done. -/
theorem Reached.settled (reached : scene.Reached) :
    scene.session.middleware.transport.store.Settled (scene.buffers.count ·) :=
  reached.holds
    (fun scene => scene.session.middleware.transport.store.Settled (scene.buffers.count ·))
    (fun _ => rfl) (fun _ _ _ move => move.accounts.settled)

end Scene

namespace Session

variable {session : Session} {publisher : PublisherObject} {datum : Datum} {payload message : Payload}

/-- Whatever becomes of a message, it is encoded once and its encoded form is released once. -/
theorem calls_send (fits : datum.payload publisher.kind = .ok payload)
    (bounded : publisher.kind.accept payload = .ok message) (session : Session) (kind : MessageKind) :
    let before := session.middleware.ledger.calls kind
    let after := ((Run.send publisher datum).run session).2.middleware.ledger.calls kind
    let more := [publisher.kind].count kind
    after.acquired = before.acquired + more ∧ after.released = before.released + more := by
  have asked : ∀ result middleware,
      (Request.publish (session.publisherSlot publisher.handle)
        (publisher.kind.encode message)).outcome
          (session.noteLedger (fun ledger => ledger.noteAcquired publisher.kind)).middleware =
        (result, middleware) →
      let after := (middleware.ledger.noteReleased publisher.kind).calls kind
      let more := [publisher.kind].count kind
      after.acquired = (session.middleware.ledger.calls kind).acquired + more ∧
        after.released = (session.middleware.ledger.calls kind).released + more := by
    intro result middleware outcome
    have same := congrArg Prod.snd outcome
    subst same
    obtain ⟨acquired, released⟩ := (session.noteLedger
      (fun ledger => ledger.noteAcquired publisher.kind)).middleware.encoded_publish
        (some (session.publisherSlot publisher.handle)) (some (publisher.kind.encode message)) kind
    constructor
    · exact ((Ledger.acquired_noteReleased _ _ _).trans acquired).trans (Ledger.acquired_noteAcquired _ _ _)
    · refine (Ledger.released_noteReleased _ _ _).trans (congrArg (· + _) ?_)
      exact released.trans (Ledger.released_noteAcquired _ _ _)
  rcases Run.run_send_cases fits bounded session with
    ⟨middleware, outcome, ends⟩ | ⟨fault, middleware, outcome, ends⟩
  · rw [ends]
    exact asked _ middleware outcome
  · rw [ends]
    exact asked _ middleware outcome

theorem send_sent_or_unsent {state : PublisherState}
    (slot : session.publisherSlot publisher.handle = some state) (its : state.kind = publisher.kind)
    (fits : datum.payload publisher.kind = .ok payload)
    (bounded : publisher.kind.accept payload = .ok message) :
    let store := session.middleware.transport.store
    let sent := ((Run.send publisher datum).run session).2.middleware.transport.store
    let publication := session.publication publisher datum message
    publication.sample = none ∧ store.Unsent sent ∨
      publication.sample = some store.samples.next ∧ store.Sent sent publisher.kind message := by
  intro store sent publication
  obtain ⟨rfl, admits⟩ := MessageKind.admits_of_accept fits bounded
  obtain ⟨whole, reads, _⟩ := MessageKind.fill_of_admits publisher.kind.shapes_fresh admits
  have filled : ∀ layout, some (publisher.kind.encode message) = some layout → layout.Whole := by
    rintro layout ⟨⟩
    exact whole
  let encoded := session.noteLedger (fun ledger => ledger.noteAcquired publisher.kind)
  have becomes := encoded.middleware.publish_sent_or_unsent
    (some (session.publisherSlot publisher.handle)) filled
  rcases Run.run_send_cases fits bounded session with
    ⟨middleware, outcome, ends⟩ | ⟨fault, middleware, outcome, ends⟩
  · right
    rcases becomes with ⟨⟨_, failed⟩, _⟩ | ⟨other, layout, there, same, _, made⟩
    · cases (congrArg Prod.fst outcome).symm.trans failed
    · cases same
      cases (congrArg some slot).symm.trans there
      rw [show (encoded.middleware.publish _ _).2 = middleware from congrArg Prod.snd outcome,
        show (publisher.kind.encode message).payload = message from reads, its] at made
      refine ⟨sample_of_sent ends message, ?_⟩
      change store.Sent ((Run.send publisher datum).run session).2.middleware.transport.store _ _
      rw [ends]
      exact ⟨made.next, made.admits, made.made, made.others⟩
  · left
    rcases becomes with ⟨_, unsent⟩ | ⟨_, _, _, _, granted, _⟩
    · rw [show (encoded.middleware.publish _ _).2 = middleware from congrArg Prod.snd outcome] at unsent
      refine ⟨sample_of_refused ends message, ?_⟩
      change store.Unsent ((Run.send publisher datum).run session).2.middleware.transport.store
      rw [ends]
      exact ⟨unsent.next, unsent.later⟩
    · cases (congrArg Prod.fst outcome).symm.trans granted

end Session

namespace Scene

variable {scene later : Scene} {log : List Publication}

/-- What the log of a course tells of the messages of clients, and of the samples. -/
structure Logged (scene : Scene) (log : List Publication) : Prop where
  encoded : scene.encoded = []
  acquired : ∀ kind, (scene.session.middleware.ledger.calls kind).acquired =
    (log.map Publication.kind).count kind
  released : ∀ kind, (scene.session.middleware.ledger.calls kind).released =
    (log.map Publication.kind).count kind
  traced : scene.session.middleware.transport.store.Traced log
  proper : scene.session.middleware.transport.store.Proper

theorem logged_start : Logged start [] where
  encoded := rfl
  acquired := fun _ => rfl
  released := fun _ => rfl
  traced := SampleStore.traced_empty
  proper := fun _ _ found => nomatch found

theorem Logged.silent (logged : scene.Logged log) (silent : scene.Silent later) : later.Logged log := by
  have accounts := silent.move.accounts
  have unsent := accounts.unsent silent.next
  have calls := accounts.calls silent.encoded
  have traced : later.session.middleware.transport.store.Traced (log ++ []) :=
    logged.traced.unsent unsent nofun
  rw [List.append_nil] at traced
  exact
    { encoded := silent.encoded.trans logged.encoded
      acquired := fun kind => (calls kind).1.trans (logged.acquired kind)
      released := fun kind => (calls kind).2.trans (logged.released kind)
      traced
      proper := logged.proper.unsent unsent }

theorem Logged.published (logged : scene.Logged log) (reached : scene.Reached) {name : String}
    {publisher : PublisherObject} {datum : Datum} {payload message : Payload}
    (found : scene.session.publisherNames.get? name = some publisher)
    (fits : datum.payload publisher.kind = .ok payload)
    (bounded : publisher.kind.accept payload = .ok message) :
    (scene.withSession ((Run.send publisher datum).run scene.session).2).Logged
      (log ++ [scene.session.publication publisher datum message]) := by
  obtain ⟨state, _, _, slot, its, _⟩ := reached.linked.namedPublisher reached.owned found
  have calls := Session.calls_send fits bounded scene.session
  have counted : ∀ kind,
      ((log ++ [scene.session.publication publisher datum message]).map Publication.kind).count kind =
        (log.map Publication.kind).count kind + [publisher.kind].count kind := by
    intro kind
    rw [List.map_append, List.count_append]
    rfl
  have samples := Session.send_sent_or_unsent slot its fits bounded
  refine ⟨logged.encoded, fun kind => ?_, fun kind => ?_, ?_, ?_⟩
  · rw [counted, ← logged.acquired]
    exact (calls kind).1
  · rw [counted, ← logged.released]
    exact (calls kind).2
  · rcases samples with ⟨none, unsent⟩ | ⟨next, sent⟩
    · refine logged.traced.unsent unsent (fun publication listed => ?_)
      rw [List.mem_singleton.1 listed]
      exact none
    · have traced := logged.traced.sent sent
      rw [← next] at traced
      exact traced
  · rcases samples with ⟨_, unsent⟩ | ⟨_, sent⟩
    · exact logged.proper.unsent unsent
    · exact logged.proper.sent sent

theorem Course.logged (course : start.Course log scene) : scene.Logged log := by
  induction course with
  | refl => exact logged_start
  | silent _ silent ih => exact ih.silent silent
  | published course found fits bounded ih => exact ih.published course.moves found fits bounded

theorem Reached.goes_perform (reached : scene.Reached) (limit depth : Nat) {action : Action}
    (orderly : action.orderly = true) :
    scene.Goes (scene.withSession
      ((Run.perform (Run.callbackWithin limit depth) limit action).run scene.session).2) :=
  (Run.proceeds_perform (Run.callbackProceeds_callbackWithin limit depth) limit action orderly scene
    reached).1

theorem goes_run (actions : List Action) (orderly : orderlyAll actions = true) :
    start.Goes (start.withSession (Session.empty.run actions)) := by
  have first : start.Goes (start.withSession .empty) := .refl
  unfold Session.run
  generalize Session.empty = session at first ⊢
  induction actions generalizing session with
  | nil => exact first
  | cons action rest ih =>
      rw [orderlyAll, Bool.and_eq_true] at orderly
      have told : start.Goes (start.withSession { session with calls := [] }) :=
        first.trans (.silent .callsTold rfl rfl)
      have performs := Reached.goes_perform told.moves Session.roundLimit Session.depthLimit orderly.1
      exact ih orderly.2 _ (told.trans performs)

end Scene

end PubSub
