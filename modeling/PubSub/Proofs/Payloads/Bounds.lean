import PubSub.Proofs.Calls.Failure
import PubSub.Proofs.Calls.Takes
import PubSub.Proofs.Client.Operations
import PubSub.Proofs.Payloads.Kinds

/-!
Bounds of texts.  A message is laid out the same way whatever its bound, and is filled without regard to it; the bound
is kept by the copies.  A text that is too long is not copied, so that no sample holds one, and nobody who takes a
message from a subscription comes to decode one.
-/

namespace PubSub

/-- Copies a text over another, unless it is too long; tells whether it did, and what the other then is. -/
def TextBuffer.copyWithin (destination : TextBuffer) (bound : Nat) (source : TextBuffer) :
    Bool × TextBuffer :=
  if bound < source.size then (false, destination) else destination.copyFrom source

theorem TextBuffer.snd_copyWithin {destination : TextBuffer} {bound : Nat} {source : TextBuffer}
    (refused : (destination.copyWithin bound source).1 = false) :
    (destination.copyWithin bound source).2 = destination := by
  unfold copyWithin copyFrom assignFirst at refused ⊢
  by_cases long : bound < source.size
  · rw [if_pos long]
  · rw [if_neg long] at refused ⊢
    cases data : source.data? with
    | none =>
        rw [data] at refused
        by_cases empty : source.size = 0
        · rw [if_pos empty] at refused
          cases refused
        · rw [if_neg empty]
    | some bytes =>
        rw [data] at refused
        cases refused

namespace MessageKind

variable {bound : Nat}

theorem copy_boundedText (bound : Nat) (source destination : TextBuffer) :
    (boundedText bound).copy (.text source) (.text destination) =
      if (destination.copyWithin bound source).1 then
        some (.text (destination.copyWithin bound source).2)
      else none := by
  unfold copy TextBuffer.copyWithin
  dsimp only
  rw [if_neg (show ¬(boundedText bound).isNumeric = true from Bool.false_ne_true),
    show (boundedText bound).bound? = some bound from rfl, Option.any_some]
  by_cases long : bound < source.size
  · rw [if_pos (decide_eq_true long), if_pos long]
    rfl
  · rw [if_neg (by rw [decide_eq_true_iff]; exact long), if_neg long]
    rcases destination.copyFrom source with ⟨_ | _, _⟩ <;> rfl

theorem copy_overlong {source : TextBuffer} (long : bound < source.size) (destination : Layout) :
    (boundedText bound).copy (.text source) destination = none := by
  cases destination with
  | number value => rfl
  | text buffer =>
      rw [copy_boundedText]
      unfold TextBuffer.copyWithin
      rw [if_pos long]
      rfl

end MessageKind

/-- A text that is too long is not published, whatever it is laid out in. -/
theorem Middleware.fst_publish_overlong (middleware : Middleware) {slot : Option (Slot PublisherState)}
    {bound : Nat} {buffer : TextBuffer} (long : bound < buffer.size)
    (kinds : ∀ state, slot = some (some state) → state.kind = .boundedText bound) :
    (middleware.publish slot (some (.text buffer))).1 =
      if (middleware.validPublisher? slot).isSome then
        .error (.messageNotCopied (MessageKind.boundedText bound).typeName)
      else .error .publisherNotValid := by
  unfold publish
  cases valid : middleware.validPublisher? slot with
  | none => rfl
  | some state =>
      have kind := kinds state (validPublisher?_cases valid).1
      have refused : ∀ ledger : Ledger, (ledger.copy (.boundedText bound) (.text buffer)
          (MessageKind.boundedText bound).fresh).1 = none := by
        intro ledger
        unfold Ledger.copy
        rw [if_neg (fun both => nomatch both.1)]
        exact MessageKind.copy_overlong long (MessageKind.boundedText bound).fresh
      dsimp only
      rw [kind]
      rcases SampleStore.create_cases middleware.transport.store (.boundedText bound) (.text buffer) with
        ⟨_, none, _⟩ | ⟨content, copied, _, _⟩
      · generalize middleware.transport.store.create (.boundedText bound) (.text buffer) = outcome
          at none
        obtain ⟨_, store⟩ := outcome
        cases none
        rfl
      · rw [refused] at copied
        cases copied

namespace Workspace

variable {workspace : Workspace} {log : List Publication} {bound : Nat} {sample : Nat}

def Fits (workspace : Workspace) (bound sample : Nat) : Prop :=
  ∃ stored bytes, workspace.middleware.transport.store.samples.get? sample = some stored ∧
    stored.kind = .boundedText bound ∧ stored.content.payload = .text bytes ∧ bytes.length ≤ bound

/-- How a bound is kept: by publishes and copies, in the samples, and so for whoever takes a message. -/
structure KeepsBound (workspace : Workspace) (bound : Nat) : Prop where
  /-- A text that is too long is refused, if the publisher is valid at all, and then nothing changes. -/
  refused : ∀ name datum bytes, workspace.publisherKinds.get? name = some (.boundedText bound) →
    datum.payload (.boundedText bound) = .ok (.text bytes) → bound < bytes.length →
      (workspace.step (.publish (some name) (some datum))).1 =
          .status
            (if (workspace.middleware.validPublisher? (slot workspace.publishers (some name))).isSome then
              .error
            else .publisherInvalid) ∧
        workspace.Undisturbed (workspace.step (.publish (some name) (some datum))).2
  samples : ∀ sample stored, workspace.middleware.transport.store.samples.get? sample = some stored →
    stored.kind = .boundedText bound → workspace.Fits bound sample
  waiting : ∀ name state held, workspace.subscriptions.get? name = some state →
    state.kind = .boundedText bound →
      workspace.middleware.transport.subscribers.get? state.endpoint = some held →
        ∀ sample ∈ held.queue.waiting, workspace.Fits bound sample
  retained : ∀ name state held, workspace.publishers.get? name = some state →
    state.kind = .boundedText bound →
      workspace.middleware.transport.publishers.get? state.endpoint = some held →
        ∀ sample ∈ held.history, workspace.Fits bound sample
  /-- Whatever a message is taken into, it is decoded, and a callback is given what it says. -/
  taken : ∀ name state destination filled, workspace.subscriptions.get? name = some state →
    state.kind = .boundedText bound →
      (workspace.middleware.take (slot workspace.subscriptions (some name)) (some destination)).1 =
          .ok (some filled) →
        ∃ bytes, bytes.length ≤ bound ∧ filled.payload = .text bytes ∧
          Run.decode (.boundedText bound) filled = pure (.text bytes) ∧
            ∀ callback index subscription, subscription.kind = .boundedText bound →
              Run.handleMessage callback index subscription (.boundedText bound) filled =
                Run.handOver callback index subscription (.text bytes)
  /-- Whatever is not copied is left alone. -/
  copies : ∀ source destination : TextBuffer,
    (MessageKind.boundedText bound).copy (.text source) (.text destination) =
        (if (destination.copyWithin bound source).1 then
          some (.text (destination.copyWithin bound source).2)
        else none) ∧
      ((destination.copyWithin bound source).1 = false →
        (destination.copyWithin bound source).2 = destination)

theorem Logged.publish_overlong (logged : Logged workspace log) {name : String} {datum : Datum}
    {bytes : Bytes} (known : workspace.publisherKinds.get? name = some (.boundedText bound))
    (fits : datum.payload (.boundedText bound) = .ok (.text bytes)) (long : bound < bytes.length) :
    (workspace.step (.publish (some name) (some datum))).1 =
      .status
        (if (workspace.middleware.validPublisher? (slot workspace.publishers (some name))).isSome then
          .error
        else .publisherInvalid) := by
  have kind : (kindOf workspace.publisherKinds (some name)).getD .int64 = .boundedText bound :=
    congrArg (fun kind => kind.getD .int64) known
  have kinds : ∀ state, slot workspace.publishers (some name) = some (some state) →
      state.kind = .boundedText bound := by
    intro state held
    have found : workspace.publishers.get? name = some state := Option.some.inj held
    exact Option.some.inj ((logged.buffered name state found).symm.trans known)
  have stored : bound < (TextBuffer.fresh.store bytes).size := long
  have told := ((workspace.middleware.withLedger
    (workspace.middleware.ledger.noteInit (.boundedText bound)))).fst_publish_overlong stored kinds
  rw [step_publish kind fits]
  refine (congrArg (fun result => Answer.status (statusOf result)) told).trans ?_
  change Answer.status (statusOf (if (workspace.middleware.validPublisher? _).isSome = true then _
    else _)) = _
  split <;> rfl

theorem fits_of_proper (proper : workspace.middleware.transport.store.Proper) {stored : Sample}
    (found : workspace.middleware.transport.store.samples.get? sample = some stored)
    (kind : stored.kind = .boundedText bound) : workspace.Fits bound sample := by
  obtain ⟨_, _, admits⟩ := proper sample stored found
  rw [kind] at admits
  cases told : stored.content.payload with
  | number value =>
      rw [told] at admits
      cases admits
  | text bytes =>
      rw [told] at admits
      exact ⟨stored, bytes, found, kind, told, admits.2 bound rfl⟩

theorem Traceable.taken_fits (traceable : Traceable workspace log) {name : String}
    {state : SubscriptionState} (found : workspace.subscriptions.get? name = some state)
    (kind : state.kind = .boundedText bound) {destination filled : Layout}
    (told : (workspace.middleware.take (slot workspace.subscriptions (some name))
      (some destination)).1 = .ok (some filled)) :
    ∃ bytes, bytes.length ≤ bound ∧ filled.payload = .text bytes := by
  rcases workspace.middleware.take_cases (slot workspace.subscriptions (some name))
      (some destination) with
    ⟨fault, _, failed⟩ | ⟨_, idle⟩ | ⟨its, sample, taken, reason, ledger, _, there, front, _, reads⟩
  · rw [failed] at told
    cases told
  · rw [idle] at told
    cases told
  · cases (slot_eq found).symm.trans there
    obtain ⟨held, queue, endpoint, popped, rfl⟩ := Transport.takeSample_eq_some front
    have waits : sample ∈ held.queue.waiting := by
      rw [SampleQueue.waiting_of_pop popped]
      exact List.mem_cons_self
    obtain ⟨stored, present, same⟩ := traceable.waiting found endpoint waits
    obtain ⟨_, bytes, also, _, contents, short⟩ :=
      fits_of_proper traceable.logged.proper present (same.trans kind)
    cases present.symm.trans also
    rcases reads with refused | ⟨copied, done, exact⟩
    · rw [refused] at told
      cases told
    · cases done.symm.trans told
      refine ⟨bytes, short, ?_⟩
      rw [exact stored present (traceable.logged.proper sample stored present).1, contents]

/-- Wherever calls lead, no copy, no sample and no take goes beyond a bound. -/
theorem keepsBound_run (actions : List Action) (bound : Nat) :
    (empty.run actions).KeepsBound bound := by
  have traceable := traceable_run actions
  generalize empty.run actions = workspace at traceable
  constructor
  · intro name datum bytes known fits long
    have answered := traceable.logged.publish_overlong known fits long
    refine ⟨answered, (failed_undisturbed workspace (.publish (some name) (some datum)) rfl ?_).2⟩
    rw [answered]
    split <;> rfl
  · exact fun sample stored found kind => fits_of_proper traceable.logged.proper found kind
  · intro name state held found kind endpoint sample member
    obtain ⟨stored, there, same⟩ := traceable.waiting found endpoint member
    exact fits_of_proper traceable.logged.proper there (same.trans kind)
  · intro name state held found kind endpoint sample member
    obtain ⟨stored, there, same⟩ := traceable.retained found endpoint member
    exact fits_of_proper traceable.logged.proper there (same.trans kind)
  · intro name state destination filled found kind told
    obtain ⟨bytes, short, reads⟩ := traceable.taken_fits found kind told
    have admits : (MessageKind.boundedText bound).Admits (.text bytes) := by
      refine ⟨rfl, ?_⟩
      rintro other ⟨⟩
      exact short
    have decodes : (MessageKind.boundedText bound).decode filled = .ok (.text bytes) := by
      unfold MessageKind.decode
      rw [reads]
      exact MessageKind.accept_of_admits admits
    refine ⟨bytes, short, reads, ?_, ?_⟩
    · unfold Run.decode
      rw [decodes]
    · intro callback index subscription its
      rw [← its] at decodes ⊢
      exact Run.handleMessage_of_decode decodes
  · exact fun source destination =>
      ⟨MessageKind.copy_boundedText bound source destination, TextBuffer.snd_copyWithin⟩

def silenced : List Action :=
  [.initContext (some "context") (some []) 0,
    .initNode (some "node") (some (Bytes.ofString "talker")) (some (Bytes.ofString "/"))
      (some "context") (some false),
    .initPublisher (some "publisher") (some "node") (some (.complete (.boundedText 5)))
      (some (Bytes.ofString "chatter")) (some Qos.standard),
    .shutdown (some "context")]

/-- A text that is too long is not refused for its length where the publisher is not valid any more. -/
theorem overlong_refused_as_invalid :
    (empty.run silenced).publisherKinds.get? "publisher" = some (.boundedText 5) ∧
      5 < (Bytes.ofString "too long").length ∧
      ((empty.run silenced).step
        (.publish (some "publisher") (some (.text (Bytes.ofString "too long"))))).1 =
          .status .publisherInvalid := by
  decide +kernel

end Workspace

end PubSub
