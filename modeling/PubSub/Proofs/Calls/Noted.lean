import PubSub.Proofs.Initialisation
import PubSub.Proofs.Shares.Store

/-!
Calls that leave no trace but notes.  A call that fails gives a reason, and may have made and released messages
meanwhile; everything else is as it was.  What a call comes to where it succeeds is told here too, one statement
for each call.
-/

namespace PubSub

namespace Ledger

theorem live_noteInit (ledger : Ledger) (kind other : MessageKind) :
    (ledger.noteInit kind).live other = ledger.live other + if other = kind then 1 else 0 := by
  unfold live noteInit
  rw [calls_note]
  by_cases same : other = kind
  · subst other
    rw [if_pos rfl, if_pos rfl]
    dsimp only
    omega
  · rw [if_neg same, if_neg same, Int.add_zero]

theorem live_noteFini (ledger : Ledger) (kind other : MessageKind) :
    (ledger.noteFini kind).live other = ledger.live other - if other = kind then 1 else 0 := by
  unfold live noteFini
  rw [calls_note]
  by_cases same : other = kind
  · subst other
    rw [if_pos rfl, if_pos rfl]
    dsimp only
    omega
  · rw [if_neg same, if_neg same, Int.sub_zero]

theorem live_copy (ledger : Ledger) (kind other : MessageKind) (source destination : Layout) :
    (ledger.copy kind source destination).2.live other = ledger.live other := by
  obtain ⟨init, fini⟩ := SampleStore.calls_copy ledger kind other source destination
  unfold live
  rw [init, fini]

end Ledger

namespace SampleStore

theorem create_eq_none {store created : SampleStore} {kind : MessageKind} {message : Layout}
    (refused : store.create kind message = (none, created)) :
    created.samples = store.samples ∧ ∀ other, created.ledger.live other = store.ledger.live other := by
  have copied := fun other => (store.ledger.noteInit kind).live_copy kind other message kind.fresh
  unfold create at refused
  generalize (store.ledger.noteInit kind).copy kind message kind.fresh = outcome at copied refused
  rcases outcome with ⟨_ | content, ledger⟩
  · cases refused
    refine ⟨rfl, fun other => ?_⟩
    have same : ledger.live other = (store.ledger.noteInit kind).live other := copied other
    rw [Ledger.live_noteFini, same, Ledger.live_noteInit]
    omega
  · cases refused

theorem samples_release (store : SampleStore) (ledger : Ledger) (sample : Nat) :
    (({ store with ledger } : SampleStore).release sample).samples = (store.release sample).samples := by
  unfold release
  dsimp only
  cases store.samples.get? sample with
  | none => rfl
  | some held =>
      dsimp only
      split <;> rfl

end SampleStore

def Transport.sendOut (transport : Transport) (topic : Topic) (publisher sample : Nat) : Transport :=
  let sent := transport.publish topic publisher sample
  sent.withStore (sent.store.release sample)

namespace Middleware

variable {middleware before between after : Middleware}

/-- A middleware with another reason and another ledger. -/
def recount (middleware : Middleware) (reason : Bytes) (ledger : Ledger) : Middleware :=
  { middleware.withLedger ledger with reason }

def Noted (before after : Middleware) : Prop :=
  ∃ reason ledger, after = before.recount reason ledger ∧
    ∀ kind, ledger.live kind = before.ledger.live kind

theorem Noted.refl (middleware : Middleware) : middleware.Noted middleware :=
  ⟨middleware.reason, middleware.ledger, rfl, fun _ => rfl⟩

theorem Noted.trans (early : before.Noted between) (late : between.Noted after) :
    before.Noted after := by
  obtain ⟨first, start, rfl, same⟩ := early
  obtain ⟨reason, ledger, rfl, still⟩ := late
  exact ⟨reason, ledger, rfl, fun kind => (still kind).trans (same kind)⟩

theorem noted_fail {Value : Type} (middleware : Middleware) (fault : Fault) :
    middleware.Noted (middleware.fail fault : Outcome Value).2 :=
  ⟨fault.message, middleware.ledger, rfl, fun _ => rfl⟩

theorem noted_of_eq (transport : after.transport = before.transport)
    (graph : after.graph = before.graph) : before.Noted after := by
  obtain ⟨reason, sameTransport, sameGraph⟩ := after
  dsimp only at transport graph
  subst sameTransport sameGraph
  exact ⟨reason, before.ledger, rfl, fun _ => rfl⟩

/-- A message that is made before a call and released after it leaves notes only. -/
theorem Noted.around {sent : Middleware} {kind : MessageKind}
    (noted : (middleware.withLedger (middleware.ledger.noteInit kind)).Noted sent) :
    middleware.Noted (sent.withLedger (sent.ledger.noteFini kind)) := by
  obtain ⟨reason, ledger, rfl, same⟩ := noted
  refine ⟨reason, ledger.noteFini kind, rfl, fun other => ?_⟩
  have before : ledger.live other = (middleware.ledger.noteInit kind).live other := same other
  rw [Ledger.live_noteFini, before, Ledger.live_noteInit]
  omega

def Fails {Value : Type} (middleware : Middleware) (outcome : Outcome Value) : Prop :=
  (∃ fault, outcome.1 = .error fault) ∧ middleware.Noted outcome.2

theorem fails_fail {Value : Type} (middleware : Middleware) (fault : Fault) :
    middleware.Fails (middleware.fail fault : Outcome Value) :=
  ⟨⟨fault, rfl⟩, middleware.noted_fail fault⟩

theorem noted_validate (middleware : Middleware) (kind : Name.Kind) (name : Option Bytes)
    (wantsVerdict : Bool) : middleware.Noted (middleware.validate kind name wantsVerdict).2 := by
  unfold validate
  split
  · exact .refl middleware
  · exact middleware.noted_fail _

theorem noted_expand {topic name space : Option Bytes} {wantsOutput : Bool} {outcome : Outcome Bytes}
    (expanded : middleware.expand topic name space wantsOutput = some outcome) :
    middleware.Noted outcome.2 := by
  unfold expand at expanded
  split at expanded
  · dsimp only at expanded
    split at expanded
    · cases expanded
      exact .refl middleware
    · cases expanded
      exact middleware.noted_fail _
    · cases expanded
  · cases expanded
    exact middleware.noted_fail _

theorem noted_parseArguments (middleware : Middleware) (vector : Option (List (Option Bytes)))
    (count : Int) (wantsOutput : Bool) :
    middleware.Noted (middleware.parseArguments vector count wantsOutput).2 := by
  unfold parseArguments
  split
  · split
    · exact .refl middleware
    · exact middleware.noted_fail _
  · exact middleware.noted_fail _

theorem initContext_eq (middleware : Middleware) (slot : Option (Slot Nat))
    (vector : Option (List (Option Bytes))) (count : Int) :
    middleware.Fails (middleware.initContext slot vector count) ∨
      ∃ arguments, slot = some none ∧ middleware.initContext slot vector count =
        (.ok middleware.transport.contexts.next,
          middleware.withTransport (middleware.transport.openContext arguments).2) := by
  unfold initContext
  rcases slot with _ | _ | context
  · exact .inl (middleware.fails_fail _)
  · dsimp only
    cases Arguments.parse vector count with
    | error fault => exact .inl (middleware.fails_fail fault)
    | ok arguments => exact .inr ⟨arguments, rfl, rfl⟩
  · exact .inl (middleware.fails_fail _)

theorem shutdownContext_eq (middleware : Middleware) (slot : Option (Slot Nat)) :
    middleware.Fails (middleware.shutdownContext slot) ∨
      ∃ context, slot = some (some context) ∧ middleware.shutdownContext slot =
        (.ok (), middleware.withTransport (middleware.transport.invalidate context)) := by
  unfold shutdownContext
  rcases slot with _ | _ | context
  · exact .inl (middleware.fails_fail _)
  · exact .inl (middleware.fails_fail _)
  · dsimp only
    by_cases runs : middleware.transport.isValid context
    · rw [if_pos runs]
      exact .inr ⟨context, rfl, rfl⟩
    · rw [if_neg runs]
      exact .inl (middleware.fails_fail _)

theorem initNode_eq (middleware : Middleware) (slot : Option (Slot NodeState))
    (name space : Option Bytes) (context : Option (Slot Nat)) (options : Option Bool) :
    middleware.Fails (middleware.initNode slot name space context options) ∨
      ∃ node, slot = some none ∧ context = some (some node.context) ∧
        middleware.transport.isValid node.context = true ∧
        middleware.initNode slot name space context options = (.ok node, middleware) := by
  unfold initNode
  split
  · rename_i held given taken owner useArguments
    cases held with
    | some node => exact .inl (middleware.fails_fail _)
    | none =>
        cases owner with
        | none => exact .inl (middleware.fails_fail _)
        | some context =>
            dsimp only [Option.isSome_none]
            by_cases runs : middleware.transport.isValid context
            · rw [if_neg Bool.false_ne_true, if_pos runs]
              split
              · exact .inl (middleware.fails_fail _)
              · exact .inr ⟨_, rfl, rfl, runs, rfl⟩
            · rw [if_neg Bool.false_ne_true, if_neg runs]
              exact .inl (middleware.fails_fail _)
  · exact .inl (middleware.fails_fail _)

theorem finiPublisher_eq (middleware : Middleware) (slot : Option (Slot PublisherState))
    (node : Option (Slot NodeState)) :
    middleware.Fails (middleware.finiPublisher slot node) ∨
      slot = some none ∧ middleware.finiPublisher slot node = (.ok (), middleware) ∨
      ∃ state, slot = some (some state) ∧ middleware.finiPublisher slot node =
        (.ok (), middleware.withTransport (middleware.transport.dropPublisher state.endpoint)) := by
  unfold finiPublisher
  split
  · exact .inl (middleware.fails_fail _)
  · exact .inr (.inl ⟨rfl, rfl⟩)
  · exact .inr (.inr ⟨_, rfl, rfl⟩)
  · exact .inl (middleware.fails_fail _)

theorem finiSubscription_eq (middleware : Middleware) (slot : Option (Slot SubscriptionState))
    (node : Option (Slot NodeState)) :
    middleware.Fails (middleware.finiSubscription slot node) ∨
      slot = some none ∧ middleware.finiSubscription slot node = (.ok (), middleware) ∨
      ∃ state, slot = some (some state) ∧ middleware.finiSubscription slot node =
        (.ok (), middleware.withTransport (middleware.transport.dropSubscriber state.endpoint)) := by
  unfold finiSubscription
  split
  · exact .inl (middleware.fails_fail _)
  · exact .inr (.inl ⟨rfl, rfl⟩)
  · exact .inr (.inr ⟨_, rfl, rfl⟩)
  · exact .inl (middleware.fails_fail _)

theorem noted_subscriptionCount (middleware : Middleware) (slot : Option (Slot PublisherState))
    (wantsCount : Bool) : middleware.Noted (middleware.subscriptionCount slot wantsCount).2 := by
  unfold subscriptionCount
  split
  · exact middleware.noted_fail _
  · split
    · exact .refl middleware
    · exact middleware.noted_fail _

theorem noted_publisherCount (middleware : Middleware) (slot : Option (Slot SubscriptionState))
    (wantsCount : Bool) : middleware.Noted (middleware.publisherCount slot wantsCount).2 := by
  unfold publisherCount
  split
  · exact middleware.noted_fail _
  · split
    · exact .refl middleware
    · exact middleware.noted_fail _

theorem validPublisher?_cases {slot : Option (Slot PublisherState)} {state : PublisherState}
    (valid : middleware.validPublisher? slot = some state) :
    slot = some (some state) ∧ ∃ held, middleware.transport.publishers.get? state.endpoint = some held ∧
      middleware.transport.isValid held.context = true := by
  unfold validPublisher? at valid
  split at valid
  · split at valid
    · split at valid
      · cases valid
        exact ⟨rfl, _, ‹_›, ‹_›⟩
      · cases valid
    · cases valid
  · cases valid

theorem validSubscription?_cases {slot : Option (Slot SubscriptionState)} {state : SubscriptionState}
    (valid : middleware.validSubscription? slot = some state) :
    slot = some (some state) ∧ ∃ held, middleware.transport.subscribers.get? state.endpoint = some held ∧
      middleware.transport.isValid held.context = true := by
  unfold validSubscription? at valid
  split at valid
  · split at valid
    · split at valid
      · cases valid
        exact ⟨rfl, _, ‹_›, ‹_›⟩
      · cases valid
    · cases valid
  · cases valid

theorem noted_create_none {kind : MessageKind} {message : Layout} {store : SampleStore}
    (refused : middleware.transport.store.create kind message = (none, store)) :
    middleware.Noted (middleware.withTransport (middleware.transport.withStore store)) := by
  obtain ⟨samples, live⟩ := SampleStore.create_eq_none refused
  obtain ⟨ledger, stored⟩ := store
  dsimp only at samples live
  subst stored
  exact ⟨middleware.reason, ledger, rfl, live⟩

theorem publish_eq (middleware : Middleware) (slot : Option (Slot PublisherState))
    (message : Option Layout) :
    middleware.Fails (middleware.publish slot message) ∨
      ∃ state held content ledger, slot = some (some state) ∧
        middleware.transport.publishers.get? state.endpoint = some held ∧
        middleware.transport.isValid held.context = true ∧
        middleware.publish slot message =
          (.ok (), middleware.withTransport
            ((middleware.transport.withStore
              { ledger
                samples :=
                  (middleware.transport.store.samples.insert
                    { kind := state.kind, content, shares := 1 }).2 }).sendOut
              (middleware.topic state.key) state.endpoint
              middleware.transport.store.samples.next)) := by
  unfold publish
  cases valid : middleware.validPublisher? slot with
  | none => exact .inl (middleware.fails_fail _)
  | some state =>
      obtain ⟨there, held, endpoint, runs⟩ := validPublisher?_cases valid
      cases message with
      | none => exact .inl (middleware.fails_fail _)
      | some layout =>
          dsimp only
          cases made : middleware.transport.store.create state.kind layout with
          | mk copied store =>
              cases copied with
              | none =>
                  exact .inl ⟨⟨_, rfl⟩, (noted_create_none made).trans (noted_fail _ _)⟩
              | some sample =>
                  refine .inr ⟨state, held, ?_⟩
                  rcases middleware.transport.store.create_cases state.kind layout with
                    ⟨_, none, _⟩ | ⟨content, _, next, samples⟩
                  · rw [made] at none
                    cases none
                  · rw [made, Option.some.injEq] at next
                    rw [made] at samples
                    obtain ⟨ledger, stored⟩ := store
                    dsimp only at next samples
                    subst next stored
                    exact ⟨content, ledger, there, endpoint, runs, rfl⟩

theorem take_eq (middleware : Middleware) (slot : Option (Slot SubscriptionState))
    (message : Option Layout) :
    middleware.Noted (middleware.take slot message).2 ∨
      ∃ state held sample taken reason ledger, slot = some (some state) ∧
        middleware.transport.subscribers.get? state.endpoint = some held ∧
        middleware.transport.isValid held.context = true ∧
        middleware.transport.takeSample state.endpoint = some (sample, taken) ∧
        (middleware.take slot message).2 =
          (middleware.withTransport
            (taken.withStore (taken.store.release sample))).recount reason ledger := by
  unfold take
  cases valid : middleware.validSubscription? slot with
  | none => exact .inl (middleware.noted_fail _)
  | some state =>
      obtain ⟨there, held, endpoint, runs⟩ := validSubscription?_cases valid
      cases message with
      | none => exact .inl (middleware.noted_fail _)
      | some layout =>
          dsimp only
          cases took : middleware.transport.takeSample state.endpoint with
          | none => exact .inl (.refl middleware)
          | some front =>
              obtain ⟨sample, taken⟩ := front
              refine .inr ⟨state, held, sample, taken, ?_⟩
              dsimp only
              generalize taken.store.ledger.copy state.kind _ layout = copy
              obtain ⟨copied, ledger⟩ := copy
              dsimp only
              have samples := taken.store.samples_release ledger sample
              generalize ({ taken.store with ledger } : SampleStore).release sample = released at samples
              obtain ⟨last, left⟩ := released
              dsimp only at samples
              subst left
              cases copied with
              | none => exact ⟨_, last, there, endpoint, runs, took, rfl⟩
              | some filled => exact ⟨_, last, there, endpoint, runs, took, rfl⟩

end Middleware

end PubSub
