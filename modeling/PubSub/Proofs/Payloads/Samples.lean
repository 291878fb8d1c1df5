import PubSub.Proofs.Calls.Contents
import PubSub.Proofs.Payloads.Copies

/-!
Samples and the messages that they are made of.  A publish that is granted makes one sample, of the number that is
next, which holds what its message says; nothing else makes a sample, and none ever holds anything else.
-/

namespace PubSub

/-- A message that was handed over to be published, with the number of the sample made of it, if it was sent. -/
structure Publication where
  kind : MessageKind
  message : Payload
  sample : Option Nat
  deriving DecidableEq, Repr

namespace SampleStore

variable {store between after : SampleStore} {kind : MessageKind} {payload : Payload}
  {log : List Publication}

/-- One sample is made, of a value of its kind, and the others hold what they held. -/
structure Sent (store after : SampleStore) (kind : MessageKind) (payload : Payload) : Prop where
  next : after.samples.next = store.samples.next + 1
  admits : kind.Admits payload
  made : ∀ held, after.samples.get? store.samples.next = some held →
    held.kind = kind ∧ held.content = kind.fresh.fill payload
  others : ∀ sample held, sample ≠ store.samples.next → after.samples.get? sample = some held →
    ∃ before, store.samples.get? sample = some before ∧ before.kind = held.kind ∧
      before.content = held.content

theorem Sent.unsent (sent : store.Sent between kind payload) (unsent : between.Unsent after) :
    store.Sent after kind payload where
  next := unsent.next.trans sent.next
  admits := sent.admits
  made := by
    intro held found
    obtain ⟨before, there, sameKind, sameContent⟩ := unsent.later _ held found
    obtain ⟨its, content⟩ := sent.made before there
    exact ⟨sameKind.symm.trans its, sameContent.symm.trans content⟩
  others := by
    intro sample held old found
    obtain ⟨middle, there, sameKind, sameContent⟩ := unsent.later sample held found
    obtain ⟨before, first, itsKind, itsContent⟩ := sent.others sample middle old there
    exact ⟨before, first, itsKind.trans sameKind, itsContent.trans sameContent⟩

theorem create_sent_or_unsent (store : SampleStore) (kind : MessageKind) {message : Layout}
    (whole : message.Whole) :
    (store.create kind message).1 = none ∧ store.Unsent (store.create kind message).2 ∨
      (store.create kind message).1 = some store.samples.next ∧
        store.Sent (store.create kind message).2 kind message.payload := by
  rcases store.create_cases kind message with ⟨_, none, samples⟩ | ⟨content, copied, next, samples⟩
  · exact .inl ⟨none, .of_eq samples⟩
  · have copy : kind.copy message kind.fresh = some content := by
      unfold Ledger.copy at copied
      split at copied
      · cases copied
      · exact copied
    obtain ⟨admits, _, filled⟩ := (MessageKind.copy_eq_some_iff whole).1 copy
    refine .inr ⟨next, ?_⟩
    generalize (store.create kind message).2 = created at samples
    have found := store.samples.get?_insert { kind, content, shares := 1 }
    constructor
    · rw [samples]
      rfl
    · exact admits
    · intro held there
      rw [samples, found, if_pos rfl] at there
      cases there
      exact ⟨rfl, filled⟩
    · intro sample held old there
      rw [samples, found, if_neg old] at there
      exact ⟨held, there, rfl, rfl⟩

def Proper (store : SampleStore) : Prop :=
  ∀ sample held, store.samples.get? sample = some held →
    held.content.Whole ∧ held.kind.Shapes held.content ∧ held.kind.Admits held.content.payload

theorem Proper.unsent (proper : store.Proper) (unsent : store.Unsent after) : after.Proper := by
  intro sample held found
  obtain ⟨before, there, kind, content⟩ := unsent.later sample held found
  rw [← kind, ← content]
  exact proper sample before there

theorem Proper.sent (proper : store.Proper) (sent : store.Sent after kind payload) : after.Proper := by
  intro sample held found
  by_cases new : sample = store.samples.next
  · subst new
    obtain ⟨its, content⟩ := sent.made held found
    obtain ⟨whole, reads, shaped⟩ := MessageKind.fill_of_admits kind.shapes_fresh sent.admits
    rw [its, content, reads]
    exact ⟨whole, shaped, sent.admits⟩
  · obtain ⟨before, there, itsKind, content⟩ := sent.others sample held new found
    rw [← itsKind, ← content]
    exact proper sample before there

/--
Samples are numbered as their messages were sent, and each holds the message that was.  A sample that is gone leaves its
number in the log.
-/
structure Traced (store : SampleStore) (log : List Publication) : Prop where
  numbered : log.filterMap Publication.sample = List.range store.samples.next
  told : ∀ sample held, store.samples.get? sample = some held →
    ∃ publication ∈ log, publication.sample = some sample ∧ publication.kind = held.kind ∧
      held.kind.Admits publication.message ∧ held.content = held.kind.fresh.fill publication.message

theorem traced_empty : SampleStore.empty.Traced [] :=
  ⟨rfl, fun _ _ found => nomatch found⟩

theorem Traced.unsent (traced : store.Traced log) (unsent : store.Unsent after) {more : List Publication}
    (refused : ∀ publication ∈ more, publication.sample = none) : after.Traced (log ++ more) where
  numbered := by
    rw [List.filterMap_append, List.filterMap_eq_nil_iff.2 refused, List.append_nil, unsent.next]
    exact traced.numbered
  told := by
    intro sample held found
    obtain ⟨before, there, kind, content⟩ := unsent.later sample held found
    rw [← kind, ← content]
    obtain ⟨publication, listed, its⟩ := traced.told sample before there
    exact ⟨publication, List.mem_append_left _ listed, its⟩

theorem Traced.sent (traced : store.Traced log) (sent : store.Sent after kind payload) :
    after.Traced (log ++ [{ kind, message := payload, sample := some store.samples.next }]) where
  numbered := by
    rw [List.filterMap_append, traced.numbered, sent.next, List.range_succ]
    rfl
  told := by
    intro sample held found
    by_cases new : sample = store.samples.next
    · subst new
      obtain ⟨its, content⟩ := sent.made held found
      refine ⟨_, List.mem_append_right _ (List.mem_singleton_self _), rfl, its.symm, ?_⟩
      rw [its]
      exact ⟨sent.admits, content⟩
    · obtain ⟨before, there, itsKind, content⟩ := sent.others sample held new found
      rw [← itsKind, ← content]
      obtain ⟨publication, listed, its⟩ := traced.told sample before there
      exact ⟨publication, List.mem_append_left _ listed, its⟩

/-- No two publishes made the same sample. -/
theorem Traced.eq_of_sample (traced : store.Traced log) {first second : Publication} {sample : Nat}
    (here : first ∈ log) (there : second ∈ log) (its : first.sample = some sample)
    (also : second.sample = some sample) : first = second := by
  have distinct : (log.filterMap Publication.sample).Nodup := by
    rw [traced.numbered]
    exact List.nodup_range
  clear traced
  induction log with
  | nil => cases here
  | cons publication rest ih =>
      have apart : ∀ other ∈ rest, publication.sample = some sample → other.sample ≠ some sample := by
        intro other member mine same
        rw [List.filterMap_cons_some mine, List.nodup_cons] at distinct
        exact distinct.1 (List.mem_filterMap.2 ⟨other, member, same⟩)
      have tail : (rest.filterMap Publication.sample).Nodup :=
        distinct.sublist (List.Sublist.filterMap _ (List.sublist_cons_self publication rest))
      rcases List.mem_cons.1 here with rfl | left <;> rcases List.mem_cons.1 there with rfl | right
      · rfl
      · exact absurd also (apart second right its)
      · exact absurd its (apart first left also)
      · exact ih left right tail

end SampleStore

theorem Middleware.publish_sent_or_unsent (middleware : Middleware) (slot : Option (Slot PublisherState))
    {message : Option Layout} (whole : ∀ layout, message = some layout → layout.Whole) :
    (∃ fault, (middleware.publish slot message).1 = .error fault) ∧
        middleware.transport.store.Unsent (middleware.publish slot message).2.transport.store ∨
      ∃ state layout, slot = some (some state) ∧ message = some layout ∧
        (middleware.publish slot message).1 = .ok () ∧
        middleware.transport.store.Sent (middleware.publish slot message).2.transport.store state.kind
          layout.payload := by
  unfold publish
  cases valid : middleware.validPublisher? slot with
  | none => exact .inl ⟨⟨_, rfl⟩, .refl _⟩
  | some state =>
      cases message with
      | none => exact .inl ⟨⟨_, rfl⟩, .refl _⟩
      | some layout =>
          dsimp only
          rcases middleware.transport.store.create_sent_or_unsent state.kind (whole layout rfl) with
            ⟨refused, unsent⟩ | ⟨made, sent⟩
          · generalize middleware.transport.store.create state.kind layout = outcome at refused unsent ⊢
            obtain ⟨copied, store⟩ := outcome
            cases refused
            exact .inl ⟨⟨_, rfl⟩, unsent⟩
          · generalize middleware.transport.store.create state.kind layout = outcome at made sent ⊢
            obtain ⟨copied, store⟩ := outcome
            cases made
            refine .inr ⟨state, layout, (validPublisher?_cases valid).1, rfl, rfl, sent.unsent ?_⟩
            exact (((middleware.transport.withStore store).sharesOnly_publish
              (middleware.topic state.key) state.endpoint _).trans
                (SampleStore.sharesOnly_release _ _)).unsent

end PubSub
