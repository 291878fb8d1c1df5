import PubSub.Message.Datum
import PubSub.Proofs.Delivery.Queue
import PubSub.Proofs.Shares.Transport

/-!
What samples say.  A copy of a message says what the message says, and a sample says the same for as long as
anyone shares it.
-/

namespace PubSub

theorem TextBuffer.contents_store (buffer : TextBuffer) (text : Bytes) :
    (buffer.store text).contents = text := by
  unfold store contents data?
  cases buffer.block <;> simp

def Layout.Whole : Layout → Prop
  | .number _ => True
  | .text buffer => buffer.size ≤ buffer.capacity

theorem TextBuffer.whole_store (buffer : TextBuffer) (text : Bytes) :
    (Layout.text (buffer.store text)).Whole := by
  unfold Layout.Whole store capacity
  cases buffer.block with
  | none => simp
  | some block =>
      dsimp only
      rw [List.length_append, List.length_cons]
      omega

theorem TextBuffer.copyFrom_eq {source : TextBuffer} (whole : (Layout.text source).Whole)
    (destination : TextBuffer) :
    destination.copyFrom source = (true, destination.store source.contents) := by
  unfold Layout.Whole capacity at whole
  dsimp only at whole
  unfold copyFrom assignFirst contents data?
  cases block : source.block with
  | none =>
      rw [block] at whole
      have none : source.size = 0 := Nat.le_zero.1 whole
      simp [none]
  | some bytes =>
      rw [block] at whole
      have all : (bytes.take source.size).length = source.size := List.length_take_of_le whole
      simp only [Option.map_some, Option.getD_some, all, Nat.sub_self, List.replicate_zero,
        List.append_nil, List.take_take, Nat.min_self]

theorem MessageKind.copy_eq_some {kind : MessageKind} {source destination copied : Layout}
    (whole : source.Whole) (copy : kind.copy source destination = some copied) :
    copied.Whole ∧ copied.payload = source.payload := by
  unfold MessageKind.copy at copy
  split at copy
  · split at copy
    · cases copy
      exact ⟨trivial, rfl⟩
    · cases copy
  · rename_i sourceText destinationText
    rw [TextBuffer.copyFrom_eq whole] at copy
    split at copy
    · cases copy
    · split at copy
      · cases copy
      · cases copy
        refine ⟨destinationText.whole_store _, ?_⟩
        exact congrArg Payload.text (destinationText.contents_store _)
  · cases copy

theorem Ledger.copy_eq_some {ledger after : Ledger} {kind : MessageKind}
    {source destination copied : Layout} (whole : source.Whole)
    (copy : ledger.copy kind source destination = (some copied, after)) :
    copied.Whole ∧ copied.payload = source.payload := by
  unfold Ledger.copy at copy
  split at copy
  · cases copy
  · exact MessageKind.copy_eq_some whole (congrArg Prod.fst copy)

theorem Datum.payload_fill {kind : MessageKind} {datum : Datum} {payload : Payload}
    (fits : datum.payload kind = .ok payload) :
    (kind.fresh.fill payload).Whole ∧ (kind.fresh.fill payload).payload = payload := by
  unfold Datum.payload at fits
  unfold MessageKind.fresh
  by_cases numeric : kind.isNumeric = true
  · rw [if_pos numeric] at fits ⊢
    cases number : datum.number? with
    | none => simp [number] at fits
    | some value =>
        simp only [number, Except.ok.injEq] at fits
        rw [← fits]
        exact ⟨trivial, rfl⟩
  · rw [if_neg numeric] at fits ⊢
    have text : ∀ bytes, payload = .text bytes →
        (Layout.fill (.text .fresh) payload).Whole ∧
          (Layout.fill (.text .fresh) payload).payload = payload := by
      rintro bytes rfl
      refine ⟨TextBuffer.fresh.whole_store bytes, ?_⟩
      exact congrArg Payload.text (TextBuffer.fresh.contents_store bytes)
    cases datum with
    | number value => cases fits
    | text bytes => exact text bytes (Except.ok.inj fits).symm
    | raw bytes => exact text bytes (Except.ok.inj fits).symm
    | other => cases fits

namespace SampleStore

variable {store after : SampleStore} {samples : List Nat} {payloads : List Payload}

def Later (store after : SampleStore) : Prop :=
  ∀ sample held, after.samples.get? sample = some held →
    ∃ before, store.samples.get? sample = some before ∧ before.kind = held.kind ∧
      before.content = held.content

theorem Later.refl (store : SampleStore) : store.Later store :=
  fun _ held found => ⟨held, found, rfl, rfl⟩

theorem Later.trans {between : SampleStore} (early : store.Later between) (late : between.Later after) :
    store.Later after := by
  intro sample held found
  obtain ⟨middle, there, kind, content⟩ := late sample held found
  obtain ⟨before, first, sameKind, sameContent⟩ := early sample middle there
  exact ⟨before, first, sameKind.trans kind, sameContent.trans content⟩

theorem Later.of_eq (same : after.samples = store.samples) : store.Later after := by
  intro sample held found
  rw [same] at found
  exact ⟨held, found, rfl, rfl⟩

theorem SharesOnly.later (only : store.SharesOnly after) : store.Later after :=
  only.held

structure Unsent (store after : SampleStore) : Prop where
  next : after.samples.next = store.samples.next
  later : store.Later after

theorem Unsent.refl (store : SampleStore) : store.Unsent store :=
  ⟨rfl, .refl store⟩

theorem Unsent.trans {between : SampleStore} (early : store.Unsent between)
    (late : between.Unsent after) : store.Unsent after :=
  ⟨late.next.trans early.next, early.later.trans late.later⟩

theorem Unsent.of_eq (same : after.samples = store.samples) : store.Unsent after :=
  ⟨congrArg Arena.next same, .of_eq same⟩

theorem SharesOnly.unsent (only : store.SharesOnly after) : store.Unsent after :=
  ⟨only.next, only.later⟩

def Whole (store : SampleStore) : Prop :=
  ∀ sample held, store.samples.get? sample = some held → held.content.Whole

theorem Whole.later (whole : store.Whole) (same : store.Later after) : after.Whole := by
  intro sample held found
  obtain ⟨before, there, _, content⟩ := same sample held found
  rw [← content]
  exact whole sample before there

def Reads (store : SampleStore) (samples : List Nat) (payloads : List Payload) : Prop :=
  samples.map store.payload? = payloads.map some

theorem reads_nil (store : SampleStore) : store.Reads [] [] := rfl

theorem Reads.append {more : List Nat} {others : List Payload} (reads : store.Reads samples payloads)
    (also : store.Reads more others) : store.Reads (samples ++ more) (payloads ++ others) := by
  unfold Reads at reads also ⊢
  rw [List.map_append, List.map_append, reads, also]

theorem Reads.newest (reads : store.Reads samples payloads) (qos : Qos) :
    store.Reads (qos.newest samples) (qos.newest payloads) := by
  unfold Reads at reads ⊢
  rw [qos.map_newest, qos.map_newest, reads]

theorem Reads.length_eq (reads : store.Reads samples payloads) : samples.length = payloads.length := by
  have lengths := congrArg List.length reads
  rwa [List.length_map, List.length_map] at lengths

def Agrees (store after : SampleStore) : Prop :=
  ∀ sample held, store.samples.get? sample = some held →
    ∀ same, after.samples.get? sample = some same → same.content = held.content

theorem Later.agrees (later : store.Later after) : store.Agrees after := by
  intro sample held found same there
  obtain ⟨before, first, _, content⟩ := later sample same there
  rw [found, Option.some.injEq] at first
  rw [first, content]

theorem Reads.agrees (reads : store.Reads samples payloads) (agrees : store.Agrees after)
    (present : ∀ sample ∈ samples, ∃ held, after.samples.get? sample = some held) :
    after.Reads samples payloads := by
  have each : samples.map after.payload? = samples.map store.payload? := by
    apply List.map_congr_left
    intro sample member
    obtain ⟨same, there⟩ := present sample member
    have listed : store.payload? sample ∈ payloads.map some := by
      rw [← show samples.map store.payload? = payloads.map some from reads]
      exact List.mem_map_of_mem member
    obtain ⟨payload, _, spoken⟩ := List.mem_map.mp listed
    cases found : store.samples.get? sample with
    | none =>
        unfold payload? at spoken
        rw [found] at spoken
        cases spoken
    | some held =>
        unfold payload?
        rw [found, there, Option.map_some, Option.map_some, agrees sample held found same there]
  exact each.trans reads

theorem Reads.kept (reads : store.Reads samples payloads)
    (kept : ∀ sample held, store.samples.get? sample = some held →
      after.samples.get? sample = some held) : after.Reads samples payloads := by
  have each : samples.map after.payload? = samples.map store.payload? := by
    apply List.map_congr_left
    intro sample member
    have listed : store.payload? sample ∈ payloads.map some := by
      rw [← show samples.map store.payload? = payloads.map some from reads]
      exact List.mem_map_of_mem member
    obtain ⟨payload, _, spoken⟩ := List.mem_map.mp listed
    obtain ⟨held, found, _⟩ := Option.map_eq_some_iff.1 spoken.symm
    unfold payload?
    rw [found, kept sample held found]
  exact each.trans reads

theorem create_eq_some {kind : MessageKind} {message : Layout} {sample : Nat} {created : SampleStore}
    (whole : message.Whole) (made : store.create kind message = (some sample, created)) :
    (store.Whole → created.Whole) ∧ created.payload? sample = some message.payload ∧
      ∀ other held, store.samples.get? other = some held →
        created.samples.get? other = some held := by
  rcases store.create_cases kind message with ⟨_, none, _⟩ | ⟨content, copied, next, samples⟩
  · rw [made] at none
    cases none
  · rw [made, Option.some.injEq] at next
    rw [made] at samples
    dsimp only at next samples
    have copy := Ledger.copy_eq_some whole (Prod.ext copied rfl)
    have found : ∀ other, created.samples.get? other =
        if other = sample then some { kind, content, shares := 1 } else store.samples.get? other := by
      intro other
      rw [samples, next, Arena.get?_insert]
    refine ⟨?_, ?_, ?_⟩
    · intro all other held there
      rw [found] at there
      by_cases same : other = sample
      · rw [if_pos same, Option.some.injEq] at there
        rw [← there]
        exact copy.1
      · rw [if_neg same] at there
        exact all other held there
    · unfold payload?
      rw [found, if_pos rfl, Option.map_some, copy.2]
    · intro other held there
      have old : other ≠ sample := by
        rw [next]
        exact Nat.ne_of_lt (store.samples.lt_next_of_get? there)
      rw [found, if_neg old]
      exact there

end SampleStore

namespace Transport

variable {transport : Transport} {outside : Nat → Nat} {index sample : Nat}

theorem Sound.exists_of_waiting (sound : transport.Sound outside) {state : SubscriberEnd}
    (found : transport.subscribers.get? index = some state) (waits : sample ∈ state.queue.waiting) :
    ∃ held, transport.store.samples.get? sample = some held := by
  apply (Arena.Owned.held_iff sound sample).1
  have shares := transport.subscribers.le_total found
    (fun subscriber => subscriber.queue.waiting.count sample)
  have one := List.count_pos_iff.mpr waits
  unfold queueShares
  omega

theorem Sound.exists_of_history (sound : transport.Sound outside) {state : PublisherEnd}
    (found : transport.publishers.get? index = some state) (kept : sample ∈ state.history) :
    ∃ held, transport.store.samples.get? sample = some held := by
  apply (Arena.Owned.held_iff sound sample).1
  have shares := transport.publishers.le_total found
    (fun publisher => publisher.history.count sample)
  have one := List.count_pos_iff.mpr kept
  unfold historyShares
  omega

end Transport

end PubSub
