import PubSub.Proofs.Endpoints
import PubSub.Proofs.Shares.Store

/-!
Shares in the transport.  Histories and queues own samples; whoever else owns them enters as a count from
outside.  Every operation of the transport keeps the store sound for the owners that are there after it.
-/

namespace PubSub

theorem SampleQueue.waiting_of_pop {queue changed : SampleQueue} {sample : Nat}
    (popped : queue.pop = some (sample, changed)) : queue.waiting = sample :: changed.waiting := by
  unfold pop at popped
  cases content : queue.waiting with
  | nil => simp [content] at popped
  | cons oldest rest =>
      simp only [content, Option.some.injEq, Prod.mk.injEq] at popped
      obtain ⟨rfl, rfl⟩ := popped
      rfl

namespace Transport

variable {transport : Transport} {outside : Nat → Nat}

def historyShares (transport : Transport) (sample : Nat) : Nat :=
  transport.publishers.total (fun publisher => publisher.history.count sample)

def queueShares (transport : Transport) (sample : Nat) : Nat :=
  transport.subscribers.total (fun subscriber => subscriber.queue.waiting.count sample)

def Sound (transport : Transport) (outside : Nat → Nat) : Prop :=
  transport.store.Sound (fun sample =>
    transport.historyShares sample + transport.queueShares sample + outside sample)

@[simp] theorem deliver_publishers (transport : Transport) (subscriber sample : Nat) :
    (transport.deliver subscriber sample).publishers = transport.publishers := by
  unfold deliver
  split <;> rfl

@[simp] theorem deliver_contexts (transport : Transport) (subscriber sample : Nat) :
    (transport.deliver subscriber sample).contexts = transport.contexts := by
  unfold deliver
  split <;> rfl

theorem Sound.deliver (sound : transport.Sound outside) (subscriber : Nat) {sample : Nat}
    (kept : 0 < transport.historyShares sample + outside sample) :
    (transport.deliver subscriber sample).Sound outside := by
  unfold Transport.deliver
  cases found : transport.subscribers.get? subscriber with
  | none => exact sound
  | some state =>
      have moved := fun other => transport.subscribers.total_modify subscriber
        (fun old => { old with queue := (transport.store.enqueue state.queue sample).1 })
        (fun held => held.queue.waiting.count other)
      simp only [found, Option.elim_some] at moved
      have atMost := fun other => transport.subscribers.le_total found
        (fun held => held.queue.waiting.count other)
      let others := fun other => transport.historyShares other + outside other +
        (transport.queueShares other - state.queue.waiting.count other)
      have given : ∀ other, transport.historyShares other + transport.queueShares other +
          outside other = others other + state.queue.waiting.count other := by
        intro other
        have here : _ ≤ transport.queueShares other := atMost other
        dsimp only [others]
        omega
      have enqueued := SampleStore.Sound.enqueue sound state.queue sample given
        (Nat.lt_of_lt_of_le kept (Nat.le_add_right _ _))
      refine enqueued.congr (fun other => ?_)
      have here := moved other
      have bound := atMost other
      simp only [historyShares, queueShares, others] at *
      omega

theorem Sound.deliverEach {Item : Type} (receiver content : Item → Nat) (items : List Item)
    (sound : transport.Sound outside)
    (kept : ∀ item ∈ items, 0 < transport.historyShares (content item) + outside (content item)) :
    (items.foldl (fun state item => state.deliver (receiver item) (content item)) transport).Sound
      outside := by
  induction items generalizing transport with
  | nil => exact sound
  | cons item rest ih =>
      have first := sound.deliver (receiver item) (kept item List.mem_cons_self)
      refine ih first (fun later member => ?_)
      have held := kept later (List.mem_cons_of_mem item member)
      rwa [historyShares, deliver_publishers]

theorem Sound.remember (sound : transport.Sound outside) (publisher : Nat) {sample : Nat}
    (kept : 0 < outside sample) : (transport.remember publisher sample).Sound outside := by
  unfold Transport.remember
  cases found : transport.publishers.get? publisher with
  | none => exact sound
  | some state =>
      by_cases keeps : state.qos.isTransientLocal
      · simp only [if_pos keeps]
        generalize excess state.qos (state.history ++ [sample]).length = surplus
        have moved := fun other => transport.publishers.total_modify publisher
          (fun old => { old with history := (state.history ++ [sample]).drop surplus })
          (fun held => held.history.count other)
        simp only [found, Option.elim_some] at moved
        have retained := SampleStore.Sound.retain sound sample
          (Nat.lt_of_lt_of_le kept (Nat.le_add_left _ _))
        refine retained.releaseAll ((state.history ++ [sample]).take surplus) (fun other => ?_)
        have here := moved other
        have split := congrArg (List.count other) (List.take_append_drop surplus (state.history ++ [sample]))
        simp only [List.count_append] at split
        simp only [historyShares, queueShares] at *
        omega
      · simp only [if_neg keeps]
        exact sound

/-- Whoever publishes holds the sample meanwhile. -/
theorem Sound.publish (sound : transport.Sound outside) (topic : Topic) (publisher : Nat) {sample : Nat}
    (kept : 0 < outside sample) : (transport.publish topic publisher sample).Sound outside := by
  unfold Transport.publish
  cases transport.publishers.get? publisher with
  | none => exact sound
  | some state =>
      exact Sound.deliverEach (fun subscriber => subscriber) (fun _ => sample) _
        (sound.remember publisher kept)
        (fun _ _ => Nat.lt_of_lt_of_le kept (Nat.le_add_left _ _))

theorem Sound.addPublisher (sound : transport.Sound outside) (topic : Topic) (qos : Qos)
    (context : Nat) : (transport.addPublisher topic qos context).2.2.Sound outside := by
  refine SampleStore.Sound.congr sound (fun other => ?_)
  have inserted := transport.publishers.total_insert { qos, context, history := [] }
    (fun held => held.history.count other)
  simp only [List.count_nil, Nat.add_zero] at inserted
  simp only [historyShares, queueShares, Transport.addPublisher, inserted]

theorem mem_replayed {topic : Topic} {qos : Qos} {sample : Nat}
    (member : sample ∈ transport.replayed topic qos) :
    qos.isTransientLocal = true ∧ ∃ publisher state, publisher ∈ topic.publishers ∧
      transport.publishers.get? publisher = some state ∧ state.qos.isTransientLocal = true ∧
      state.qos.compatible qos = true ∧ sample ∈ state.history := by
  unfold replayed at member
  split at member
  · rename_i late
    obtain ⟨⟨publisher, state⟩, live, present⟩ := List.mem_flatMap.mp member
    obtain ⟨_, listed, found⟩ := List.mem_filterMap.mp live
    obtain ⟨_, there, same⟩ := Option.map_eq_some_iff.mp found
    cases same
    dsimp only at present
    split at present
    · rename_i keeps
      rw [Bool.and_eq_true] at keeps
      exact ⟨late, publisher, state, listed, there, keeps.1, keeps.2, present⟩
    · cases present
  · cases member

theorem historyShares_pos_of_replayed {topic : Topic} {qos : Qos} {sample : Nat}
    (member : sample ∈ transport.replayed topic qos) : 0 < transport.historyShares sample := by
  obtain ⟨_, publisher, state, _, there, _, _, inHistory⟩ := mem_replayed member
  exact Nat.lt_of_lt_of_le (List.count_pos_iff.mpr inHistory)
    (transport.publishers.le_total there (fun held => held.history.count sample))

theorem Sound.addSubscriber (sound : transport.Sound outside) (topic : Topic) (qos : Qos)
    (context : Nat) : (transport.addSubscriber topic qos context).2.2.Sound outside := by
  have registered : ({ transport with
      subscribers := (transport.subscribers.insert { qos, context, queue := .ofQos qos }).2 } :
      Transport).Sound outside := by
    refine SampleStore.Sound.congr sound (fun other => ?_)
    have inserted := transport.subscribers.total_insert { qos, context, queue := .ofQos qos }
      (fun held => held.queue.waiting.count other)
    simp only [SampleQueue.ofQos, List.count_nil, Nat.add_zero] at inserted
    simp only [historyShares, queueShares, SampleQueue.ofQos, inserted]
  exact registered.deliverEach (fun _ => transport.subscribers.next) (fun sample => sample) _
    (fun sample member =>
      Nat.lt_of_lt_of_le (historyShares_pos_of_replayed member) (Nat.le_add_right _ _))

theorem Sound.dropPublisher (sound : transport.Sound outside) (publisher : Nat) :
    (transport.dropPublisher publisher).Sound outside := by
  unfold Transport.dropPublisher
  cases found : transport.publishers.get? publisher with
  | none => exact sound
  | some state =>
      refine SampleStore.Sound.releaseAll state.history sound (fun other => ?_)
      have erased := transport.publishers.total_erase publisher (fun held => held.history.count other)
      simp only [found, Option.elim_some] at erased
      simp only [historyShares, queueShares]
      omega

theorem Sound.dropSubscriber (sound : transport.Sound outside) (subscriber : Nat) :
    (transport.dropSubscriber subscriber).Sound outside := by
  unfold Transport.dropSubscriber
  cases found : transport.subscribers.get? subscriber with
  | none => exact sound
  | some state =>
      refine SampleStore.Sound.releaseAll state.queue.waiting sound (fun other => ?_)
      have erased := transport.subscribers.total_erase subscriber
        (fun held => held.queue.waiting.count other)
      simp only [found, Option.elim_some] at erased
      simp only [historyShares, queueShares]
      omega

/-- The share of a sample that is taken from a queue goes to its taker. -/
theorem Sound.takeSample (sound : transport.Sound outside) {subscriber sample : Nat}
    {taken : Transport} (took : transport.takeSample subscriber = some (sample, taken)) :
    taken.Sound (fun other => outside other + [sample].count other) := by
  obtain ⟨state, queue, found, popped, rfl⟩ := takeSample_eq_some took
  refine SampleStore.Sound.congr sound (fun other => ?_)
  have moved := transport.subscribers.total_modify subscriber
    (fun old => { old with queue }) (fun held => held.queue.waiting.count other)
  have front := count_cons_eq sample other queue.waiting
  simp only [found, Option.elim_some, SampleQueue.waiting_of_pop popped] at moved
  simp only [historyShares, queueShares]
  omega

theorem store_of_takeSample {subscriber sample : Nat} {taken : Transport}
    (took : transport.takeSample subscriber = some (sample, taken)) : taken.store = transport.store := by
  obtain ⟨_, _, _, _, rfl⟩ := takeSample_eq_some took
  rfl

theorem sharesOnly_deliver (transport : Transport) (subscriber sample : Nat) :
    transport.store.SharesOnly (transport.deliver subscriber sample).store := by
  unfold deliver
  cases transport.subscribers.get? subscriber with
  | none => exact .refl transport.store
  | some state => exact transport.store.sharesOnly_enqueue state.queue sample

theorem sharesOnly_deliverEach {Item : Type} (receiver content : Item → Nat) (items : List Item)
    (transport : Transport) :
    transport.store.SharesOnly
      (items.foldl (fun state item => state.deliver (receiver item) (content item))
        transport).store := by
  induction items generalizing transport with
  | nil => exact .refl transport.store
  | cons item rest ih => exact (transport.sharesOnly_deliver _ _).trans (ih _)

theorem sharesOnly_remember (transport : Transport) (publisher sample : Nat) :
    transport.store.SharesOnly (transport.remember publisher sample).store := by
  unfold remember
  cases transport.publishers.get? publisher with
  | none => exact .refl transport.store
  | some state =>
      by_cases keeps : state.qos.isTransientLocal
      · simp only [if_pos keeps]
        exact (transport.store.sharesOnly_retain sample).trans (SampleStore.sharesOnly_releaseAll _ _)
      · simp only [if_neg keeps]
        exact .refl transport.store

theorem sharesOnly_publish (transport : Transport) (topic : Topic) (publisher sample : Nat) :
    transport.store.SharesOnly (transport.publish topic publisher sample).store := by
  unfold publish
  cases transport.publishers.get? publisher with
  | none => exact .refl transport.store
  | some state =>
      exact (transport.sharesOnly_remember publisher sample).trans
        (sharesOnly_deliverEach (fun subscriber => subscriber) (fun _ => sample) _ _)

theorem sharesOnly_addSubscriber (transport : Transport) (topic : Topic) (qos : Qos) (context : Nat) :
    transport.store.SharesOnly (transport.addSubscriber topic qos context).2.2.store :=
  sharesOnly_deliverEach (fun _ => transport.subscribers.next) (fun sample => sample) _
    { transport with
      subscribers := (transport.subscribers.insert { qos, context, queue := .ofQos qos }).2 }

theorem sharesOnly_dropPublisher (transport : Transport) (publisher : Nat) :
    transport.store.SharesOnly (transport.dropPublisher publisher).store := by
  unfold dropPublisher
  cases transport.publishers.get? publisher with
  | none => exact .refl transport.store
  | some state => exact transport.store.sharesOnly_releaseAll state.history

theorem sharesOnly_dropSubscriber (transport : Transport) (subscriber : Nat) :
    transport.store.SharesOnly (transport.dropSubscriber subscriber).store := by
  unfold dropSubscriber
  cases transport.subscribers.get? subscriber with
  | none => exact .refl transport.store
  | some state => exact transport.store.sharesOnly_releaseAll state.queue.waiting

end Transport

end PubSub
