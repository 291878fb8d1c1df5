import PubSub.Transport.Topic

/-!
Endpoints of a transport: which of them exist, and which operations leave them alone.  Sending and taking
move samples only.
-/

namespace PubSub

namespace Arena

variable {Value : Type}

theorem contains_iff (arena : Arena Value) (index : Nat) :
    arena.contains index = true ↔ ∃ value, arena.get? index = some value :=
  Option.isSome_iff_exists

@[simp] theorem contains_modify (arena : Arena Value) (index other : Nat) (change : Value → Value) :
    (arena.modify index change).contains other = arena.contains other := by
  unfold contains
  rw [get?_modify]
  by_cases same : other = index
  · rw [if_pos same, same, Option.isSome_map]
  · rw [if_neg same]

theorem contains_insert (arena : Arena Value) (value : Value) (other : Nat) :
    (arena.insert value).2.contains other = (decide (other = arena.next) || arena.contains other) := by
  unfold contains
  rw [get?_insert]
  by_cases same : other = arena.next <;> simp [same]

theorem contains_erase (arena : Arena Value) (index other : Nat) :
    (arena.erase index).contains other = (decide (other ≠ index) && arena.contains other) := by
  unfold contains
  rw [get?_erase]
  by_cases same : other = index <;> simp [same]

end Arena

namespace Transport

/-- The same endpoints and contexts exist; what endpoints hold may differ. -/
structure SameEnds (before after : Transport) : Prop where
  publishers : ∀ publisher, after.publishers.contains publisher = before.publishers.contains publisher
  subscribers : ∀ subscriber,
    after.subscribers.contains subscriber = before.subscribers.contains subscriber
  nextPublisher : after.publishers.next = before.publishers.next
  nextSubscriber : after.subscribers.next = before.subscribers.next
  contexts : after.contexts = before.contexts

theorem SameEnds.refl (transport : Transport) : SameEnds transport transport :=
  ⟨fun _ => rfl, fun _ => rfl, rfl, rfl, rfl⟩

theorem SameEnds.trans {first second third : Transport} (early : SameEnds first second)
    (late : SameEnds second third) : SameEnds first third :=
  ⟨fun publisher => (late.publishers publisher).trans (early.publishers publisher),
    fun subscriber => (late.subscribers subscriber).trans (early.subscribers subscriber),
    late.nextPublisher.trans early.nextPublisher, late.nextSubscriber.trans early.nextSubscriber,
    late.contexts.trans early.contexts⟩

theorem sameEnds_withStore (transport : Transport) (store : SampleStore) :
    SameEnds transport (transport.withStore store) :=
  ⟨fun _ => rfl, fun _ => rfl, rfl, rfl, rfl⟩

theorem sameEnds_deliver (transport : Transport) (subscriber sample : Nat) :
    SameEnds transport (transport.deliver subscriber sample) := by
  unfold deliver
  cases transport.subscribers.get? subscriber with
  | none => exact .refl transport
  | some state => exact ⟨fun _ => rfl, fun _ => Arena.contains_modify _ _ _ _, rfl, rfl, rfl⟩

theorem sameEnds_deliverEach {Item : Type} (receiver content : Item → Nat) (items : List Item)
    (transport : Transport) :
    SameEnds transport
      (items.foldl (fun state item => state.deliver (receiver item) (content item)) transport) := by
  induction items generalizing transport with
  | nil => exact .refl transport
  | cons item rest ih => exact (transport.sameEnds_deliver _ _).trans (ih _)

theorem sameEnds_remember (transport : Transport) (publisher sample : Nat) :
    SameEnds transport (transport.remember publisher sample) := by
  unfold remember
  cases transport.publishers.get? publisher with
  | none => exact .refl transport
  | some state =>
      by_cases keeps : state.qos.isTransientLocal
      · simp only [if_pos keeps]
        exact ⟨fun _ => Arena.contains_modify _ _ _ _, fun _ => rfl, rfl, rfl, rfl⟩
      · simp only [if_neg keeps]
        exact .refl transport

theorem sameEnds_publish (transport : Transport) (topic : Topic) (publisher sample : Nat) :
    SameEnds transport (transport.publish topic publisher sample) := by
  unfold publish
  cases transport.publishers.get? publisher with
  | none => exact .refl transport
  | some state =>
      exact (transport.sameEnds_remember publisher sample).trans
        (sameEnds_deliverEach (fun subscriber => subscriber) (fun _ => sample) _ _)

theorem takeSample_eq_some {transport taken : Transport} {subscriber sample : Nat}
    (took : transport.takeSample subscriber = some (sample, taken)) :
    ∃ state queue, transport.subscribers.get? subscriber = some state ∧
      state.queue.pop = some (sample, queue) ∧
      taken =
        { transport with
          subscribers :=
            transport.subscribers.modify subscriber (fun old => { old with queue }) } := by
  unfold takeSample at took
  cases found : transport.subscribers.get? subscriber with
  | none => simp [found] at took
  | some state =>
      cases popped : state.queue.pop with
      | none => simp [found, popped] at took
      | some front =>
          obtain ⟨oldest, queue⟩ := front
          simp only [found, popped, Option.some.injEq, Prod.mk.injEq] at took
          obtain ⟨rfl, rfl⟩ := took
          exact ⟨state, queue, rfl, popped, rfl⟩

theorem sameEnds_takeSample {transport taken : Transport} {subscriber sample : Nat}
    (took : transport.takeSample subscriber = some (sample, taken)) : SameEnds transport taken := by
  obtain ⟨_, _, _, _, rfl⟩ := takeSample_eq_some took
  exact ⟨fun _ => rfl, fun _ => Arena.contains_modify _ _ _ _, rfl, rfl, rfl⟩

theorem contains_dropPublisher (transport : Transport) (publisher other : Nat) :
    (transport.dropPublisher publisher).publishers.contains other =
      (decide (other ≠ publisher) && transport.publishers.contains other) := by
  unfold dropPublisher
  cases found : transport.publishers.get? publisher with
  | none =>
      by_cases same : other = publisher
      · simp [same, Arena.contains, found]
      · simp [same]
  | some state => exact Arena.contains_erase _ _ _

theorem contains_dropSubscriber (transport : Transport) (subscriber other : Nat) :
    (transport.dropSubscriber subscriber).subscribers.contains other =
      (decide (other ≠ subscriber) && transport.subscribers.contains other) := by
  unfold dropSubscriber
  cases found : transport.subscribers.get? subscriber with
  | none =>
      by_cases same : other = subscriber
      · simp [same, Arena.contains, found]
      · simp [same]
  | some state => exact Arena.contains_erase _ _ _

@[simp] theorem subscribers_dropPublisher (transport : Transport) (publisher : Nat) :
    (transport.dropPublisher publisher).subscribers = transport.subscribers := by
  unfold dropPublisher
  split <;> rfl

@[simp] theorem publishers_dropSubscriber (transport : Transport) (subscriber : Nat) :
    (transport.dropSubscriber subscriber).publishers = transport.publishers := by
  unfold dropSubscriber
  split <;> rfl

@[simp] theorem contexts_dropPublisher (transport : Transport) (publisher : Nat) :
    (transport.dropPublisher publisher).contexts = transport.contexts := by
  unfold dropPublisher
  split <;> rfl

@[simp] theorem contexts_dropSubscriber (transport : Transport) (subscriber : Nat) :
    (transport.dropSubscriber subscriber).contexts = transport.contexts := by
  unfold dropSubscriber
  split <;> rfl

@[simp] theorem nextPublisher_dropPublisher (transport : Transport) (publisher : Nat) :
    (transport.dropPublisher publisher).publishers.next = transport.publishers.next := by
  unfold dropPublisher
  split <;> rfl

@[simp] theorem nextSubscriber_dropSubscriber (transport : Transport) (subscriber : Nat) :
    (transport.dropSubscriber subscriber).subscribers.next = transport.subscribers.next := by
  unfold dropSubscriber
  split <;> rfl

theorem sameEnds_addSubscriber (transport : Transport) (topic : Topic) (qos : Qos) (context : Nat) :
    SameEnds
      { transport with
        subscribers := (transport.subscribers.insert { qos, context, queue := .ofQos qos }).2 }
      (transport.addSubscriber topic qos context).2.2 :=
  sameEnds_deliverEach (fun _ => transport.subscribers.next) (fun sample => sample) _ _

end Transport

end PubSub
