import Mathlib.Order.Interval.Finset.Nat
import PubSub.Proofs.Shares.Names

/-!
Lifetimes of samples in an exchange.  A step makes at most one sample and otherwise only moves shares, so a
sample that has lost its last owner is gone for good; the ledger then tells how many have come and gone.
-/

namespace PubSub

namespace SampleStore

/-- One counted message is copied at most; apart from that only shares change. -/
def Grows (store later : SampleStore) : Prop :=
  ∃ middle, (middle = store ∨ ∃ message, middle = (store.create .counted message).2) ∧
    middle.SharesOnly later

theorem SharesOnly.grows {store later : SampleStore} (only : store.SharesOnly later) :
    store.Grows later :=
  ⟨store, .inl rfl, only⟩

/-- A copy is counted; it makes the next sample, or none. -/
theorem create_counts (store : SampleStore) (message : Layout) :
    ((store.create .counted message).2.ledger.calls .counted).init =
        (store.ledger.calls .counted).init + 1 ∧
      ((store.create .counted message).2.samples = store.samples ∨
        ∃ content, (store.create .counted message).2.samples =
          (store.samples.insert { kind := .counted, content, shares := 1 }).2) := by
  have copied := calls_copy (store.ledger.noteInit .counted) .counted .counted message
    MessageKind.counted.fresh
  unfold create
  generalize (store.ledger.noteInit .counted).copy .counted message MessageKind.counted.fresh = outcome
    at copied ⊢
  rcases outcome with ⟨_ | content, ledger⟩
  · simp only [Ledger.noteInit, Ledger.noteFini, Ledger.calls_note, ↓reduceIte] at copied ⊢
    exact ⟨copied.1, .inl trivial⟩
  · simp only [Ledger.noteInit, Ledger.calls_note, ↓reduceIte] at copied ⊢
    exact ⟨copied.1, .inr ⟨content, rfl⟩⟩

variable {store later : SampleStore}

/-- Of the samples made before, none comes back, and none changes its kind. -/
theorem Grows.held (grows : store.Grows later) {sample : Nat} {held : Sample}
    (found : later.samples.get? sample = some held) :
    (∃ before, store.samples.get? sample = some before ∧ before.kind = held.kind) ∨
      store.samples.next ≤ sample ∧ held.kind = .counted := by
  obtain ⟨middle, made, only⟩ := grows
  obtain ⟨between, there, kind, _⟩ := only.held sample held found
  rcases made with rfl | ⟨message, rfl⟩
  · exact .inl ⟨between, there, kind⟩
  · rcases (store.create_counts message).2 with same | ⟨content, inserted⟩
    · rw [same] at there
      exact .inl ⟨between, there, kind⟩
    · rw [inserted, Arena.get?_insert] at there
      by_cases fresh : sample = store.samples.next
      · rw [if_pos fresh, Option.some.injEq] at there
        subst between
        exact .inr ⟨Nat.le_of_eq fresh.symm, kind.symm⟩
      · rw [if_neg fresh] at there
        exact .inl ⟨between, there, kind⟩

/-- Every sample that is made is a copy that was made; the others were refused. -/
theorem Grows.counts (grows : store.Grows later) :
    store.samples.next ≤ later.samples.next ∧
      (later.ledger.calls .counted).init + store.samples.next ≥
        (store.ledger.calls .counted).init + later.samples.next := by
  obtain ⟨middle, made, only⟩ := grows
  rw [only.next, only.init]
  rcases made with rfl | ⟨message, rfl⟩
  · exact ⟨Nat.le_refl _, Nat.le_refl _⟩
  · obtain ⟨init, same | ⟨content, inserted⟩⟩ := store.create_counts message
    · rw [same, init]
      omega
    · have next : (store.create .counted message).2.samples.next = store.samples.next + 1 := by
        rw [inserted]
        rfl
      rw [next, init]
      omega

theorem Grows.settled (grows : store.Grows later) (settled : store.Settled (fun _ => 0)) :
    later.Settled (fun _ => 0) := by
  obtain ⟨middle, rfl | ⟨message, rfl⟩, only⟩ := grows
  · exact settled.sharesOnly only
  · exact (settled.create .counted message).sharesOnly only

end SampleStore

namespace Exchange

open SampleStore (Grows SharesOnly)

private theorem sharesOnly_releaseShare (store : SampleStore) (share : Option Nat) :
    store.SharesOnly (releaseShare store share) := by
  cases share with
  | none => exact .refl store
  | some sample => exact store.sharesOnly_release sample

private theorem sharesOnly_retainShare (store : SampleStore) (share : Option Nat) :
    store.SharesOnly (retainShare store share) := by
  cases share with
  | none => exact .refl store
  | some sample => exact store.sharesOnly_retain sample

theorem sharesOnly_removeQueue (exchange : Exchange) (name : String) :
    exchange.transport.store.SharesOnly (exchange.removeQueue name).transport.store := by
  unfold removeQueue
  cases exchange.queues.get? name with
  | none => exact .refl _
  | some queue => exact exchange.transport.store.sharesOnly_releaseAll queue.waiting

theorem sharesOnly_contextOf (exchange : Exchange) (name : String) :
    exchange.transport.store.SharesOnly (exchange.contextOf name).2.transport.store := by
  obtain ⟨contexts, names, opened⟩ := exchange.contextOf_cases name
  rw [opened]
  exact .refl _

theorem sharesOnly_removePublisher (exchange : Exchange) (name : String) :
    exchange.transport.store.SharesOnly (exchange.removePublisher name).transport.store := by
  unfold removePublisher
  cases exchange.publishers.get? name with
  | none => exact .refl _
  | some publisher => exact exchange.transport.sharesOnly_dropPublisher publisher

theorem sharesOnly_removeSubscriber (exchange : Exchange) (name : String) :
    exchange.transport.store.SharesOnly (exchange.removeSubscriber name).transport.store := by
  unfold removeSubscriber
  cases exchange.subscribers.get? name with
  | none => exact .refl _
  | some subscriber => exact exchange.transport.sharesOnly_dropSubscriber subscriber

theorem sharesOnly_placeShare (exchange : Exchange) (name : String) (share : Option Nat) :
    exchange.transport.store.SharesOnly (exchange.placeShare name share).transport.store :=
  sharesOnly_releaseShare _ _

theorem store_of_popSample {exchange popped : Exchange} {name : String} {sample : Nat}
    (taken : exchange.popSample name = some (sample, popped)) :
    popped.transport.store = exchange.transport.store := by
  obtain ⟨queue, _, rest⟩ := Option.bind_eq_some_iff.mp taken
  obtain ⟨_, _, same⟩ := Option.bind_eq_some_iff.mp rest
  cases same
  rfl

theorem store_of_receiveSample {exchange received : Exchange} {subscriber sample : Nat}
    (taken : exchange.receiveSample subscriber = some (sample, received)) :
    received.transport.store = exchange.transport.store := by
  obtain ⟨_, took, same⟩ := Option.bind_eq_some_iff.mp taken
  cases same
  exact Transport.store_of_takeSample took

theorem grows_created {exchange after : Exchange} {value : Int64} {sample : Option Nat}
    (created : exchange.createSample value = (sample, after)) {later : SampleStore}
    (only : after.transport.store.SharesOnly later) : exchange.transport.store.Grows later := by
  refine ⟨after.transport.store, .inr ⟨.number value, ?_⟩, only⟩
  have outcome := congrArg (fun pair => pair.2.transport.store) created
  exact outcome.symm

theorem Steps.grows {exchange after : Exchange} {action : Action} (steps : exchange.Steps action after) :
    exchange.transport.store.Grows after.transport.store := by
  cases steps with
  | idle => exact (SharesOnly.refl _).grows
  | shareMade name created => exact grows_created created (sharesOnly_placeShare _ name _)
  | @shareCopied name _ share found | @shareAssigned name _ share found =>
      exact ((sharesOnly_retainShare _ share).trans (sharesOnly_releaseShare _ _)).grows
  | shareMoved name found | shareMoveAssigned name found => exact (sharesOnly_releaseShare _ _).grows
  | shareDropped name => exact (exchange.sharesOnly_placeShare name none).grows
  | refusalsSet count =>
      exact ⟨exchange.transport.store, .inl rfl, rfl, fun _ => rfl, fun _ => rfl, fun _ => rfl,
        fun _ => rfl, fun _ held found => ⟨held, found, rfl, rfl⟩⟩
  | queueOpened name qos => exact (exchange.sharesOnly_removeQueue name).grows
  | notPushed name created | notPublished name created => exact grows_created created (.refl _)
  | @pushed _ _ queue sample after found created =>
      exact grows_created created ((after.transport.store.sharesOnly_enqueue queue sample).trans
        (SampleStore.sharesOnly_release _ sample))
  | @sharePushed _ _ queue sample found held =>
      exact (exchange.transport.store.sharesOnly_enqueue queue sample).grows
  | @popped _ sample popped taken =>
      rw [← store_of_popSample taken]
      exact (popped.transport.store.sharesOnly_release sample).grows
  | poppedInto name taken =>
      rw [← store_of_popSample taken]
      exact (sharesOnly_placeShare _ name _).grows
  | queueClosed name => exact (exchange.sharesOnly_removeQueue name).grows
  | publisherAdded name qos context =>
      exact ((exchange.sharesOnly_contextOf context).trans
        (sharesOnly_removePublisher (exchange.withPublisher qos context) name)).grows
  | subscriberAdded name qos context =>
      exact (((exchange.sharesOnly_contextOf context).trans
        (Transport.sharesOnly_addSubscriber (exchange.contextOf context).2.transport
          (exchange.contextOf context).2.topic qos (exchange.contextOf context).1)).trans
        (sharesOnly_removeSubscriber (exchange.withSubscriber qos context) name)).grows
  | @published _ _ publisher sample after found created =>
      exact grows_created created ((after.transport.sharesOnly_publish after.topic publisher sample).trans
        (SampleStore.sharesOnly_release _ sample))
  | @sharePublished _ _ publisher sample found held =>
      exact (exchange.transport.sharesOnly_publish exchange.topic publisher sample).grows
  | @keptCopied name _ _ sample kept =>
      exact ((exchange.transport.store.sharesOnly_retain sample).trans (sharesOnly_releaseShare _ _)).grows
  | @received _ _ sample received _ taken =>
      rw [← store_of_receiveSample taken]
      exact (received.transport.store.sharesOnly_release sample).grows
  | receivedInto name _ taken =>
      rw [← store_of_receiveSample taken]
      exact (sharesOnly_placeShare _ name _).grows
  | ended name => exact (exchange.sharesOnly_contextOf name).grows
  | publisherDropped name => exact (exchange.sharesOnly_removePublisher name).grows
  | subscriberDropped name => exact (exchange.sharesOnly_removeSubscriber name).grows

variable {exchange : Exchange}

def calls (exchange : Exchange) : Calls :=
  exchange.transport.store.ledger.calls .counted

def made (exchange : Exchange) : Nat :=
  exchange.transport.store.samples.next

def owned (exchange : Exchange) : Finset Nat :=
  (Finset.range exchange.made).filter (fun sample => 0 < exchange.owners sample)

/-- The samples that a step found or made, and left without an owner. -/
def orphaned (exchange later : Exchange) : Finset Nat :=
  (exchange.owned ∪ Finset.Ico exchange.made later.made) \ later.owned

structure Kept (exchange : Exchange) : Prop where
  sound : exchange.SoundWith []
  settled : exchange.transport.store.Settled (fun _ => 0)
  counted : ∀ sample held, exchange.transport.store.samples.get? sample = some held →
    held.kind = .counted
  named : exchange.Named

theorem kept_empty : empty.Kept := by
  refine ⟨⟨fun _ => rfl, ?_⟩, fun _ => rfl, ?_, ⟨?_, ?_⟩⟩
  · intro sample held found
    cases found
  · intro sample held found
    cases found
  · intro publisher present
    cases present
  · intro subscriber present
    cases present

theorem Kept.step (kept : exchange.Kept) (action : Action) : (exchange.step action).2.Kept := by
  have grows := (exchange.steps_step action).grows
  refine ⟨kept.sound.steps (exchange.steps_step action), grows.settled kept.settled, ?_, kept.named.step action⟩
  intro sample held found
  rcases grows.held found with ⟨before, there, same⟩ | ⟨_, fresh⟩
  · rw [← same]
    exact kept.counted sample before there
  · exact fresh

theorem Kept.run (kept : exchange.Kept) (actions : List Action) : (exchange.run actions).Kept := by
  induction actions generalizing exchange with
  | nil => exact kept
  | cons action rest ih => exact ih (kept.step action)

theorem Kept.exists_iff (kept : exchange.Kept) (sample : Nat) :
    (∃ held, exchange.transport.store.samples.get? sample = some held) ↔
      0 < exchange.owners sample := by
  have owned := Arena.Owned.held_iff kept.sound sample
  rw [← SampleStore.Sound.counted kept.sound sample, kept.sound.counted sample] at owned
  exact owned.symm

theorem Kept.mem_owned (kept : exchange.Kept) (sample : Nat) :
    sample ∈ exchange.owned ↔ 0 < exchange.owners sample := by
  rw [owned, Finset.mem_filter, Finset.mem_range]
  constructor
  · exact fun member => member.2
  · intro positive
    obtain ⟨held, found⟩ := (kept.exists_iff sample).2 positive
    exact ⟨exchange.transport.store.samples.lt_next_of_get? found, positive⟩

theorem Kept.stored (kept : exchange.Kept) :
    exchange.transport.store.stored .counted = exchange.owned.card := by
  refine exchange.transport.store.stored_eq_card (fun sample => ?_)
  rw [kept.mem_owned, ← kept.exists_iff]
  constructor
  · rintro ⟨held, found⟩
    exact ⟨held, found, kept.counted sample held found⟩
  · rintro ⟨held, found, _⟩
    exact ⟨held, found⟩

theorem Kept.balance (kept : exchange.Kept) :
    exchange.calls.init = exchange.calls.fini + exchange.owned.card := by
  have settled := kept.settled .counted
  rw [kept.stored] at settled
  exact settled

theorem Kept.gone (kept : exchange.Kept) (action : Action) {sample : Nat}
    (old : sample < exchange.made) (unowned : sample ∉ exchange.owned) :
    sample ∉ (exchange.step action).2.owned := by
  intro back
  obtain ⟨held, found⟩ :=
    ((kept.step action).exists_iff sample).2 (((kept.step action).mem_owned sample).1 back)
  rcases (exchange.steps_step action).grows.held found with ⟨before, there, _⟩ | ⟨fresh, _⟩
  · exact unowned ((kept.mem_owned sample).2 ((kept.exists_iff sample).1 ⟨before, there⟩))
  · exact absurd old (Nat.not_lt_of_le fresh)

/-- A step finalizes the copies that were refused in it and the samples that it leaves without an owner. -/
theorem Kept.finalizes (kept : exchange.Kept) (action : Action) :
    ∃ refused,
      (exchange.step action).2.calls.init + exchange.made =
        exchange.calls.init + (exchange.step action).2.made + refused ∧
      (exchange.step action).2.calls.fini =
        exchange.calls.fini + (exchange.orphaned (exchange.step action).2).card + refused := by
  have later := kept.step action
  obtain ⟨more, inits⟩ := (exchange.steps_step action).grows.counts
  have subset : (exchange.step action).2.owned ⊆
      exchange.owned ∪ Finset.Ico exchange.made (exchange.step action).2.made := by
    intro sample member
    rw [Finset.mem_union, Finset.mem_Ico]
    by_cases old : sample < exchange.made
    · by_contra absent
      rw [not_or] at absent
      exact kept.gone action old absent.1 member
    · exact .inr ⟨Nat.le_of_not_lt old,
        Finset.mem_range.mp (Finset.mem_of_mem_filter sample member)⟩
  have apart : Disjoint exchange.owned
      (Finset.Ico exchange.made (exchange.step action).2.made) := by
    rw [Finset.disjoint_left]
    intro sample member fresh
    have old := Finset.mem_range.mp (Finset.mem_of_mem_filter sample member)
    exact absurd old (Nat.not_lt_of_le (Finset.mem_Ico.mp fresh).1)
  have sizes := Finset.card_sdiff_add_card_eq_card subset
  rw [Finset.card_union_of_disjoint apart, Nat.card_Ico] at sizes
  have before := kept.balance
  have after := later.balance
  unfold orphaned
  unfold made calls at *
  exact ⟨(exchange.step action).2.calls.init + exchange.made -
    (exchange.calls.init + (exchange.step action).2.made), by unfold made calls; omega,
    by unfold made calls; omega⟩

theorem Kept.unowned (kept : exchange.Kept) (shares : exchange.shares.keys = [])
    (queues : exchange.queues.keys = []) (publishers : exchange.publishers.keys = [])
    (subscribers : exchange.subscribers.keys = []) : exchange.owned = ∅ := by
  have handles : ∀ sample, exchange.handleShares sample = 0 := by
    intro sample
    by_contra held
    obtain ⟨name, share, found, _⟩ :=
      exchange.shares.exists_of_total_pos _ (Nat.pos_of_ne_zero held)
    have member := (exchange.shares.mem_keys_iff name).2 ⟨share, found⟩
    rw [shares] at member
    cases member
  have loose : ∀ sample, exchange.looseShares sample = 0 := by
    intro sample
    by_contra held
    obtain ⟨name, queue, found, _⟩ :=
      exchange.queues.exists_of_total_pos _ (Nat.pos_of_ne_zero held)
    have member := (exchange.queues.mem_keys_iff name).2 ⟨queue, found⟩
    rw [queues] at member
    cases member
  rw [Finset.eq_empty_iff_forall_notMem]
  intro sample member
  have positive := (kept.mem_owned sample).1 member
  have ends := kept.named.endless publishers subscribers sample
  rw [owners, handles, loose, ends.1, ends.2] at positive
  exact absurd positive (Nat.lt_irrefl 0)

/--
Along every run, each sample has as many shares as it has owners, and exists for as long as it has one.  A
step finalizes exactly the samples that lose their last owner in it, and the copies it made in vain; a sample
without owners never gets one again.  So what was made and not finalized is what someone owns, which is
nothing once all names are gone.
-/
theorem shares_follow_owners (actions : List Action) :
    let exchange := run .empty actions
    (∀ sample, exchange.transport.store.sharesOf sample = exchange.owners sample) ∧
      (∀ sample, sample ∈ exchange.owned ↔ 0 < exchange.owners sample) ∧
      (∀ sample, sample ∈ exchange.owned ↔
        ∃ held, exchange.transport.store.samples.get? sample = some held) ∧
      exchange.live = exchange.owned.card ∧
      (∀ action,
        let later := (exchange.step action).2
        (∀ sample < exchange.made, sample ∉ exchange.owned → sample ∉ later.owned) ∧
          ∃ refused,
            later.calls.init + exchange.made = exchange.calls.init + later.made + refused ∧
              later.calls.fini =
                exchange.calls.fini + (exchange.orphaned later).card + refused) ∧
      (exchange.shares.keys = [] → exchange.queues.keys = [] → exchange.publishers.keys = [] →
        exchange.subscribers.keys = [] → exchange.live = 0) := by
  intro exchange
  have kept : exchange.Kept := kept_empty.run actions
  have live : exchange.live = exchange.owned.card := by
    have balance := kept.balance
    unfold calls at balance
    unfold Exchange.live Ledger.live
    omega
  refine ⟨kept.sound.counted, kept.mem_owned, fun sample => ?_, live, fun action => ?_, ?_⟩
  · rw [kept.mem_owned, kept.exists_iff]
  · exact ⟨fun sample old unowned => kept.gone action old unowned, kept.finalizes action⟩
  · intro shares queues publishers subscribers
    rw [live, kept.unowned shares queues publishers subscribers]
    rfl

/-- A share is pushed into a queue and published, and what waits is taken out into another share. -/
example :
    let exchange := run .empty [
      .makeShare "a" 7,
      .openQueue "q" .standard,
      .pushShare "q" "a",
      .addPublisher "p" { Qos.standard with durability := .transientLocal } "c",
      .addSubscriber "s" .standard "c",
      .publishShare "p" "a",
      .popSubscriberInto "b" "s",
      .dropShare "a"]
    exchange.owners 0 = 3 ∧ exchange.live = 1 ∧
      (exchange.run [.closeQueue "q", .dropPublisher "p", .dropShare "b"]).live = 0 := by
  decide +kernel

end Exchange

end PubSub
