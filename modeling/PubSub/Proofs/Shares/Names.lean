import PubSub.Proofs.Endpoints
import PubSub.Proofs.Shares.Exchange

/-!
Names of endpoints in an exchange.  Only operations that register or remove an endpoint change which ones there are and
how they are named; all others leave both sides of the topic the same.  Every endpoint of the transport is under a name,
so nothing holds a sample once all names are gone.
-/

namespace PubSub.Exchange

def NamedIn {Value : Type} (arena : Arena Value) (names : Table String Nat) : Prop :=
  ∀ index, arena.contains index = true → ∃ name, names.get? name = some index

section NamedIn

variable {Value : Type} {arena later : Arena Value} {names : Table String Nat}

theorem NamedIn.same (named : NamedIn arena names)
    (contains : ∀ index, later.contains index = arena.contains index) : NamedIn later names :=
  fun index present => named index ((contains index).symm.trans present)

theorem NamedIn.erase (named : NamedIn arena names) {after : Table String Nat} {name : String}
    (contains : ∀ index, later.contains index = true →
      names.get? name ≠ some index ∧ arena.contains index = true)
    (renamed : ∀ other, after.get? other = if other = name then none else names.get? other) :
    NamedIn later after := by
  intro index present
  obtain ⟨kept, before⟩ := contains index present
  obtain ⟨other, there⟩ := named index before
  refine ⟨other, ?_⟩
  rw [renamed, if_neg]
  · exact there
  · intro same
    exact kept (same ▸ there)

theorem NamedIn.replace (named : NamedIn arena names) {after : Table String Nat} {name : String}
    {fresh : Nat}
    (contains : ∀ index, later.contains index = true →
      index = fresh ∨ names.get? name ≠ some index ∧ arena.contains index = true)
    (renamed : ∀ other, after.get? other = if other = name then some fresh else names.get? other) :
    NamedIn later after := by
  intro index present
  rcases contains index present with new | ⟨kept, before⟩
  · exact ⟨name, by rw [renamed, if_pos rfl, new]⟩
  · obtain ⟨other, there⟩ := named index before
    refine ⟨other, ?_⟩
    rw [renamed, if_neg]
    · exact there
    · intro same
      exact kept (same ▸ there)

end NamedIn

theorem publishers_removePublisher (exchange : Exchange) (name other : String) :
    (exchange.removePublisher name).publishers.get? other =
      if other = name then none else exchange.publishers.get? other := by
  unfold removePublisher
  cases found : exchange.publishers.get? name with
  | none =>
      by_cases same : other = name
      · rw [if_pos same, same]
        exact found
      · rw [if_neg same]
  | some publisher => exact Table.get?_erase _ _ _

theorem subscribers_removeSubscriber (exchange : Exchange) (name other : String) :
    (exchange.removeSubscriber name).subscribers.get? other =
      if other = name then none else exchange.subscribers.get? other := by
  unfold removeSubscriber
  cases found : exchange.subscribers.get? name with
  | none =>
      by_cases same : other = name
      · rw [if_pos same, same]
        exact found
      · rw [if_neg same]
  | some subscriber => exact Table.get?_erase _ _ _

theorem contains_removePublisher (exchange : Exchange) (name : String) (index : Nat)
    (present : (exchange.removePublisher name).transport.publishers.contains index = true) :
    exchange.publishers.get? name ≠ some index ∧
      exchange.transport.publishers.contains index = true := by
  unfold removePublisher at present
  cases found : exchange.publishers.get? name with
  | none =>
      rw [found] at present
      exact ⟨Option.some_ne_none index |>.symm, present⟩
  | some publisher =>
      simp only [found, Transport.contains_dropPublisher, Bool.and_eq_true,
        decide_eq_true_eq] at present
      exact ⟨fun same => present.1 (Option.some.inj same).symm, present.2⟩

theorem contains_removeSubscriber (exchange : Exchange) (name : String) (index : Nat)
    (present : (exchange.removeSubscriber name).transport.subscribers.contains index = true) :
    exchange.subscribers.get? name ≠ some index ∧
      exchange.transport.subscribers.contains index = true := by
  unfold removeSubscriber at present
  cases found : exchange.subscribers.get? name with
  | none =>
      rw [found] at present
      exact ⟨Option.some_ne_none index |>.symm, present⟩
  | some subscriber =>
      simp only [found, Transport.contains_dropSubscriber, Bool.and_eq_true,
        decide_eq_true_eq] at present
      exact ⟨fun same => present.1 (Option.some.inj same).symm, present.2⟩

variable {exchange later : Exchange}

structure SameSides (before after : Exchange) : Prop where
  publishers : ∀ index,
    after.transport.publishers.contains index = before.transport.publishers.contains index
  subscribers : ∀ index,
    after.transport.subscribers.contains index = before.transport.subscribers.contains index
  nextPublisher : after.transport.publishers.next = before.transport.publishers.next
  nextSubscriber : after.transport.subscribers.next = before.transport.subscribers.next
  topic : after.topic = before.topic
  publisherNames : after.publishers = before.publishers
  subscriberNames : after.subscribers = before.subscribers

theorem SameSides.refl (exchange : Exchange) : exchange.SameSides exchange :=
  ⟨fun _ => rfl, fun _ => rfl, rfl, rfl, rfl, rfl, rfl⟩

theorem SameSides.ofEnds {transport : Transport} (same : Transport.SameEnds exchange.transport transport) :
    exchange.SameSides { exchange with transport } :=
  ⟨same.publishers, same.subscribers, same.nextPublisher, same.nextSubscriber, rfl, rfl, rfl⟩

theorem sameSides_removeQueue (exchange : Exchange) (name : String) :
    exchange.SameSides (exchange.removeQueue name) := by
  unfold removeQueue
  cases exchange.queues.get? name with
  | none => exact .refl exchange
  | some queue => exact { SameSides.refl exchange with }

theorem sameSides_contextOf (exchange : Exchange) (name : String) :
    exchange.SameSides (exchange.contextOf name).2 := by
  obtain ⟨contexts, names, opened⟩ := exchange.contextOf_cases name
  rw [opened]
  exact { SameSides.refl exchange with }

theorem SameSides.trans {first second third : Exchange} (early : first.SameSides second)
    (late : second.SameSides third) : first.SameSides third :=
  ⟨fun index => (late.publishers index).trans (early.publishers index),
    fun index => (late.subscribers index).trans (early.subscribers index),
    late.nextPublisher.trans early.nextPublisher, late.nextSubscriber.trans early.nextSubscriber,
    late.topic.trans early.topic, late.publisherNames.trans early.publisherNames,
    late.subscriberNames.trans early.subscriberNames⟩

theorem sameSides_withStore (exchange : Exchange) (store : SampleStore) :
    exchange.SameSides (exchange.withStore store) :=
  { SameSides.refl exchange with }

theorem sameSides_placeShare (exchange : Exchange) (name : String) (share : Option Nat) :
    exchange.SameSides (exchange.placeShare name share) :=
  { SameSides.refl exchange with }

theorem sameSides_created {value : Int64} {sample : Option Nat} {after : Exchange}
    (created : exchange.createSample value = (sample, after)) : exchange.SameSides after := by
  have made : (exchange.createSample value).2 = after := congrArg Prod.snd created
  rw [← made]
  exact exchange.sameSides_withStore _

theorem sameSides_sendSample (exchange : Exchange) (publisher sample : Nat) :
    exchange.SameSides (exchange.sendSample publisher sample) :=
  .ofEnds (exchange.transport.sameEnds_publish exchange.topic publisher sample)

theorem sameSides_popSample {name : String} {sample : Nat} {popped : Exchange}
    (taken : exchange.popSample name = some (sample, popped)) : exchange.SameSides popped := by
  obtain ⟨queue, _, rest⟩ := Option.bind_eq_some_iff.mp taken
  obtain ⟨_, _, same⟩ := Option.bind_eq_some_iff.mp rest
  cases same
  exact { SameSides.refl exchange with }

theorem sameSides_receiveSample {subscriber sample : Nat} {received : Exchange}
    (taken : exchange.receiveSample subscriber = some (sample, received)) :
    exchange.SameSides received := by
  obtain ⟨_, took, same⟩ := Option.bind_eq_some_iff.mp taken
  cases same
  exact .ofEnds (Transport.sameEnds_takeSample took)

/-- Whether an operation registers or removes an endpoint. -/
def Action.registers : Action → Bool
  | .addPublisher _ _ _ => true
  | .addSubscriber _ _ _ => true
  | .dropPublisher _ => true
  | .dropSubscriber _ => true
  | _ => false

theorem Steps.sameSides {action : Action} {after : Exchange} (steps : exchange.Steps action after)
    (keeps : action.registers = false) : exchange.SameSides after := by
  cases steps with
  | idle => exact .refl exchange
  | shareMade name created => exact (sameSides_created created).trans (sameSides_placeShare _ name _)
  | shareCopied name found | shareAssigned name found =>
      exact (exchange.sameSides_withStore _).trans (sameSides_placeShare _ name _)
  | shareMoved name found | shareMoveAssigned name found => exact { SameSides.refl exchange with }
  | shareDropped name => exact { SameSides.refl exchange with }
  | refusalsSet count => exact exchange.sameSides_withStore _
  | queueOpened name qos => exact { exchange.sameSides_removeQueue name with }
  | notPushed name created | notPublished name created => exact sameSides_created created
  | @pushed _ _ _ _ after _ created => exact (sameSides_created created).trans { SameSides.refl after with }
  | sharePushed _ _ => exact { SameSides.refl exchange with }
  | popped taken => exact (sameSides_popSample taken).trans (sameSides_withStore _ _)
  | poppedInto name taken => exact (sameSides_popSample taken).trans (sameSides_placeShare _ name _)
  | queueClosed name => exact exchange.sameSides_removeQueue name
  | @published _ _ publisher sample after _ created =>
      exact ((sameSides_created created).trans (after.sameSides_sendSample publisher sample)).trans
        (sameSides_withStore _ _)
  | @sharePublished _ _ publisher sample _ _ => exact exchange.sameSides_sendSample publisher sample
  | keptCopied name kept => exact (exchange.sameSides_withStore _).trans (sameSides_placeShare _ name _)
  | received _ taken => exact (sameSides_receiveSample taken).trans (sameSides_withStore _ _)
  | receivedInto name _ taken => exact (sameSides_receiveSample taken).trans (sameSides_placeShare _ name _)
  | ended name => exact { exchange.sameSides_contextOf name with }
  | publisherAdded name qos context => cases keeps
  | subscriberAdded name qos context => cases keeps
  | publisherDropped name => cases keeps
  | subscriberDropped name => cases keeps

structure Named (exchange : Exchange) : Prop where
  publishers : NamedIn exchange.transport.publishers exchange.publishers
  subscribers : NamedIn exchange.transport.subscribers exchange.subscribers

theorem Named.same (named : exchange.Named) (same : exchange.SameSides later) : later.Named where
  publishers := by
    rw [same.publisherNames]
    exact named.publishers.same same.publishers
  subscribers := by
    rw [same.subscriberNames]
    exact named.subscribers.same same.subscribers

theorem namedIn_removePublisher (exchange : Exchange)
    (named : NamedIn exchange.transport.subscribers exchange.subscribers) (name : String) :
    NamedIn (exchange.removePublisher name).transport.subscribers
      (exchange.removePublisher name).subscribers := by
  unfold removePublisher
  cases exchange.publishers.get? name with
  | none => exact named
  | some publisher =>
      dsimp only
      rw [Transport.subscribers_dropPublisher]
      exact named

theorem namedIn_removeSubscriber (exchange : Exchange)
    (named : NamedIn exchange.transport.publishers exchange.publishers) (name : String) :
    NamedIn (exchange.removeSubscriber name).transport.publishers
      (exchange.removeSubscriber name).publishers := by
  unfold removeSubscriber
  cases exchange.subscribers.get? name with
  | none => exact named
  | some subscriber =>
      dsimp only
      rw [Transport.publishers_dropSubscriber]
      exact named

theorem Named.removePublisher (named : exchange.Named) (name : String) :
    (exchange.removePublisher name).Named :=
  ⟨named.publishers.erase (exchange.contains_removePublisher name)
      (exchange.publishers_removePublisher name),
    exchange.namedIn_removePublisher named.subscribers name⟩

theorem Named.removeSubscriber (named : exchange.Named) (name : String) :
    (exchange.removeSubscriber name).Named :=
  ⟨exchange.namedIn_removeSubscriber named.publishers name,
    named.subscribers.erase (exchange.contains_removeSubscriber name)
      (exchange.subscribers_removeSubscriber name)⟩

private theorem renamed {names removed : Table String Nat} {name : String} (fresh : Nat)
    (erased : ∀ other, removed.get? other = if other = name then none else names.get? other)
    (other : String) :
    (removed.set name fresh).get? other = if other = name then some fresh else names.get? other := by
  rw [Table.get?_set, erased]
  by_cases same : other = name
  · rw [if_pos same, if_pos same]
  · rw [if_neg same, if_neg same, if_neg same]

theorem Named.addPublisher (named : exchange.Named) (name : String) (qos : Qos) (context : String) :
    (exchange.step (.addPublisher name qos context)).2.Named := by
  have opened := named.same (exchange.sameSides_contextOf context)
  let made := exchange.withPublisher qos context
  refine ⟨opened.publishers.replace (fun index present => ?_)
    (renamed _ (made.publishers_removePublisher name)),
    made.namedIn_removePublisher opened.subscribers name⟩
  obtain ⟨kept, there⟩ := made.contains_removePublisher name index present
  have inserted := Arena.contains_insert (exchange.contextOf context).2.transport.publishers
    { qos, context := (exchange.contextOf context).1, history := [] } index
  rw [show made.transport.publishers.contains index = _ from inserted, Bool.or_eq_true,
    decide_eq_true_eq] at there
  exact there.imp_right (fun before => ⟨kept, before⟩)

theorem Named.addSubscriber (named : exchange.Named) (name : String) (qos : Qos) (context : String) :
    (exchange.step (.addSubscriber name qos context)).2.Named := by
  have opened := named.same (exchange.sameSides_contextOf context)
  let made := exchange.withSubscriber qos context
  have same := (exchange.contextOf context).2.transport.sameEnds_addSubscriber
    (exchange.contextOf context).2.topic qos (exchange.contextOf context).1
  refine ⟨made.namedIn_removeSubscriber ?_ name,
    opened.subscribers.replace (fun index present => ?_)
      (renamed _ (made.subscribers_removeSubscriber name))⟩
  · exact opened.publishers.same same.publishers
  · obtain ⟨kept, there⟩ := made.contains_removeSubscriber name index present
    have inserted := Arena.contains_insert (exchange.contextOf context).2.transport.subscribers
      { qos, context := (exchange.contextOf context).1, queue := .ofQos qos } index
    rw [show made.transport.subscribers.contains index = _ from same.subscribers index, inserted,
      Bool.or_eq_true, decide_eq_true_eq] at there
    exact there.imp_right (fun before => ⟨kept, before⟩)

theorem Named.step (named : exchange.Named) (action : Action) : (exchange.step action).2.Named := by
  cases action with
  | addPublisher name qos context => exact named.addPublisher name qos context
  | addSubscriber name qos context => exact named.addSubscriber name qos context
  | dropPublisher name => exact named.removePublisher name
  | dropSubscriber name => exact named.removeSubscriber name
  | _ => exact named.same ((exchange.steps_step _).sameSides rfl)

theorem Named.endless (named : exchange.Named) (publishers : exchange.publishers.keys = [])
    (subscribers : exchange.subscribers.keys = []) (sample : Nat) :
    exchange.transport.historyShares sample = 0 ∧ exchange.transport.queueShares sample = 0 := by
  have nameless : ∀ names : Table String Nat, names.keys = [] →
      ∀ name index, names.get? name ≠ some index := by
    intro names none name index found
    have member := (names.mem_keys_iff name).2 ⟨index, found⟩
    rw [none] at member
    cases member
  constructor
  · by_contra held
    obtain ⟨index, state, found, _⟩ :=
      exchange.transport.publishers.exists_of_total_pos _ (Nat.pos_of_ne_zero held)
    obtain ⟨name, there⟩ := named.publishers index ((Arena.contains_iff _ _).2 ⟨state, found⟩)
    exact nameless _ publishers name index there
  · by_contra held
    obtain ⟨index, state, found, _⟩ :=
      exchange.transport.subscribers.exists_of_total_pos _ (Nat.pos_of_ne_zero held)
    obtain ⟨name, there⟩ := named.subscribers index ((Arena.contains_iff _ _).2 ⟨state, found⟩)
    exact nameless _ subscribers name index there

end PubSub.Exchange
