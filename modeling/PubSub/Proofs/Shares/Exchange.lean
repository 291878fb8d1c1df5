import PubSub.Proofs.Shares.Transport
import PubSub.Transport.Exchange

/-!
Shares in an exchange.  A sample is owned by named shares, by places in named queues, by histories and by
the queues of subscribers.  Along every run each sample has as many shares as owners.  Whatever holds of
every operation is proved of what operations can do, which is told once.
-/

namespace PubSub.Exchange

def withPublisher (exchange : Exchange) (qos : Qos) (context : String) : Exchange :=
  let (number, opened) := exchange.contextOf context
  let (_, topic, transport) := opened.transport.addPublisher opened.topic qos number
  { opened with topic, transport }

def withSubscriber (exchange : Exchange) (qos : Qos) (context : String) : Exchange :=
  let (number, opened) := exchange.contextOf context
  let (_, topic, transport) := opened.transport.addSubscriber opened.topic qos number
  { opened with topic, transport }

/-- What an operation can do; where something that it needs is missing, it does nothing. -/
inductive Steps (exchange : Exchange) : Action → Exchange → Prop
  | idle {action : Action} : exchange.Steps action exchange
  | shareMade (name : String) {value : Int64} {sample : Option Nat} {after : Exchange}
      (created : exchange.createSample value = (sample, after)) :
      exchange.Steps (.makeShare name value) (after.placeShare name sample)
  | shareCopied (name : String) {source : String} {share : Option Nat}
      (found : exchange.shares.get? source = some share) :
      exchange.Steps (.copyShare name source)
        ((exchange.withStore (retainShare exchange.transport.store share)).placeShare name share)
  | shareMoved (name : String) {source : String} {share : Option Nat}
      (found : exchange.shares.get? source = some share) :
      exchange.Steps (.moveShare name source)
        ({ exchange with shares := exchange.shares.set source none }.placeShare name share)
  | shareAssigned (name : String) {source : String} {share : Option Nat}
      (found : exchange.shares.get? source = some share) :
      exchange.Steps (.assignShare name source)
        ((exchange.withStore (retainShare exchange.transport.store share)).placeShare name share)
  | shareMoveAssigned (name : String) {source : String} {share : Option Nat}
      (found : exchange.shares.get? source = some share) :
      exchange.Steps (.moveAssignShare name source)
        ({ exchange with shares := exchange.shares.set source none }.placeShare name share)
  | shareDropped (name : String) :
      exchange.Steps (.dropShare name)
        { exchange.placeShare name none with shares := (exchange.placeShare name none).shares.erase name }
  | refusalsSet (count : Nat) :
      exchange.Steps (.refuseCopies count)
        (exchange.withStore { exchange.transport.store with
          ledger := { exchange.transport.store.ledger with refusals := count } })
  | queueOpened (name : String) (qos : Qos) :
      exchange.Steps (.openQueue name qos)
        { exchange.removeQueue name with queues := (exchange.removeQueue name).queues.set name (.ofQos qos) }
  | notPushed (name : String) {value : Int64} {after : Exchange}
      (created : exchange.createSample value = (none, after)) : exchange.Steps (.push name value) after
  | pushed {name : String} {value : Int64} {queue : SampleQueue} {sample : Nat} {after : Exchange}
      (found : exchange.queues.get? name = some queue)
      (created : exchange.createSample value = (some sample, after)) :
      exchange.Steps (.push name value) ((after.pushSample name queue sample).releaseSample sample)
  | sharePushed {name source : String} {queue : SampleQueue} {sample : Nat}
      (found : exchange.queues.get? name = some queue)
      (held : exchange.shares.get? source = some (some sample)) :
      exchange.Steps (.pushShare name source) (exchange.pushSample name queue sample)
  | popped {name : String} {sample : Nat} {popped : Exchange}
      (taken : exchange.popSample name = some (sample, popped)) :
      exchange.Steps (.popQueue name) (popped.releaseSample sample)
  | poppedInto (name : String) {queueName : String} {sample : Nat} {popped : Exchange}
      (taken : exchange.popSample queueName = some (sample, popped)) :
      exchange.Steps (.popQueueInto name queueName) (popped.placeShare name (some sample))
  | queueClosed (name : String) : exchange.Steps (.closeQueue name) (exchange.removeQueue name)
  | publisherAdded (name : String) (qos : Qos) (context : String) :
      exchange.Steps (.addPublisher name qos context)
        { (exchange.withPublisher qos context).removePublisher name with
          publishers := ((exchange.withPublisher qos context).removePublisher name).publishers.set name
            (exchange.contextOf context).2.transport.publishers.next }
  | subscriberAdded (name : String) (qos : Qos) (context : String) :
      exchange.Steps (.addSubscriber name qos context)
        { (exchange.withSubscriber qos context).removeSubscriber name with
          subscribers := ((exchange.withSubscriber qos context).removeSubscriber name).subscribers.set name
            (exchange.contextOf context).2.transport.subscribers.next }
  | notPublished (name : String) {value : Int64} {after : Exchange}
      (created : exchange.createSample value = (none, after)) : exchange.Steps (.publish name value) after
  | published {name : String} {value : Int64} {publisher sample : Nat} {after : Exchange}
      (found : exchange.publishers.get? name = some publisher)
      (created : exchange.createSample value = (some sample, after)) :
      exchange.Steps (.publish name value) ((after.sendSample publisher sample).releaseSample sample)
  | sharePublished {name source : String} {publisher sample : Nat}
      (found : exchange.publishers.get? name = some publisher)
      (held : exchange.shares.get? source = some (some sample)) :
      exchange.Steps (.publishShare name source) (exchange.sendSample publisher sample)
  | keptCopied (name : String) {publisher : String} {place sample : Nat}
      (kept : exchange.keptSample publisher place = some sample) :
      exchange.Steps (.copyKept name publisher place)
        ((exchange.withStore (exchange.transport.store.retain sample)).placeShare name (some sample))
  | received {name : String} {subscriber sample : Nat} {received : Exchange}
      (found : exchange.subscribers.get? name = some subscriber)
      (taken : exchange.receiveSample subscriber = some (sample, received)) :
      exchange.Steps (.popSubscriber name) (received.releaseSample sample)
  | receivedInto (name : String) {source : String} {subscriber sample : Nat} {received : Exchange}
      (found : exchange.subscribers.get? source = some subscriber)
      (taken : exchange.receiveSample subscriber = some (sample, received)) :
      exchange.Steps (.popSubscriberInto name source) (received.placeShare name (some sample))
  | ended (name : String) :
      exchange.Steps (.invalidate name)
        { (exchange.contextOf name).2 with
          transport := (exchange.contextOf name).2.transport.invalidate (exchange.contextOf name).1 }
  | publisherDropped (name : String) : exchange.Steps (.dropPublisher name) (exchange.removePublisher name)
  | subscriberDropped (name : String) : exchange.Steps (.dropSubscriber name) (exchange.removeSubscriber name)

theorem steps_step (exchange : Exchange) (action : Action) : exchange.Steps action (exchange.step action).2 := by
  cases action with
  | makeShare name value => exact .shareMade name rfl
  | copyShare name source =>
      dsimp only [step]
      cases found : exchange.shares.get? source with
      | none => exact .idle
      | some share => exact .shareCopied name found
  | moveShare name source =>
      dsimp only [step]
      cases found : exchange.shares.get? source with
      | none => exact .idle
      | some share => exact .shareMoved name found
  | assignShare name source =>
      dsimp only [step]
      cases exchange.shares.get? name with
      | none => exact .idle
      | some previous =>
          cases found : exchange.shares.get? source with
          | none => exact .idle
          | some share =>
              dsimp only
              by_cases same : name = source
              · rw [if_pos same]
                exact .idle
              · rw [if_neg same]
                exact .shareAssigned name found
  | moveAssignShare name source =>
      dsimp only [step]
      cases exchange.shares.get? name with
      | none => exact .idle
      | some previous =>
          cases found : exchange.shares.get? source with
          | none => exact .idle
          | some share =>
              dsimp only
              by_cases same : name = source
              · rw [if_pos same]
                exact .idle
              · rw [if_neg same]
                exact .shareMoveAssigned name found
  | dropShare name => exact .shareDropped name
  | refuseCopies count => exact .refusalsSet count
  | openQueue name qos => exact .queueOpened name qos
  | push name value =>
      dsimp only [step]
      cases found : exchange.queues.get? name with
      | none => exact .idle
      | some queue =>
          dsimp only
          rcases created : exchange.createSample value with ⟨_ | sample, after⟩
          · exact .notPushed name created
          · exact .pushed found created
  | pushShare name source =>
      dsimp only [step]
      cases found : exchange.queues.get? name with
      | none => exact .idle
      | some queue =>
          rcases held : exchange.shares.get? source with _ | _ | sample
          · exact .idle
          · exact .idle
          · exact .sharePushed found held
  | popQueue name =>
      dsimp only [step]
      cases exchange.queues.get? name with
      | none => exact .idle
      | some queue =>
          dsimp only
          rcases taken : exchange.popSample name with _ | ⟨sample, popped⟩
          · exact .idle
          · exact .popped taken
  | popQueueInto name queueName =>
      dsimp only [step]
      cases exchange.queues.get? queueName with
      | none => exact .idle
      | some queue =>
          dsimp only
          rcases taken : exchange.popSample queueName with _ | ⟨sample, popped⟩
          · exact .idle
          · exact .poppedInto name taken
  | closeQueue name => exact .queueClosed name
  | addPublisher name qos context => exact .publisherAdded name qos context
  | addSubscriber name qos context => exact .subscriberAdded name qos context
  | publish name value =>
      dsimp only [step]
      cases found : exchange.publishers.get? name with
      | none => exact .idle
      | some publisher =>
          dsimp only
          rcases created : exchange.createSample value with ⟨_ | sample, after⟩
          · exact .notPublished name created
          · exact .published found created
  | publishShare name source =>
      dsimp only [step]
      cases found : exchange.publishers.get? name with
      | none => exact .idle
      | some publisher =>
          rcases held : exchange.shares.get? source with _ | _ | sample
          · exact .idle
          · exact .idle
          · exact .sharePublished found held
  | copyKept name publisher place =>
      dsimp only [step]
      cases kept : exchange.keptSample publisher place with
      | none => exact .idle
      | some sample => exact .keptCopied name kept
  | popSubscriber name =>
      dsimp only [step]
      cases found : exchange.subscribers.get? name with
      | none => exact .idle
      | some subscriber =>
          dsimp only
          rcases taken : exchange.receiveSample subscriber with _ | ⟨sample, received⟩
          · exact .idle
          · exact .received found taken
  | popSubscriberInto name source =>
      dsimp only [step]
      cases found : exchange.subscribers.get? source with
      | none => exact .idle
      | some subscriber =>
          dsimp only
          rcases taken : exchange.receiveSample subscriber with _ | ⟨sample, received⟩
          · exact .idle
          · exact .receivedInto name found taken
  | countSubscriptions name =>
      dsimp only [step]
      cases exchange.publishers.get? name <;> exact .idle
  | countPublishers name =>
      dsimp only [step]
      cases exchange.subscribers.get? name <;> exact .idle
  | invalidate name => exact .ended name
  | dropPublisher name => exact .publisherDropped name
  | dropSubscriber name => exact .subscriberDropped name

def handleShares (exchange : Exchange) (sample : Nat) : Nat :=
  exchange.shares.total (fun share => share.toList.count sample)

def looseShares (exchange : Exchange) (sample : Nat) : Nat :=
  exchange.queues.total (fun queue => queue.waiting.count sample)

def owners (exchange : Exchange) (sample : Nat) : Nat :=
  exchange.handleShares sample + exchange.transport.historyShares sample +
    exchange.transport.queueShares sample + exchange.looseShares sample

/-- Every sample has one share for each owner, and one for each time that it is in hand. -/
def SoundWith (exchange : Exchange) (inHand : List Nat) : Prop :=
  exchange.transport.Sound (fun sample =>
    exchange.handleShares sample + exchange.looseShares sample + inHand.count sample)

variable {exchange : Exchange} {inHand : List Nat}

theorem SoundWith.counted (sound : exchange.SoundWith []) (sample : Nat) :
    exchange.transport.store.sharesOf sample = exchange.owners sample := by
  have counted := SampleStore.Sound.counted sound sample
  simp only [List.count_nil, Nat.add_zero] at counted
  simp only [owners]
  omega

private theorem releaseShare_sound {store : SampleStore} {before owners : Nat → Nat}
    (sound : store.Sound before) (share : Option Nat)
    (given : ∀ other, before other = owners other + share.toList.count other) :
    (releaseShare store share).Sound owners := by
  cases share with
  | none => exact sound.congr given
  | some sample => exact sound.release sample given

private theorem retainShare_sound {store : SampleStore} {owners : Nat → Nat}
    (sound : store.Sound owners) (share : Option Nat) (owned : ∀ sample ∈ share, 0 < owners sample) :
    (retainShare store share).Sound (fun other => owners other + share.toList.count other) := by
  cases share with
  | none => exact sound
  | some sample => exact sound.retain sample (owned sample rfl)

theorem SoundWith.placeShare {share : Option Nat} (sound : exchange.SoundWith share.toList)
    (name : String) : (exchange.placeShare name share).SoundWith [] := by
  refine releaseShare_sound sound _ (fun other => ?_)
  have moved := exchange.shares.total_set name share (fun held => held.toList.count other)
  have previous : (exchange.shares.get? name).elim 0 (fun held => held.toList.count other) =
      ((exchange.shares.get? name).getD none).toList.count other := by
    cases exchange.shares.get? name <;> rfl
  simp only [handleShares, looseShares, Exchange.placeShare, withStore, Transport.withStore,
    Transport.historyShares, Transport.queueShares, List.count_nil, Nat.add_zero] at moved previous ⊢
  omega

theorem handleShares_pos {name : String} {sample : Nat}
    (found : exchange.shares.get? name = some (some sample)) : 0 < exchange.handleShares sample := by
  have atMost := exchange.shares.le_total found (fun held => held.toList.count sample)
  rw [Option.toList_some, List.count_singleton_self] at atMost
  exact atMost

theorem SoundWith.retainShare {source : String} {share : Option Nat} (sound : exchange.SoundWith [])
    (found : exchange.shares.get? source = some share) :
    (exchange.withStore (retainShare exchange.transport.store share)).SoundWith share.toList := by
  refine (retainShare_sound sound share ?_).congr (fun other => ?_)
  · intro sample member
    rw [Option.mem_def.mp member] at found
    have positive := handleShares_pos found
    beta_reduce
    omega
  · simp only [List.count_nil, Nat.add_zero]
    exact Nat.add_assoc _ _ _

theorem SoundWith.moveOut {source : String} {share : Option Nat} (sound : exchange.SoundWith [])
    (found : exchange.shares.get? source = some share) :
    ({ exchange with shares := exchange.shares.set source none } : Exchange).SoundWith
      share.toList := by
  refine SampleStore.Sound.congr sound (fun other => ?_)
  have moved := exchange.shares.total_set source none (fun held => held.toList.count other)
  simp only [found, Option.elim_some, Option.toList_none, List.count_nil] at moved
  simp only [handleShares, looseShares, List.count_nil]
  omega

theorem SoundWith.dropShare (sound : exchange.SoundWith []) (name : String) :
    (exchange.step (.dropShare name)).2.SoundWith [] := by
  have placed : (exchange.placeShare name none).SoundWith [] := SoundWith.placeShare sound name
  refine SampleStore.Sound.congr placed (fun other => ?_)
  have erased := (exchange.placeShare name none).shares.total_erase name
    (fun held => held.toList.count other)
  have empty : (exchange.placeShare name none).shares.get? name = some none := by
    simp [Exchange.placeShare, Table.get?_set]
  simp only [empty, Option.elim_some, Option.toList_none, List.count_nil, Nat.add_zero] at erased
  simp only [handleShares, looseShares, step] at erased ⊢
  rw [erased]

theorem SoundWith.created {value : Int64} {sample : Option Nat} {after : Exchange}
    (sound : exchange.SoundWith []) (created : exchange.createSample value = (sample, after)) :
    after.SoundWith sample.toList := by
  unfold Exchange.createSample at created
  rcases made : exchange.transport.store.create .counted (.number value) with ⟨_ | number, store⟩
  · rw [made, Prod.mk.injEq] at created
    obtain ⟨rfl, rfl⟩ := created
    exact SampleStore.Sound.create_none sound made
  · rw [made, Prod.mk.injEq] at created
    obtain ⟨rfl, rfl⟩ := created
    refine (SampleStore.Sound.create_some sound made).congr (fun other => ?_)
    simp only [List.count_nil, Nat.add_zero, Option.toList_some]
    exact Nat.add_assoc _ _ _

theorem SoundWith.releaseSample {sample : Nat} (sound : exchange.SoundWith [sample]) :
    (exchange.releaseSample sample).SoundWith [] := by
  refine SampleStore.Sound.release sound sample (fun other => ?_)
  simp only [handleShares, looseShares, Exchange.releaseSample, withStore, Transport.withStore,
    Transport.historyShares, Transport.queueShares, List.count_nil, Nat.add_zero]
  omega

/-- Who pushes a sample or sends it has a share of it, by name or in hand, and keeps that one. -/
theorem SoundWith.pushSample {name : String} {queue : SampleQueue} {sample : Nat}
    (sound : exchange.SoundWith inHand) (found : exchange.queues.get? name = some queue)
    (owned : 0 < exchange.handleShares sample + inHand.count sample) :
    (exchange.pushSample name queue sample).SoundWith inHand := by
  have atMost := fun other => exchange.queues.le_total found (fun held => held.waiting.count other)
  let others := fun other =>
    exchange.transport.historyShares other + exchange.transport.queueShares other +
      exchange.handleShares other + (exchange.looseShares other - queue.waiting.count other) +
      inHand.count other
  have given : ∀ other, exchange.transport.historyShares other +
      exchange.transport.queueShares other +
      (exchange.handleShares other + exchange.looseShares other + inHand.count other) =
        others other + queue.waiting.count other := by
    intro other
    have here : _ ≤ exchange.looseShares other := atMost other
    dsimp only [others]
    omega
  have kept : 0 < others sample := by
    dsimp only [others]
    omega
  refine (SampleStore.Sound.enqueue sound queue sample given kept).congr (fun other => ?_)
  have moved := exchange.queues.total_set name (exchange.transport.store.enqueue queue sample).1
    (fun held => held.waiting.count other)
  have bound := atMost other
  simp only [found, Option.elim_some] at moved
  simp only [handleShares, looseShares, Exchange.pushSample, withStore, Transport.withStore,
    Transport.historyShares, Transport.queueShares, others] at *
  omega

theorem SoundWith.sendSample {sample : Nat} (sound : exchange.SoundWith inHand) (publisher : Nat)
    (owned : 0 < exchange.handleShares sample + inHand.count sample) :
    (exchange.sendSample publisher sample).SoundWith inHand :=
  Transport.Sound.publish sound exchange.topic publisher (by omega)

theorem SoundWith.popSample {name : String} {sample : Nat} {popped : Exchange}
    (sound : exchange.SoundWith []) (taken : exchange.popSample name = some (sample, popped)) :
    popped.SoundWith [sample] := by
  unfold Exchange.popSample at taken
  obtain ⟨queue, found, rest⟩ := Option.bind_eq_some_iff.mp taken
  obtain ⟨⟨front, changed⟩, first, same⟩ := Option.bind_eq_some_iff.mp rest
  cases same
  refine SampleStore.Sound.congr sound (fun other => ?_)
  have moved := exchange.queues.total_set name changed (fun held => held.waiting.count other)
  have counted := count_cons_eq sample other changed.waiting
  rw [← SampleQueue.waiting_of_pop first] at counted
  simp only [found, Option.elim_some] at moved
  simp only [handleShares, looseShares, List.count_nil, Nat.add_zero] at *
  omega

theorem SoundWith.receiveSample {subscriber sample : Nat} {received : Exchange}
    (sound : exchange.SoundWith [])
    (taken : exchange.receiveSample subscriber = some (sample, received)) :
    received.SoundWith [sample] := by
  unfold Exchange.receiveSample at taken
  obtain ⟨⟨front, transport⟩, took, same⟩ := Option.bind_eq_some_iff.mp taken
  cases same
  refine (Transport.Sound.takeSample sound took).congr (fun other => ?_)
  simp only [handleShares, looseShares, List.count_nil, Nat.add_zero]

theorem SoundWith.retainKept {publisher : String} {place sample : Nat} (sound : exchange.SoundWith [])
    (kept : exchange.keptSample publisher place = some sample) :
    (exchange.withStore (exchange.transport.store.retain sample)).SoundWith [sample] := by
  unfold Exchange.keptSample at kept
  obtain ⟨number, _, rest⟩ := Option.bind_eq_some_iff.mp kept
  obtain ⟨state, found, listed⟩ := Option.bind_eq_some_iff.mp rest
  have atMost := exchange.transport.publishers.le_total found (fun held => held.history.count sample)
  have member := List.count_pos_iff.mpr (List.mem_of_getElem? listed)
  refine (SampleStore.Sound.retain sound sample ?_).congr (fun other => ?_)
  · simp only [Transport.historyShares]
    omega
  · simp only [handleShares, looseShares, withStore, Transport.withStore, Transport.historyShares,
      Transport.queueShares, List.count_nil]
    omega

theorem SoundWith.removeQueue (sound : exchange.SoundWith []) (name : String) :
    (exchange.removeQueue name).SoundWith [] := by
  unfold Exchange.removeQueue
  cases found : exchange.queues.get? name with
  | none => exact sound
  | some queue =>
      refine SampleStore.Sound.releaseAll queue.waiting sound (fun other => ?_)
      have erased := exchange.queues.total_erase name (fun held => held.waiting.count other)
      simp only [found, Option.elim_some] at erased
      simp only [handleShares, looseShares, withStore, Transport.withStore, Transport.historyShares,
        Transport.queueShares, List.count_nil, Nat.add_zero] at *
      omega

theorem queues_removeQueue (exchange : Exchange) (name : String) :
    (exchange.removeQueue name).queues.get? name = none := by
  unfold removeQueue
  cases found : exchange.queues.get? name with
  | none => exact found
  | some queue => simp [Table.get?_erase]

theorem SoundWith.openQueue (sound : exchange.SoundWith []) (name : String) (qos : Qos) :
    (exchange.step (.openQueue name qos)).2.SoundWith [] := by
  refine SampleStore.Sound.congr (sound.removeQueue name) (fun other => ?_)
  have opened := (exchange.removeQueue name).queues.total_set name (.ofQos qos)
    (fun held => held.waiting.count other)
  rw [queues_removeQueue, Option.elim_none, Nat.add_zero] at opened
  simp only [SampleQueue.ofQos, List.count_nil, Nat.add_zero] at opened
  simp only [handleShares, looseShares, step, SampleQueue.ofQos] at opened ⊢
  rw [opened]

theorem contextOf_cases (exchange : Exchange) (name : String) :
    ∃ contexts names, (exchange.contextOf name).2 =
      { exchange with transport := { exchange.transport with contexts }, contexts := names } := by
  unfold contextOf
  cases exchange.contexts.get? name with
  | some context => exact ⟨exchange.transport.contexts, exchange.contexts, rfl⟩
  | none => exact ⟨_, _, rfl⟩

theorem SoundWith.contextOf (sound : exchange.SoundWith []) (name : String) :
    (exchange.contextOf name).2.SoundWith [] := by
  obtain ⟨contexts, names, opened⟩ := exchange.contextOf_cases name
  rw [opened]
  exact sound

theorem SoundWith.removePublisher (sound : exchange.SoundWith []) (name : String) :
    (exchange.removePublisher name).SoundWith [] := by
  unfold Exchange.removePublisher
  cases exchange.publishers.get? name with
  | none => exact sound
  | some publisher => exact Transport.Sound.dropPublisher sound publisher

theorem SoundWith.removeSubscriber (sound : exchange.SoundWith []) (name : String) :
    (exchange.removeSubscriber name).SoundWith [] := by
  unfold Exchange.removeSubscriber
  cases exchange.subscribers.get? name with
  | none => exact sound
  | some subscriber => exact Transport.Sound.dropSubscriber sound subscriber

theorem SoundWith.withPublisher (sound : exchange.SoundWith []) (qos : Qos) (context : String) :
    (exchange.withPublisher qos context).SoundWith [] :=
  Transport.Sound.addPublisher (sound.contextOf context) (exchange.contextOf context).2.topic qos
    (exchange.contextOf context).1

theorem SoundWith.withSubscriber (sound : exchange.SoundWith []) (qos : Qos) (context : String) :
    (exchange.withSubscriber qos context).SoundWith [] :=
  Transport.Sound.addSubscriber (sound.contextOf context) (exchange.contextOf context).2.topic qos
    (exchange.contextOf context).1

/-- Every operation keeps the shares in step with the owners. -/
theorem SoundWith.steps (sound : exchange.SoundWith []) {action : Action} {after : Exchange}
    (steps : exchange.Steps action after) : after.SoundWith [] := by
  cases steps with
  | idle => exact sound
  | shareMade name created => exact (sound.created created).placeShare name
  | shareCopied name found | shareAssigned name found => exact (sound.retainShare found).placeShare name
  | shareMoved name found | shareMoveAssigned name found => exact (sound.moveOut found).placeShare name
  | shareDropped name => exact sound.dropShare name
  | refusalsSet count =>
      have unchanged : exchange.transport.Sound _ := sound
      exact ⟨unchanged.counted, unchanged.positive⟩
  | queueOpened name qos => exact sound.openQueue name qos
  | notPushed name created | notPublished name created => exact sound.created created
  | @pushed name _ queue sample after found created =>
      have made : after.SoundWith [sample] := sound.created created
      have queues : after.queues.get? name = some queue := by
        have same := congrArg (fun outcome => outcome.2.queues) created
        rw [← same]
        exact found
      exact (made.pushSample queues (by simp)).releaseSample
  | sharePushed found held => exact sound.pushSample found (Nat.add_pos_left (handleShares_pos held) _)
  | popped taken => exact (sound.popSample taken).releaseSample
  | poppedInto name taken => exact SoundWith.placeShare (sound.popSample taken) name
  | queueClosed name => exact sound.removeQueue name
  | publisherAdded name qos context => exact (sound.withPublisher qos context).removePublisher name
  | subscriberAdded name qos context => exact (sound.withSubscriber qos context).removeSubscriber name
  | @published _ _ publisher sample after _ created =>
      have made : after.SoundWith [sample] := sound.created created
      exact (made.sendSample publisher (by simp)).releaseSample
  | @sharePublished _ _ publisher _ _ held =>
      exact sound.sendSample publisher (Nat.add_pos_left (handleShares_pos held) _)
  | keptCopied name kept => exact SoundWith.placeShare (sound.retainKept kept) name
  | received _ taken => exact (sound.receiveSample taken).releaseSample
  | receivedInto name _ taken => exact SoundWith.placeShare (sound.receiveSample taken) name
  | ended name => exact sound.contextOf name
  | publisherDropped name => exact sound.removePublisher name
  | subscriberDropped name => exact sound.removeSubscriber name

end PubSub.Exchange
