import PubSub.Proofs.Graph.Keyed
import PubSub.Proofs.Payloads.Log
import PubSub.Proofs.Reach.Replay

/-!
Kinds of the samples that are kept.  The key of a topic ends with the name of a type, which tells the kind, and samples
stay on the topic that they were published on; so whatever waits for a subscription or is retained by a publisher is of
its kind, and bounds do not mix.
-/

namespace PubSub

theorem Bytes.ofString_injective {first second : String} (same : ofString first = ofString second) :
    first = second :=
  Option.some.inj ((text?_ofString first).symm.trans ((congrArg text? same).trans (text?_ofString second)))

theorem Bytes.ofNat_injective {first second : Nat} (same : ofNat first = ofNat second) :
    first = second := by
  have digits := congrArg String.toList (ofString_injective same)
  have read := congrArg (fun digits => Nat.ofDigitChars 10 digits 0) digits
  simpa only [Nat.repr_eq_ofList_toDigits, String.toList_ofList,
    Nat.ofDigitChars_toDigits (by decide : 1 < 10) (Nat.le_refl 10)] using read

namespace MessageKind

theorem letter_boundedText (bound : Nat) : (boundedText bound).typeName[10]? = some 66 := by
  have long : 10 < (Bytes.ofString "rclpp/msg/BoundedString").length := by decide
  unfold typeName
  rw [List.getElem?_append_left long]
  decide

/-- Two kinds are never known under the same name. -/
theorem typeName_injective {first second : MessageKind} (same : first.typeName = second.typeName) :
    first = second := by
  have letters : first.typeName[10]? = second.typeName[10]? := congrArg (fun name => name[10]?) same
  cases first with
  | boundedText bound =>
      cases second with
      | boundedText other =>
          exact congrArg boundedText (Bytes.ofNat_injective (List.append_cancel_left same))
      | _ =>
          rw [letter_boundedText] at letters
          exact absurd letters (by decide)
  | _ =>
      cases second with
      | boundedText other =>
          rw [letter_boundedText] at letters
          exact absurd letters (by decide)
      | _ => first | rfl | exact absurd letters (by decide)

end MessageKind

namespace Workspace

variable {workspace after : Workspace} {key : Bytes} {sample : Nat}

/-- A sample is kept for a key: it waits for a subscription of that key, or a publisher of it retains it. -/
inductive KeptFor (workspace : Workspace) (key : Bytes) (sample : Nat) : Prop
  | waits {name : String} {state : SubscriptionState} {held : SubscriberEnd}
      (found : workspace.subscriptions.get? name = some state) (its : state.key = key)
      (endpoint : workspace.middleware.transport.subscribers.get? state.endpoint = some held)
      (member : sample ∈ held.queue.waiting)
  | retained {name : String} {state : PublisherState} {held : PublisherEnd}
      (found : workspace.publishers.get? name = some state) (its : state.key = key)
      (endpoint : workspace.middleware.transport.publishers.get? state.endpoint = some held)
      (member : sample ∈ held.history)

theorem KeptFor.exists (kept : workspace.KeptFor key sample) (wired : Wired workspace) :
    ∃ stored, workspace.middleware.transport.store.samples.get? sample = some stored := by
  cases kept with
  | waits found its endpoint member => exact wired.sound.exists_of_waiting endpoint member
  | retained found its endpoint member => exact wired.sound.exists_of_history endpoint member

/-- Whatever waits for a subscription that was just made was replayed by a publisher of its key. -/
theorem Wired.keptFor_of_replayed (wired : Wired workspace) {qos : Qos}
    (replayed : sample ∈ workspace.middleware.transport.replayed
      (workspace.middleware.pruneGraph.topic key) qos) : workspace.KeptFor key sample := by
  obtain ⟨_, publisher, held, listed, endpoint, _, _, member⟩ := Transport.mem_replayed replayed
  have known := (workspace.middleware.publishers_pruneGraph key).2 publisher listed
  have present := (Arena.contains_iff _ _).2 ⟨held, endpoint⟩
  obtain ⟨⟨name, state⟩, entry, place⟩ :=
    List.mem_map.1 ((wired.publishers.mem_iff key publisher).2 ⟨known, present⟩)
  obtain ⟨its, rfl⟩ := Prod.mk.inj place
  exact .retained ((workspace.publishers.get?_eq_some_iff name state).2 entry) its endpoint member

def SendsFor (workspace : Workspace) (action : Action) (key : Bytes) (sample : Nat) : Prop :=
  sample = workspace.middleware.transport.store.samples.next ∧ ∃ name datum sender,
    action = .publish (some name) (some datum) ∧ workspace.publishers.get? name = some sender ∧
      sender.key = key

section

variable {action : Action} {answer : Answer} {name : String}

theorem Effect.keptFor_of_retained (effect : workspace.Effect action answer after) (wired : Wired workspace)
    {state : PublisherState} {held : PublisherEnd} (found : after.publishers.get? name = some state)
    (endpoint : after.middleware.transport.publishers.get? state.endpoint = some held)
    (member : sample ∈ held.history) :
    workspace.KeptFor state.key sample ∨ workspace.SendsFor action state.key sample := by
  cases effect with
  | noted unmoved noted =>
      obtain ⟨reason, ledger, rfl, _⟩ := noted
      exact .inl (.retained found rfl endpoint member)
  | @publisherMade made node kind topic qos owner changed topicName free there runs noted =>
      obtain ⟨reason, ledger, rfl, _⟩ := noted
      have inserted := workspace.middleware.transport.publishers.get?_insert
        { qos := qos.resolve, context := owner.context, history := [] } state.endpoint
      dsimp only at found
      rw [Table.get?_set] at found
      by_cases mine : name = made
      · rw [if_pos mine, Option.some.injEq] at found
        subst found
        cases endpoint.symm.trans (inserted.trans (if_pos rfl))
        cases member
      · rw [if_neg mine] at found
        have old : state.endpoint < workspace.middleware.transport.publishers.next :=
          wired.publishers.lt_next (Registered.mem_ends found)
        have before := inserted.trans (if_neg (Nat.ne_of_lt old))
        exact .inl (.retained found rfl (before.symm.trans endpoint) member)
  | @publisherReleased gone node released known =>
      dsimp only [Middleware.withTransport] at found endpoint
      rw [Transport.get?_dropPublisher] at endpoint
      split at endpoint
      · cases endpoint
      · exact .inl (.retained (Table.get?_of_erase found) rfl endpoint member)
  | @published publisher datum sender its reason first last content known present runs =>
      have sent := fun store => ((workspace.middleware.transport.withStore store).publish_ends
        (workspace.middleware.topic sender.key) present
        workspace.middleware.transport.store.samples.next
        (wired.subscribers.nodup_receivers sender.key its.qos)).1 state.endpoint
      have left := (sent _).symm.trans endpoint
      by_cases mine : state.endpoint = sender.endpoint
      · cases (if_pos mine).symm.trans left
        cases wired.publishers.name_eq known found mine
        cases known.symm.trans found
        unfold Transport.remembering at member
        split at member
        · rcases List.mem_append.1 ((Qos.newest_sublist _ _).subset member) with old | new
          · exact .inl (.retained known rfl present old)
          · exact .inr ⟨List.mem_singleton.1 new, _, datum, _, rfl, known, rfl⟩
        · exact .inl (.retained known rfl present member)
      · exact .inl (.retained found rfl ((if_neg mine).symm.trans left) member)
  | @subscriptionMade made node kind topic qos owner changed topicName free there runs noted =>
      obtain ⟨_, ends, _⟩ :=
        @subscription_made _ made _ noted topicName kind qos.resolve owner.context _ rfl
      obtain ⟨reason, ledger, rfl, _⟩ := noted
      rw [ends] at endpoint
      exact .inl (.retained found rfl endpoint member)
  | subscriptionReleased =>
      dsimp only [Middleware.withTransport] at endpoint
      rw [Transport.publishers_dropSubscriber] at endpoint
      exact .inl (.retained found rfl endpoint member)
  | took known there runs front =>
      obtain ⟨_, _, _, _, rfl⟩ := Transport.takeSample_eq_some front
      exact .inl (.retained found rfl endpoint member)
  | _ => exact .inl (.retained found rfl endpoint member)

theorem Effect.keptFor_of_waits (effect : workspace.Effect action answer after) (wired : Wired workspace)
    {state : SubscriptionState} {held : SubscriberEnd} (found : after.subscriptions.get? name = some state)
    (endpoint : after.middleware.transport.subscribers.get? state.endpoint = some held)
    (member : sample ∈ held.queue.waiting) :
    workspace.KeptFor state.key sample ∨ workspace.SendsFor action state.key sample := by
  cases effect with
  | noted unmoved noted =>
      obtain ⟨reason, ledger, rfl, _⟩ := noted
      exact .inl (.waits found rfl endpoint member)
  | @publisherMade made node kind topic qos owner changed topicName free there runs noted =>
      obtain ⟨reason, ledger, rfl, _⟩ := noted
      exact .inl (.waits found rfl endpoint member)
  | publisherReleased =>
      dsimp only [Middleware.withTransport] at endpoint
      rw [Transport.subscribers_dropPublisher] at endpoint
      exact .inl (.waits found rfl endpoint member)
  | @published publisher datum sender its reason first last content known present runs =>
      have sent := fun store => ((workspace.middleware.transport.withStore store).publish_ends
        (workspace.middleware.topic sender.key) present
        workspace.middleware.transport.store.samples.next
        (wired.subscribers.nodup_receivers sender.key its.qos)).2.1 state.endpoint
      have left := (sent _).symm.trans endpoint
      by_cases reached : state.endpoint ∈ workspace.middleware.transport.receivers
          (workspace.middleware.topic sender.key) its.qos
      · obtain ⟨before, there, rfl⟩ := Option.map_eq_some_iff.1 ((if_pos reached).symm.trans left)
        have mine := ((wired.subscribers.mem_receivers found there sender.key its.qos).1 reached).1
        rcases List.mem_append.1 ((before.queue.push_sublist _).subset member) with old | new
        · exact .inl (.waits found rfl there old)
        · exact .inr ⟨List.mem_singleton.1 new, publisher, datum, sender, rfl, known, mine.symm⟩
      · exact .inl (.waits found rfl ((if_neg reached).symm.trans left) member)
  | @subscriptionMade made node kind topic qos owner changed topicName free there runs noted =>
      obtain ⟨_, _, new, fresh, present, entered, _, fed⟩ :=
        @subscription_made _ made _ noted topicName kind qos.resolve owner.context _ rfl
      obtain ⟨reason, ledger, rfl, _⟩ := noted
      by_cases mine : name = made
      · subst mine
        cases present.symm.trans found
        cases entered.symm.trans endpoint
        exact .inl (wired.keptFor_of_replayed (fed.subset member))
      · have known := (workspace.subscriptions.get?_set _ name _).symm.trans found
        rw [if_neg mine] at known
        have old : state.endpoint < workspace.middleware.transport.subscribers.next :=
          wired.subscribers.lt_next (Registered.mem_ends known)
        have added := fun topic => (Transport.addSubscriber_ends
          (workspace.middleware.recount reason ledger).transport topic qos.resolve
            owner.context).2 state.endpoint
        exact .inl (.waits known rfl
          (((added _).trans (if_neg (Nat.ne_of_lt old))).symm.trans endpoint) member)
  | subscriptionReleased =>
      dsimp only [Middleware.withTransport] at found endpoint
      rw [Transport.get?_dropSubscriber] at endpoint
      split at endpoint
      · cases endpoint
      · exact .inl (.waits (Table.get?_of_erase found) rfl endpoint member)
  | @took taker withBuffer answer its held sample taken reason first last known there runs front =>
      obtain ⟨_, queue, present, popped, rfl⟩ := Transport.takeSample_eq_some front
      have moved := workspace.middleware.transport.subscribers.get?_modify its.endpoint
        state.endpoint (fun old => { old with queue })
      by_cases mine : state.endpoint = its.endpoint
      · have changed := (moved.trans (if_pos mine)).symm.trans endpoint
        obtain ⟨before, was, rfl⟩ := Option.map_eq_some_iff.1 changed
        cases present.symm.trans was
        refine .inl (.waits found rfl (mine ▸ was) ?_)
        rw [SampleQueue.waiting_of_pop popped]
        exact List.mem_cons_of_mem _ member
      · exact .inl (.waits found rfl ((moved.trans (if_neg mine)).symm.trans endpoint) member)
  | _ => exact .inl (.waits found rfl endpoint member)

/-- Samples stay on the topic that they are on; a new one is on the topic of the publisher that it is from. -/
theorem Effect.keptFor (effect : workspace.Effect action answer after) (wired : Wired workspace)
    (kept : after.KeptFor key sample) :
    workspace.KeptFor key sample ∨ workspace.SendsFor action key sample := by
  cases kept with
  | waits found its endpoint member =>
      subst its
      exact effect.keptFor_of_waits wired found endpoint member
  | retained found its endpoint member =>
      subst its
      exact effect.keptFor_of_retained wired found endpoint member

end

theorem Effect.kind_eq {action : Action} {answer : Answer}
    (effect : workspace.Effect action answer after) {stored : Sample}
    (found : after.middleware.transport.store.samples.get? sample = some stored) :
    (∃ before, workspace.middleware.transport.store.samples.get? sample = some before ∧
        before.kind = stored.kind) ∨
      sample = workspace.middleware.transport.store.samples.next ∧ ∃ name datum sender,
        action = .publish (some name) (some datum) ∧ workspace.publishers.get? name = some sender ∧
          stored.kind = sender.kind := by
  cases sends : action.isPublish with
  | false =>
      obtain ⟨before, there, kind, _⟩ := (effect.unsent sends).later sample stored found
      exact .inl ⟨before, there, kind⟩
  | true =>
      cases effect with
      | noted unmoved noted =>
          obtain ⟨reason, ledger, rfl, _⟩ := noted
          exact .inl ⟨stored, found, rfl⟩
      | @published name datum sender held reason first last content known endpoint runs =>
          obtain ⟨made, there, kind, _⟩ := Transport.later_sendOut _ _ _ _ sample stored found
          rw [Transport.withStore, Arena.get?_insert] at there
          by_cases new : sample = workspace.middleware.transport.store.samples.next
          · rw [if_pos new, Option.some.injEq] at there
            subst made
            exact .inr ⟨new, name, datum, sender, rfl, known, kind.symm⟩
          · rw [if_neg new] at there
            exact .inl ⟨made, there, kind⟩
      | _ => cases sends

def Typed (workspace : Workspace) : Prop :=
  ∀ key sample stored, workspace.KeptFor key sample →
    workspace.middleware.transport.store.samples.get? sample = some stored →
      ∃ topicName plain, Name.IsFullTopic topicName ∧
        key = Middleware.topicKey topicName plain stored.kind

theorem typed_empty : Typed .empty :=
  fun _ _ _ _ found => nomatch found

theorem Typed.step (typed : Typed workspace) (keyed : Keyed workspace) (action : Action) :
    Typed (workspace.step action).2 := by
  intro key sample stored kept found
  have effect := workspace.step_effect action
  rcases effect.keptFor keyed.wired kept with before | ⟨new, name, datum, sender, sends, known, its⟩
  · rcases effect.kind_eq found with ⟨old, there, same⟩ | ⟨new, _⟩
    · rw [← same]
      exact typed key sample old before there
    · obtain ⟨old, there⟩ := before.exists keyed.wired
      exact absurd (workspace.middleware.transport.store.samples.lt_next_of_get? there)
        (new ▸ Nat.lt_irrefl _)
  · rcases effect.kind_eq found with ⟨old, there, _⟩ | ⟨_, other, message, also, same, present, kind⟩
    · exact absurd (workspace.middleware.transport.store.samples.lt_next_of_get? there)
        (new ▸ Nat.lt_irrefl _)
    · cases sends.symm.trans same
      cases known.symm.trans present
      obtain ⟨qos, _, full⟩ := keyed.publishers name sender known
      rw [kind, ← its]
      exact ⟨sender.topicName, qos.plainTopic, keyed.named.publishers name sender known, full⟩

theorem Typed.run (typed : Typed workspace) (keyed : Keyed workspace) (actions : List Action) :
    Typed (workspace.run actions) := by
  induction actions generalizing workspace with
  | nil => exact typed
  | cons action rest ih => exact ih (typed.step keyed action) (keyed.step action)

/-- What every call keeps of samples: which messages they are made of, and where they go. -/
structure Traceable (workspace : Workspace) (log : List Publication) : Prop where
  keyed : Keyed workspace
  logged : Logged workspace log
  typed : Typed workspace

theorem traceable_empty : Traceable .empty [] :=
  ⟨keyed_empty, logged_empty, typed_empty⟩

theorem Traceable.run {log : List Publication} (traceable : Traceable workspace log)
    (actions : List Action) :
    Traceable (workspace.run actions) (log ++ workspace.publications actions) :=
  ⟨traceable.keyed.run actions, traceable.logged.run actions,
    traceable.typed.run traceable.keyed actions⟩

theorem traceable_run (actions : List Action) :
    Traceable (empty.run actions) (empty.publications actions) :=
  traceable_empty.run actions

variable {log : List Publication} {stored : Sample} {kind : MessageKind}

theorem Typed.kind_eq (typed : Typed workspace) {topicName : Bytes} {plain : Bool}
    (full : Name.IsFullTopic topicName)
    (kept : workspace.KeptFor (Middleware.topicKey topicName plain kind) sample)
    (found : workspace.middleware.transport.store.samples.get? sample = some stored) :
    stored.kind = kind := by
  obtain ⟨other, mark, also, same⟩ := typed _ sample stored kept found
  exact (MessageKind.typeName_injective (Middleware.key_injective full also same).2.2).symm

theorem Traceable.waiting (traceable : Traceable workspace log) {name : String}
    {state : SubscriptionState} {held : SubscriberEnd}
    (found : workspace.subscriptions.get? name = some state)
    (endpoint : workspace.middleware.transport.subscribers.get? state.endpoint = some held)
    (member : sample ∈ held.queue.waiting) :
    ∃ stored, workspace.middleware.transport.store.samples.get? sample = some stored ∧
      stored.kind = state.kind := by
  have kept : workspace.KeptFor state.key sample := .waits found rfl endpoint member
  obtain ⟨stored, there⟩ := kept.exists traceable.keyed.wired
  obtain ⟨qos, _, key⟩ := traceable.keyed.subscriptions name state found
  rw [key] at kept
  exact ⟨stored, there, traceable.typed.kind_eq
    (traceable.keyed.named.subscriptions name state found) kept there⟩

theorem Traceable.retained (traceable : Traceable workspace log) {name : String}
    {state : PublisherState} {held : PublisherEnd}
    (found : workspace.publishers.get? name = some state)
    (endpoint : workspace.middleware.transport.publishers.get? state.endpoint = some held)
    (member : sample ∈ held.history) :
    ∃ stored, workspace.middleware.transport.store.samples.get? sample = some stored ∧
      stored.kind = state.kind := by
  have kept : workspace.KeptFor state.key sample := .retained found rfl endpoint member
  obtain ⟨stored, there⟩ := kept.exists traceable.keyed.wired
  obtain ⟨qos, _, key⟩ := traceable.keyed.publishers name state found
  rw [key] at kept
  exact ⟨stored, there, traceable.typed.kind_eq
    (traceable.keyed.named.publishers name state found) kept there⟩

end Workspace

end PubSub
