import PubSub.Proofs.Delivery.Calls
import PubSub.Proofs.Delivery.Registration

/-!
One call at a time.  Whatever a call answers, the bus does what the answer tells, and what waits in the
workspace is what waits on the bus again.
-/

namespace PubSub

namespace Bus

variable (bus : Bus) (action : Workspace.Action) (topic : Option Bytes)

theorem step_of_ne {answer : Workspace.Answer} (failed : answer ≠ .status .ok)
    (empty : ∀ payload, answer ≠ .message .ok (some payload)) :
    bus.step action answer topic = bus := by
  unfold step
  split
  case h_6 => exact absurd rfl (empty _)
  case h_7 => rfl
  all_goals exact absurd rfl failed

theorem step_status {status : Status} (failed : status ≠ .ok) :
    bus.step action (.status status) topic = bus :=
  bus.step_of_ne action topic (fun same => failed (Workspace.Answer.status.inj same))
    (fun _ same => nomatch same)

theorem step_message (status : Status) : bus.step action (.message status none) topic = bus :=
  bus.step_of_ne action topic (fun same => nomatch same) (fun _ same => nomatch same)

end Bus

namespace Workspace

variable {workspace : Workspace} {bus : Bus}

def Follows (workspace : Workspace) (bus : Bus) (action : Action) : Prop :=
  Refines (workspace.step action).2
    (bus.step action (workspace.step action).1 ((workspace.step action).2.topicOf action))

theorem slot_set {State : Type} (table : Table String State) (name : String) (state : State) :
    slot (table.set name state) (some name) = some (some state) := by
  unfold slot
  rw [Option.map_some, table.get?_set, if_pos rfl]

theorem Refines.failed (refines : Refines workspace bus) (action : Action) (topic : Option Bytes)
    {Value : Type} {outcome : Outcome Value} {fault : Fault} (error : outcome.1 = .error fault)
    (noted : workspace.middleware.Noted outcome.2) :
    Refines (workspace.settle outcome).2 (bus.step action (workspace.settle outcome).1 topic) := by
  unfold settle
  rw [error]
  dsimp only [statusOf]
  rw [bus.step_status _ _ fault.status_ne_ok]
  exact refines.withNoted noted

theorem Refines.follows_initPublisher (refines : Refines workspace bus) (publisher node : Option String)
    (support : Option TypeSupport) (topic : Option Bytes) (options : Option Qos) :
    Follows workspace bus (.initPublisher publisher node support topic options) := by
  rcases workspace.middleware.initPublisher_cases (slot workspace.publishers publisher)
      (slot workspace.nodes node) support topic options with
    ⟨⟨fault, failed⟩, transport, graph⟩ |
      ⟨kind, qos, owner, topicName, resolved, free, rfl, rfl, -, runs, transport, graph, made⟩
  · unfold Follows step
    dsimp only
    generalize workspace.middleware.initPublisher (slot workspace.publishers publisher)
      (slot workspace.nodes node) support topic options = outcome at failed transport graph ⊢
    obtain ⟨result, changed⟩ := outcome
    dsimp only at failed transport graph
    subst failed
    exact refines.failed _ _ rfl (Middleware.noted_of_eq transport graph)
  · cases publisher with
    | none => cases free
    | some name =>
        have absent : workspace.publishers.get? name = none := Option.some.inj free
        have ready : Refines (workspace.withMiddleware resolved) bus :=
          refines.withIdle (.of_eq transport graph)
        rw [← transport] at runs
        have added := ready.addPublisher absent runs topicName kind qos.resolve
        unfold Follows step
        dsimp only
        rw [made]
        dsimp only
        unfold topicOf fillSlot
        dsimp only
        rw [slot_set]
        exact added

theorem Refines.follows_initSubscription (refines : Refines workspace bus)
    (subscription node : Option String) (support : Option TypeSupport) (topic : Option Bytes)
    (options : Option Qos) (small : ∀ qos, options = some qos → qos.depth.toNat < 2 ^ 63) :
    Follows workspace bus (.initSubscription subscription node support topic options) := by
  rcases workspace.middleware.initSubscription_cases (slot workspace.subscriptions subscription)
      (slot workspace.nodes node) support topic options with
    ⟨⟨fault, failed⟩, transport, graph⟩ |
      ⟨kind, qos, owner, topicName, resolved, free, rfl, rfl, -, runs, transport, graph, made⟩
  · unfold Follows step
    dsimp only
    generalize workspace.middleware.initSubscription (slot workspace.subscriptions subscription)
      (slot workspace.nodes node) support topic options = outcome at failed transport graph ⊢
    obtain ⟨result, changed⟩ := outcome
    dsimp only at failed transport graph
    subst failed
    exact refines.failed _ _ rfl (Middleware.noted_of_eq transport graph)
  · cases subscription with
    | none => cases free
    | some name =>
        have absent : workspace.subscriptions.get? name = none := Option.some.inj free
        have ready : Refines (workspace.withMiddleware resolved) bus :=
          refines.withIdle (.of_eq transport graph)
        rw [← transport] at runs
        have added := ready.addSubscription absent runs topicName kind
          (Qos.sized_resolve qos (small qos rfl))
        unfold Follows step
        dsimp only
        rw [made]
        dsimp only
        unfold topicOf fillSlot
        dsimp only
        rw [slot_set]
        exact added

theorem Refines.follows_finiPublisher (refines : Refines workspace bus)
    (publisher node : Option String) :
    Follows workspace bus (.finiPublisher publisher node) := by
  unfold Follows step
  dsimp only
  cases publisher with
  | none => exact refines.failed _ _ rfl (workspace.middleware.noted_fail _)
  | some name =>
      generalize slot workspace.nodes node = owner
      unfold slot
      rw [Option.map_some]
      rcases owner with _ | _ | owner
      · cases workspace.publishers.get? name <;>
          exact refines.failed _ _ rfl (workspace.middleware.noted_fail .nodeNotValid)
      · cases workspace.publishers.get? name <;>
          exact refines.failed _ _ rfl (workspace.middleware.noted_fail .nodeNotValid)
      · cases found : workspace.publishers.get? name with
        | none =>
            have erased : Refines
                { workspace with publishers := workspace.publishers.erase name }
                { bus with senders := bus.senders.erase name } := by
              rw [Table.erase_of_free found, Table.erase_of_free (refines.senders.free found)]
              exact refines
            exact erased
        | some state => exact refines.dropPublisher found

theorem Refines.follows_finiSubscription (refines : Refines workspace bus)
    (subscription node : Option String) :
    Follows workspace bus (.finiSubscription subscription node) := by
  unfold Follows step
  dsimp only
  cases subscription with
  | none => exact refines.failed _ _ rfl (workspace.middleware.noted_fail _)
  | some name =>
      generalize slot workspace.nodes node = owner
      unfold slot
      rw [Option.map_some]
      rcases owner with _ | _ | owner
      · cases workspace.subscriptions.get? name <;>
          exact refines.failed _ _ rfl (workspace.middleware.noted_fail .nodeNotValid)
      · cases workspace.subscriptions.get? name <;>
          exact refines.failed _ _ rfl (workspace.middleware.noted_fail .nodeNotValid)
      · cases found : workspace.subscriptions.get? name with
        | none =>
            have erased : Refines
                { workspace with subscriptions := workspace.subscriptions.erase name }
                { bus with receivers := bus.receivers.erase name } := by
              rw [Table.erase_of_free found, Table.erase_of_free (refines.receivers.free found)]
              exact refines
            exact erased
        | some state => exact refines.dropSubscription found

theorem Refines.step_publish (refines : Refines workspace bus) (publisher : Option String)
    (datum : Datum) :
    let outcome := workspace.step (.publish publisher (some datum))
    outcome.1 ≠ .status .ok ∧ (∀ payload, outcome.1 ≠ .message .ok (some payload)) ∧
        Refines outcome.2 bus ∨
      ∃ name sender payload, publisher = some name ∧ bus.senders.get? name = some sender ∧
        datum.payload sender.kind = .ok payload ∧ outcome.1 = .status .ok ∧
        Refines outcome.2 (bus.send name sender payload) := by
  unfold step
  dsimp only
  unfold publishFilled
  dsimp only
  generalize same : (kindOf workspace.publisherKinds publisher).getD .int64 = kind
  have prepared : Refines (workspace.withMiddleware
      (workspace.middleware.withLedger (workspace.middleware.ledger.noteInit kind))) bus :=
    refines.withIdle (workspace.middleware.idle_withLedger _)
  cases fits : datum.payload kind with
  | error expected =>
      dsimp only
      refine .inl ⟨(fun same => nomatch same), (fun _ same => nomatch same), ?_⟩
      exact prepared.withIdle (Middleware.idle_withLedger _ _)
  | ok payload =>
      obtain ⟨whole, told⟩ := Datum.payload_fill fits
      have all : ∀ layout, some (kind.fresh.fill payload) = some layout → layout.Whole := by
        intro layout filled
        cases filled
        exact whole
      dsimp only
      rcases prepared.publish_cases publisher all with
        ⟨⟨fault, failed⟩, left⟩ | ⟨name, sender, layout, rfl, filled, there, buffer, sent, left⟩
      · refine .inl ⟨(fun same => ?_), (fun _ same => nomatch same), ?_⟩
        · exact fault.status_ne_ok
            ((congrArg statusOf failed).symm.trans (Answer.status.inj same))
        · exact left.withIdle (Middleware.idle_withLedger _ _)
      · cases filled
        rw [told] at left
        -- The buffer was made for the kind that is noted under the name, which is the sender's.
        have agree : sender.kind = kind := by
          rw [← same]
          unfold kindOf
          rw [Option.bind_some, show workspace.publisherKinds.get? name = _ from buffer]
          rfl
        refine .inr ⟨name, sender, payload, rfl, there, agree ▸ fits, ?_, ?_⟩
        · exact congrArg (fun result => Answer.status (statusOf result)) sent
        · exact left.withIdle (Middleware.idle_withLedger _ _)

theorem Refines.follows_publish (refines : Refines workspace bus) (publisher : Option String)
    (datum : Option Datum) : Follows workspace bus (.publish publisher datum) := by
  unfold Follows
  cases datum with
  | none =>
      have nothing : ∀ layout, (none : Option Layout) = some layout → layout.Whole :=
        fun _ same => nomatch same
      rcases refines.publish_cases publisher nothing with
        ⟨⟨fault, failed⟩, left⟩ | ⟨_, _, layout, _, none, _⟩
      · unfold step settle
        dsimp only
        rw [failed]
        dsimp only [statusOf]
        rw [bus.step_status _ _ fault.status_ne_ok]
        exact left
      · cases none
  | some datum =>
      rcases refines.step_publish publisher datum with
        ⟨failed, empty, left⟩ | ⟨name, sender, payload, rfl, there, fits, sent, left⟩
      · rw [bus.step_of_ne _ _ failed empty]
        exact left
      · rw [sent]
        have same : bus.step (.publish (some name) (some datum)) (.status .ok)
            (topicOf (workspace.step (.publish (some name) (some datum))).2
              (.publish (some name) (some datum))) = bus.send name sender payload := by
          unfold Bus.step
          dsimp only
          unfold Bus.publish
          rw [there]
          dsimp only
          rw [fits]
        rw [same]
        exact left

theorem Refines.step_take (refines : Refines workspace bus) {name : String} {receiver : Receiver}
    (there : bus.receivers.get? name = some receiver) :
    let outcome := workspace.step (.take (some name) true)
    receiver.pending = [] ∧ outcome.1 = .message .takeFailed none ∧ Refines outcome.2 bus ∨
      ∃ payload rest, receiver.pending = payload :: rest ∧
        (outcome.1 = .message .ok (some payload) ∧ Refines outcome.2 (bus.take name payload) ∨
          outcome.1 = .message .error none) := by
  obtain ⟨state, found, receives⟩ := refines.receivers.exists_left there
  have known : kindOf workspace.subscriptionKinds (some name) = some state.kind := receives.buffer
  unfold step
  dsimp only
  rw [known]
  dsimp only
  unfold takeFilled
  dsimp only
  have prepared : Refines (workspace.withMiddleware
      (workspace.middleware.withLedger (workspace.middleware.ledger.noteInit state.kind))) bus :=
    refines.withIdle (workspace.middleware.idle_withLedger _)
  have cases := prepared.take_cases there state.kind.fresh
  dsimp only at cases
  unfold withMiddleware at cases
  dsimp only at cases
  generalize (workspace.middleware.withLedger (workspace.middleware.ledger.noteInit state.kind)).take
    (slot workspace.subscriptions (some name)) (some state.kind.fresh) = outcome at cases ⊢
  obtain ⟨result, taken⟩ := outcome
  dsimp only at cases
  rcases cases with ⟨empty, rfl, left⟩ | ⟨_, rest, pending, ⟨filled, rfl, rfl, left⟩ | ⟨name, rfl⟩⟩
  · exact .inl ⟨empty, rfl, left.withIdle (Middleware.idle_withLedger _ _)⟩
  · refine .inr ⟨_, rest, pending, .inl ⟨rfl, ?_⟩⟩
    exact left.withIdle (Middleware.idle_withLedger _ _)
  · exact .inr ⟨_, rest, pending, .inr rfl⟩

theorem Refines.step_take_refused (refines : Refines workspace bus) (subscription : Option String)
    (withBuffer : Bool)
    (refused : withBuffer = false ∨
      ∀ name, subscription = some name → bus.receivers.get? name = none) :
    ∃ status, (workspace.step (.take subscription withBuffer)).1 = .message status none ∧
      Refines (workspace.step (.take subscription withBuffer)).2 bus := by
  unfold step
  dsimp only
  cases withBuffer with
  | false =>
      have left := (refines.take_refused subscription none (.inl rfl)).2
      exact ⟨_, rfl, left⟩
  | true =>
      have absent := refused.resolve_left Bool.noConfusion
      cases kindOf workspace.subscriptionKinds subscription with
      | none => exact ⟨_, rfl, (refines.take_refused subscription _ (.inr absent)).2⟩
      | some kind =>
          dsimp only
          unfold takeFilled
          dsimp only
          have prepared : Refines (workspace.withMiddleware
              (workspace.middleware.withLedger (workspace.middleware.ledger.noteInit kind))) bus :=
            refines.withIdle (workspace.middleware.idle_withLedger _)
          have refusal := prepared.take_refused subscription (some kind.fresh) (.inr absent)
          unfold withMiddleware at refusal
          dsimp only at refusal
          generalize (workspace.middleware.withLedger
            (workspace.middleware.ledger.noteInit kind)).take
              (slot workspace.subscriptions subscription) (some kind.fresh) = outcome at refusal ⊢
          obtain ⟨result, taken⟩ := outcome
          obtain ⟨⟨fault, rfl⟩, left⟩ := refusal
          exact ⟨_, rfl, left.withIdle (Middleware.idle_withLedger _ _)⟩

def Answer.isCopyFailure (answer : Answer) : Bool :=
  answer = .message .error none

theorem Refines.follows_take (refines : Refines workspace bus) (subscription : Option String)
    (withBuffer : Bool)
    (copied : (workspace.step (.take subscription withBuffer)).1.isCopyFailure = false) :
    Follows workspace bus (.take subscription withBuffer) := by
  unfold Follows
  have refusal : withBuffer = false ∨
      (∀ name, subscription = some name → bus.receivers.get? name = none) →
      Refines (workspace.step (.take subscription withBuffer)).2
        (bus.step (.take subscription withBuffer)
          (workspace.step (.take subscription withBuffer)).1 none) := by
    intro refused
    obtain ⟨status, answered, left⟩ := refines.step_take_refused subscription withBuffer refused
    rw [answered, bus.step_message]
    exact left
  cases withBuffer with
  | false => exact refusal (.inl rfl)
  | true =>
      cases subscription with
      | none => exact refusal (.inr (fun name same => nomatch same))
      | some name =>
          cases there : bus.receivers.get? name with
          | none =>
              refine refusal (.inr (fun other same => ?_))
              cases same
              exact there
          | some receiver =>
              rcases refines.step_take there with
                ⟨_, answered, left⟩ | ⟨payload, rest, _, ⟨answered, left⟩ | answered⟩
              · rw [answered, bus.step_message]
                exact left
              · rw [answered]
                exact left
              · rw [answered] at copied
                cases copied

end Workspace

end PubSub
