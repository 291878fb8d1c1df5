import PubSub.Proofs.Graph.Keyed
import PubSub.Proofs.Payloads.Log
import PubSub.Proofs.Reach.Matching

/-!
Histories and queues along a run.  A call leaves a publisher as it is, or releases it, or sends a sample with it, which
the publisher then remembers; and it puts that sample into the queues that it feeds.
-/

namespace PubSub

namespace Workspace

variable {workspace after : Workspace} {name : String} {action : Action}

def Action.publishes? : Action → Option String
  | .publish publisher _ => publisher
  | _ => none

def Sends (workspace : Workspace) (name : String) (action : Action) : Prop :=
  action.publishes? = some name ∧ (workspace.step action).1 = .status .ok

instance (workspace : Workspace) (name : String) (action : Action) : Decidable (workspace.Sends name action) :=
  inferInstanceAs (Decidable (_ ∧ _))

/-- The sample that a publisher sends with a call, and the message that was handed over for it. -/
def sentBy (name : String) (workspace : Workspace) (action : Action) : Option (Nat × Payload) :=
  if action.publishes? = some name then
    (workspace.publication? action).bind (fun publication =>
      publication.sample.map (fun sample => (sample, publication.message)))
  else none

theorem exists_datum_of_sends (sends : workspace.Sends name action) :
    ∃ datum, action = .publish (some name) (some datum) := by
  obtain ⟨publishes, granted⟩ := sends
  have effect := workspace.step_effect action
  rw [granted] at effect
  cases action with
  | publish publisher data =>
      cases publishes
      cases data with
      | some datum => exact ⟨datum, rfl⟩
      | none =>
          generalize (workspace.step _).2 = after at effect
          cases effect with
          | noted unmoved noted => exact absurd rfl (unmoved rfl)
  | _ => cases publishes

theorem sentBy_of_sends (sends : workspace.Sends name action) :
    ∃ message, workspace.sentBy name action = some (workspace.middleware.transport.store.samples.next, message) := by
  obtain ⟨datum, rfl⟩ := exists_datum_of_sends sends
  have granted := sends.2
  unfold sentBy
  rw [if_pos sends.1]
  generalize known : (kindOf workspace.publisherKinds (some name)).getD .int64 = kind
  cases fits : datum.payload kind with
  | error expected =>
      unfold step publishFilled at granted
      dsimp only at granted
      rw [known, fits] at granted
      cases granted
  | ok message =>
      rw [publication?_publish known fits, if_pos granted]
      exact ⟨message, rfl⟩

theorem sentBy_of_not_sends (idle : ¬ workspace.Sends name action) : workspace.sentBy name action = none := by
  unfold sentBy
  by_cases publishes : action.publishes? = some name
  · have refused : (workspace.step action).1 ≠ .status .ok := fun granted => idle ⟨publishes, granted⟩
    rw [if_pos publishes]
    cases action with
    | publish publisher data =>
        cases data with
        | none => rfl
        | some datum =>
            generalize known : (kindOf workspace.publisherKinds publisher).getD .int64 = kind
            cases fits : datum.payload kind with
            | error expected =>
                subst known
                rw [publication?_of_unfit fits, Option.bind_none]
            | ok message =>
                rw [publication?_publish known fits, if_neg refused]
                rfl
    | _ => cases publishes
  · exact if_neg publishes

/-- A publisher is released by its own call only, and until then it changes by what it sends only. -/
theorem Effect.publisher {answer : Answer} (effect : workspace.Effect action answer after) (wired : Wired workspace)
    {state : PublisherState} {held : PublisherEnd} (found : workspace.publishers.get? name = some state)
    (endpoint : workspace.middleware.transport.publishers.get? state.endpoint = some held) :
    (∃ node, action = .finiPublisher (some name) node) ∧ after.publishers.get? name = none ∨
      after.publishers.get? name = some state ∧
        after.middleware.transport.publishers.get? state.endpoint =
          some (if action.publishes? = some name ∧ answer = .status .ok then
            Transport.remembering workspace.middleware.transport.store.samples.next held else held) := by
  have old := workspace.middleware.transport.publishers.lt_next_of_get? endpoint
  cases effect with
  | noted unmoved noted =>
      obtain ⟨reason, ledger, rfl, _⟩ := noted
      have idle : ¬ (action.publishes? = some name ∧ answer = .status .ok) := by
        rintro ⟨publishes, granted⟩
        cases action with
        | publish publisher data => exact unmoved rfl granted
        | _ => cases publishes
      rw [if_neg idle]
      exact .inr ⟨found, endpoint⟩
  | @publisherMade made node kind topic qos owner changed topicName free there runs noted =>
      obtain ⟨reason, ledger, rfl, _⟩ := noted
      have apart : name ≠ made := by
        rintro rfl
        rw [free] at found
        cases found
      have inserted := workspace.middleware.transport.publishers.get?_insert
        { qos := qos.resolve, context := owner.context, history := [] } state.endpoint
      refine .inr ⟨(workspace.publishers.get?_set made name _).trans ((if_neg apart).trans found), ?_⟩
      rw [if_neg (fun sends => nomatch sends.1)]
      exact inserted.trans ((if_neg (Nat.ne_of_lt old)).trans endpoint)
  | @publisherReleased gone node released known =>
      by_cases mine : name = gone
      · subst mine
        exact .inl ⟨⟨node, rfl⟩, (workspace.publishers.get?_erase name name).trans (if_pos rfl)⟩
      · have apart : state.endpoint ≠ released.endpoint := fun same => mine (wired.publishers.name_eq known found same)
        refine .inr ⟨(workspace.publishers.get?_erase gone name).trans ((if_neg mine).trans found), ?_⟩
        rw [if_neg (fun sends => nomatch sends.1)]
        exact (workspace.middleware.transport.get?_dropPublisher _ _).trans ((if_neg apart).trans endpoint)
  | @published sender datum its present reason first last content known there runs =>
      have sent := fun store => ((workspace.middleware.transport.withStore store).publish_ends
        (workspace.middleware.topic its.key) there workspace.middleware.transport.store.samples.next
        (wired.subscribers.nodup_receivers its.key present.qos)).1 state.endpoint
      refine .inr ⟨found, (sent _).trans ?_⟩
      by_cases mine : sender = name
      · subst mine
        cases known.symm.trans found
        cases there.symm.trans endpoint
        rw [if_pos rfl, if_pos ⟨rfl, rfl⟩]
      · have apart : state.endpoint ≠ its.endpoint := fun same => mine (wired.publishers.name_eq known found same).symm
        rw [if_neg apart, if_neg (fun sends => mine (Option.some.inj sends.1))]
        exact endpoint
  | subscriptionMade topicName free there runs noted =>
      obtain ⟨reason, ledger, rfl, _⟩ := noted
      rw [if_neg (fun sends => nomatch sends.1)]
      refine .inr ⟨found, Eq.trans ?_ endpoint⟩
      exact congrArg (fun arena => arena.get? state.endpoint)
        (Transport.addSubscriber_ends (workspace.middleware.recount reason ledger).transport _ _ _).1
  | subscriptionReleased gone =>
      rw [if_neg (fun sends => nomatch sends.1)]
      refine .inr ⟨found, Eq.trans ?_ endpoint⟩
      exact congrArg (fun arena => arena.get? state.endpoint)
        (workspace.middleware.transport.publishers_dropSubscriber _)
  | took known there runs front =>
      obtain ⟨_, _, _, _, rfl⟩ := Transport.takeSample_eq_some front
      rw [if_neg (fun sends => nomatch sends.1)]
      exact .inr ⟨found, endpoint⟩
  | _ =>
      rw [if_neg (fun sends => nomatch sends.1)]
      exact .inr ⟨found, endpoint⟩

theorem Effect.publisher_new {answer : Answer} (effect : workspace.Effect action answer after)
    (free : workspace.publishers.get? name = none) {state : PublisherState}
    (found : after.publishers.get? name = some state) :
    ∃ node support topic qos, action = .initPublisher (some name) node support topic (some qos) ∧
      after.publisherQos? state = some qos.resolve := by
  cases effect with
  | @publisherMade made node kind topic qos owner changed topicName absent there runs noted =>
      have mine : name = made := by
        by_contra apart
        dsimp only at found
        rw [Table.get?_set, if_neg apart] at found
        exact nomatch free.symm.trans found
      subst mine
      cases ((workspace.publishers.get?_set name name _).trans (if_pos rfl)).symm.trans found
      refine ⟨some node, _, topic, qos, rfl, ?_⟩
      have inserted := changed.transport.publishers.get?_insert
        { qos := qos.resolve, context := owner.context, history := [] } changed.transport.publishers.next
      exact congrArg (Option.map PublisherEnd.qos) (inserted.trans (if_pos rfl))
  | publisherReleased gone => exact nomatch free.symm.trans (Table.get?_of_erase found)
  | _ => exact nomatch free.symm.trans found

theorem Wired.exists_publisher (wired : Wired workspace) {state : PublisherState}
    (found : workspace.publishers.get? name = some state) :
    ∃ held, workspace.middleware.transport.publishers.get? state.endpoint = some held :=
  (Arena.contains_iff _ _).1
    ((wired.publishers.mem_iff state.key state.endpoint).1 (Registered.mem_ends found)).2

/-- A publisher after a call was there before it with the same profile, or it is new. -/
theorem Wired.publisher_before (wired : Wired workspace) {state : PublisherState}
    (found : (workspace.step action).2.publishers.get? name = some state) :
    workspace.publishers.get? name = some state ∧
        (workspace.step action).2.publisherQos? state = workspace.publisherQos? state ∨
      ∃ node support topic qos, action = .initPublisher (some name) node support topic (some qos) ∧
        (workspace.step action).2.publisherQos? state = some qos.resolve := by
  have effect := workspace.step_effect action
  cases before : workspace.publishers.get? name with
  | none => exact .inr (effect.publisher_new before found)
  | some known =>
      obtain ⟨held, endpoint⟩ := wired.exists_publisher before
      rcases effect.publisher wired before endpoint with ⟨_, gone⟩ | ⟨kept, later⟩
      · exact nomatch gone.symm.trans found
      · cases kept.symm.trans found
        refine .inl ⟨rfl, ?_⟩
        unfold publisherQos?
        rw [later, endpoint, Option.map_some, Option.map_some]
        split
        · rw [Transport.qos_remembering]
        · rfl

/-- A call leaves a subscription alone: it neither releases it nor takes from it. -/
def Action.spares (action : Action) (name : String) : Bool :=
  match action with
  | .finiSubscription subscription _ => subscription ≠ some name
  | .take subscription _ => subscription ≠ some name
  | _ => true

def Feeds (workspace : Workspace) (action : Action) (answer : Answer) (name : String) : Prop :=
  action.publishes?.any (fun publisher => workspace.matched publisher name && workspace.runs name) = true ∧
    answer = .status .ok

instance (workspace : Workspace) (action : Action) (answer : Answer) (name : String) :
    Decidable (workspace.Feeds action answer name) :=
  inferInstanceAs (Decidable (_ ∧ _))

theorem not_feeds {answer : Answer} (quiet : action.publishes? = none) : ¬ workspace.Feeds action answer name := by
  unfold Feeds
  rw [quiet]
  exact fun feeds => nomatch feeds.1

/-- A subscription that a call leaves alone is there after it, with one sample more where the call feeds it. -/
theorem Effect.spared {answer : Answer} (effect : workspace.Effect action answer after) (wired : Wired workspace)
    {state : SubscriptionState} {held : SubscriberEnd} (here : workspace.subscriptions.get? name = some state)
    (present : workspace.middleware.transport.subscribers.get? state.endpoint = some held)
    (spared : action.spares name = true) :
    after.subscriptions.get? name = some state ∧
      after.middleware.transport.subscribers.get? state.endpoint =
        some (if workspace.Feeds action answer name then
          Transport.pushed workspace.middleware.transport.store.samples.next held else held) := by
  have old := workspace.middleware.transport.subscribers.lt_next_of_get? present
  cases effect with
  | noted unmoved noted =>
      obtain ⟨reason, ledger, rfl, _⟩ := noted
      have idle : ¬ workspace.Feeds action answer name := by
        rintro ⟨fed, granted⟩
        cases action with
        | publish publisher data => exact unmoved rfl granted
        | _ => cases fed
      rw [if_neg idle]
      exact ⟨here, present⟩
  | publisherMade topicName free there runs noted =>
      obtain ⟨reason, ledger, rfl, _⟩ := noted
      rw [if_neg (not_feeds rfl)]
      exact ⟨here, present⟩
  | publisherReleased gone =>
      rw [if_neg (not_feeds rfl)]
      refine ⟨here, Eq.trans ?_ present⟩
      exact congrArg (fun arena => arena.get? state.endpoint)
        (workspace.middleware.transport.subscribers_dropPublisher _)
  | @published sender datum its source reason first last content known there runs =>
      have sent := fun store => ((workspace.middleware.transport.withStore store).publish_ends
        (workspace.middleware.topic its.key) there workspace.middleware.transport.store.samples.next
        (wired.subscribers.nodup_receivers its.key source.qos)).2.1 state.endpoint
      have receives := wired.mem_receivers_iff known there here
      refine ⟨here, (sent _).trans ?_⟩
      by_cases reached : state.endpoint ∈ workspace.middleware.transport.receivers
          (workspace.middleware.topic its.key) source.qos
      · have feeds : workspace.Feeds (.publish (some sender) (some datum)) (.status .ok) name :=
          ⟨receives.1 reached, rfl⟩
        rw [if_pos feeds]
        exact (if_pos reached).trans (congrArg (Option.map _) present)
      · have idle : ¬ workspace.Feeds (.publish (some sender) (some datum)) (.status .ok) name :=
          fun feeds => reached (receives.2 feeds.1)
        rw [if_neg idle]
        exact (if_neg reached).trans present
  | @subscriptionMade made node kind topic qos owner changed topicName free there runs noted =>
      obtain ⟨reason, ledger, rfl, _⟩ := noted
      have apart : name ≠ made := by
        rintro rfl
        exact nomatch free.symm.trans here
      have added := fun topic => (Transport.addSubscriber_ends
        (workspace.middleware.recount reason ledger).transport topic qos.resolve owner.context).2 state.endpoint
      rw [if_neg (not_feeds rfl)]
      refine ⟨(workspace.subscriptions.get?_set made name _).trans ((if_neg apart).trans here), ?_⟩
      exact (added _).trans ((if_neg (Nat.ne_of_lt old)).trans present)
  | @subscriptionReleased gone node released known =>
      have apart : name ≠ gone := by
        rintro rfl
        exact of_decide_eq_true spared rfl
      have ends : state.endpoint ≠ released.endpoint := fun same => apart (wired.subscribers.name_eq known here same)
      rw [if_neg (not_feeds rfl)]
      refine ⟨(workspace.subscriptions.get?_erase gone name).trans ((if_neg apart).trans here), ?_⟩
      exact (workspace.middleware.transport.get?_dropSubscriber _ _).trans ((if_neg ends).trans present)
  | @took taker withBuffer answer its sink sample taken reason first last known there runs front =>
      obtain ⟨_, queue, _, _, rfl⟩ := Transport.takeSample_eq_some front
      have apart : name ≠ taker := by
        rintro rfl
        exact of_decide_eq_true spared rfl
      have ends : state.endpoint ≠ its.endpoint := fun same => apart (wired.subscribers.name_eq known here same)
      have moved := workspace.middleware.transport.subscribers.get?_modify its.endpoint state.endpoint
        (fun old => { old with queue })
      rw [if_neg (not_feeds rfl)]
      exact ⟨here, moved.trans ((if_neg ends).trans present)⟩
  | _ =>
      rw [if_neg (not_feeds rfl)]
      exact ⟨here, present⟩

end Workspace

end PubSub
