import Mathlib.Data.List.DropRight
import PubSub.Proofs.Calls.Histories
import PubSub.Proofs.Validity.Ended

/-!
Topics with one transient-local publisher.  As long as it is the only one, it keeps the newest of what it sent, a
subscription that comes late is replayed just that, and one that was there from the start was put all of it into its
queue.
-/

namespace PubSub

namespace Qos

variable {Item : Type}

def room (qos : Qos) (number : Nat) : Nat :=
  if qos.history = .keepLast then min qos.depth.toNat number else number

theorem excess_eq (qos : Qos) (number : Nat) : Transport.excess qos number = number - qos.room number := by
  unfold Transport.excess room
  split <;> omega

theorem room_le (qos : Qos) (number : Nat) : qos.room number ≤ number := by
  unfold room
  split <;> omega

theorem newest_eq_rtake (qos : Qos) (items : List Item) : qos.newest items = items.rtake (qos.room items.length) := by
  unfold newest List.rtake
  rw [excess_eq]

theorem newest_newest (requested offered : Qos) (items : List Item) :
    requested.newest (offered.newest items) = items.rtake (requested.room (offered.room items.length)) := by
  have kept : (offered.newest items).length = offered.room items.length := by
    have most := offered.room_le items.length
    unfold newest
    rw [List.length_drop, excess_eq]
    omega
  have most := requested.room_le (offered.room items.length)
  have all := offered.room_le items.length
  rw [requested.newest_eq_rtake, kept, newest_eq_rtake, List.rtake, List.rtake, List.rtake, List.length_drop,
    List.drop_drop]
  congr 1
  omega

def Covers (offered requested : Qos) : Prop :=
  offered.history = .keepAll ∨ requested.history = .keepLast ∧ requested.depth ≤ offered.depth

instance (offered requested : Qos) : Decidable (offered.Covers requested) :=
  inferInstanceAs (Decidable (_ ∨ _))

theorem Covers.newest_newest {offered requested : Qos} (covers : offered.Covers requested) (items : List Item) :
    requested.newest (offered.newest items) = requested.newest items := by
  rw [Qos.newest_newest, newest_eq_rtake]
  rcases covers with all | ⟨last, less⟩
  · rw [show offered.room items.length = items.length from if_neg (by rw [all]; exact nofun)]
  · have less : requested.depth.toNat ≤ offered.depth.toNat := less
    have same : requested.room (offered.room items.length) = requested.room items.length := by
      unfold room
      rw [if_pos last, if_pos last]
      split <;> omega
    rw [same]

theorem durability_resolve (qos : Qos) : qos.resolve.durability ≠ .systemDefault := by
  unfold resolve
  dsimp only
  split
  · exact nofun
  · assumption

theorem isTransientLocal_of_compatible {offered requested : Qos} (settled : offered.durability ≠ .systemDefault)
    (compatible : offered.compatible requested = true) (late : requested.isTransientLocal = true) :
    offered.isTransientLocal = true := by
  unfold Qos.compatible at compatible
  unfold isTransientLocal at late ⊢
  cases durability : offered.durability with
  | systemDefault => exact absurd durability settled
  | transientLocal => rfl
  | volatile =>
      rw [durability, of_decide_eq_true late] at compatible
      simp at compatible

end Qos

namespace Transport

variable {transport : Transport} {topic : Topic} {index : Nat} {held : PublisherEnd}

theorem mem_livePublishers :
    (index, held) ∈ transport.livePublishers topic ↔
      index ∈ topic.publishers ∧ transport.publishers.get? index = some held := by
  unfold livePublishers
  rw [List.mem_filterMap]
  constructor
  · rintro ⟨other, listed, there⟩
    obtain ⟨state, found, same⟩ := Option.map_eq_some_iff.1 there
    cases same
    exact ⟨listed, found⟩
  · rintro ⟨listed, found⟩
    exact ⟨index, listed, congrArg (Option.map _) found⟩

theorem map_fst_livePublishers (transport : Transport) (topic : Topic) :
    (transport.livePublishers topic).map Prod.fst = topic.publishers.filter transport.publishers.contains := by
  unfold livePublishers Arena.contains
  induction topic.publishers with
  | nil => rfl
  | cons publisher rest ih =>
      cases found : transport.publishers.get? publisher with
      | none => simp [found, ih]
      | some state => simp [found, ih]

end Transport

namespace Workspace

variable {workspace : Workspace} {publisher name : String} {action : Action} {offered requested : Qos}
  {samples : List Nat} {context : Nat}

def Settled (workspace : Workspace) : Prop :=
  ∀ name state qos, workspace.publishers.get? name = some state → workspace.publisherQos? state = some qos →
    qos.durability ≠ .systemDefault

theorem settled_empty : Settled .empty :=
  fun _ _ _ found => nomatch found

theorem Settled.step (settled : Settled workspace) (wired : Wired workspace) (action : Action) :
    Settled (workspace.step action).2 := by
  intro name state qos found profile
  rcases wired.publisher_before found with ⟨before, same⟩ | ⟨_, _, _, asked, _, made⟩
  · exact settled name state qos before (same.symm.trans profile)
  · cases made.symm.trans profile
    exact asked.durability_resolve

theorem Settled.run (settled : Settled workspace) (wired : Wired workspace) (actions : List Action) :
    Settled (workspace.run actions) := by
  induction actions generalizing workspace with
  | nil => exact settled
  | cons action rest ih => exact ih (settled.step wired action) (wired.step action)

/-- A publisher is transient-local, and no other one with its topic is. -/
def sole (workspace : Workspace) (publisher : String) : Bool :=
  (workspace.publishers.get? publisher).any (fun state =>
    (workspace.publisherQos? state).any Qos.isTransientLocal &&
      workspace.publishers.entries.all (fun entry =>
        entry.1 = publisher || entry.2.key ≠ state.key ||
          !(workspace.publisherQos? entry.2).any Qos.isTransientLocal))

/-- A publisher is the only transient-local one with its topic before and after every call of a run. -/
def soleThrough (publisher : String) (workspace : Workspace) : List Action → Bool
  | [] => workspace.sole publisher
  | action :: rest => workspace.sole publisher && (workspace.step action).2.soleThrough publisher rest

theorem sole_of_soleThrough {actions : List Action} (sole : workspace.soleThrough publisher actions = true) :
    workspace.sole publisher = true := by
  cases actions with
  | nil => exact sole
  | cons action rest => exact (Bool.and_eq_true_iff.1 sole).1

theorem exists_of_sole (sole : workspace.sole publisher = true) :
    ∃ state held, workspace.publishers.get? publisher = some state ∧
      workspace.middleware.transport.publishers.get? state.endpoint = some held ∧
      held.qos.isTransientLocal = true ∧
      ∀ name other kept, workspace.publishers.get? name = some other →
        workspace.middleware.transport.publishers.get? other.endpoint = some kept → other.key = state.key →
          kept.qos.isTransientLocal = true → name = publisher := by
  unfold Workspace.sole publisherQos? at sole
  obtain ⟨state, found, tells⟩ := (Option.any_eq_true _ _).1 sole
  obtain ⟨keeps, others⟩ := Bool.and_eq_true_iff.1 tells
  obtain ⟨qos, profile, late⟩ := (Option.any_eq_true _ _).1 keeps
  obtain ⟨held, endpoint, rfl⟩ := Option.map_eq_some_iff.1 profile
  refine ⟨state, held, found, endpoint, late, ?_⟩
  intro name other kept there its same also
  have spared := List.all_eq_true.1 others (name, other) ((workspace.publishers.get?_eq_some_iff name other).1 there)
  rw [its, Option.map_some, Option.any_some, also] at spared
  simpa [same] using spared

def KeepsNewest (workspace : Workspace) (publisher : String) (qos : Qos) (samples : List Nat) : Prop :=
  ∃ held, workspace.publisherOf publisher = some held ∧ held.qos = qos ∧ held.history = qos.newest samples

def numberSent (publisher : String) (workspace : Workspace) (action : Action) : List Nat :=
  if workspace.Sends publisher action then [workspace.middleware.transport.store.samples.next] else []

def numbersSent (publisher : String) (workspace : Workspace) (actions : List Action) : List Nat :=
  (workspace.gather (sentBy publisher) actions).map Prod.fst

theorem numbersSent_cons (action : Action) (rest : List Action) :
    workspace.numbersSent publisher (action :: rest) =
      workspace.numberSent publisher action ++ (workspace.step action).2.numbersSent publisher rest := by
  unfold numbersSent numberSent
  rw [gather, List.map_append]
  by_cases sends : workspace.Sends publisher action
  · obtain ⟨message, sent⟩ := sentBy_of_sends sends
    rw [sent, if_pos sends]
    rfl
  · rw [sentBy_of_not_sends sends, if_neg sends]
    rfl

theorem KeepsNewest.isTransientLocal (keepsNewest : workspace.KeepsNewest publisher offered samples)
    (sole : workspace.sole publisher = true) : offered.isTransientLocal = true := by
  obtain ⟨state, held, found, endpoint, keeps, _⟩ := exists_of_sole sole
  obtain ⟨other, known, rfl, _⟩ := keepsNewest
  cases known.symm.trans (publisherOf_eq_some.2 ⟨state, found, endpoint⟩)
  exact keeps

theorem KeepsNewest.step (keepsNewest : workspace.KeepsNewest publisher offered samples) (wired : Wired workspace)
    (keeps : offered.isTransientLocal = true) (action : Action)
    (stays : (workspace.step action).2.publishers.get? publisher ≠ none) :
    (workspace.step action).2.KeepsNewest publisher offered (samples ++ workspace.numberSent publisher action) := by
  obtain ⟨held, known, rfl, kept⟩ := keepsNewest
  obtain ⟨state, found, endpoint⟩ := publisherOf_eq_some.1 known
  rcases (workspace.step_effect action).publisher wired found endpoint with ⟨_, gone⟩ | ⟨there, later⟩
  · exact absurd gone stays
  · change _ = some (if workspace.Sends publisher action then _ else _) at later
    refine ⟨_, publisherOf_eq_some.2 ⟨state, there, later⟩, ?_⟩
    unfold numberSent
    by_cases sends : workspace.Sends publisher action
    · rw [if_pos sends, if_pos sends, Transport.qos_remembering, Transport.remembering, if_pos keeps, kept]
      exact ⟨rfl, held.qos.newest_append _ _⟩
    · rw [if_neg sends, if_neg sends, List.append_nil]
      exact ⟨rfl, kept⟩

theorem KeepsNewest.run (keepsNewest : workspace.KeepsNewest publisher offered samples) (wired : Wired workspace)
    (keeps : offered.isTransientLocal = true) {actions : List Action}
    (sole : workspace.soleThrough publisher actions = true) :
    (workspace.run actions).KeepsNewest publisher offered (samples ++ workspace.numbersSent publisher actions) := by
  -- By induction on the calls: what is sent later is put after what was sent so far.
  induction actions generalizing workspace samples with
  | nil =>
      rw [show workspace.numbersSent publisher [] = [] from rfl, List.append_nil]
      exact keepsNewest
  | cons action rest ih =>
      obtain ⟨_, later⟩ := Bool.and_eq_true_iff.1 sole
      obtain ⟨state, _, there, _⟩ := exists_of_sole (sole_of_soleThrough later)
      have kept := ih (keepsNewest.step wired keeps action (by rw [there]; exact nofun)) (wired.step action)
        later
      rw [numbersSent_cons, ← List.append_assoc]
      exact kept

theorem flatMap_eq_of_single {Item Part : Type} {parts : Item → List Part} {items : List Item} {item : Item}
    (distinct : items.Nodup) (member : item ∈ items)
    (others : ∀ other ∈ items, other ≠ item → parts other = []) : items.flatMap parts = parts item := by
  obtain ⟨front, back, rfl⟩ := List.append_of_mem member
  obtain ⟨_, right, apart⟩ := List.nodup_append.1 distinct
  have before : front.flatMap parts = [] := List.flatMap_eq_nil_iff.2 (fun other here =>
    others other (List.mem_append_left _ here) (apart other here item List.mem_cons_self))
  have after : back.flatMap parts = [] := List.flatMap_eq_nil_iff.2 (fun other here =>
    others other (List.mem_append_right _ (List.mem_cons_of_mem _ here))
      (fun same => (List.nodup_cons.1 right).1 (same ▸ here)))
  rw [List.flatMap_append, List.flatMap_cons, before, after, List.nil_append, List.append_nil]

/-- A subscription that comes late is replayed what the only transient-local publisher of its topic keeps. -/
theorem Wired.replayed_of_sole (wired : Wired workspace) (sole : workspace.sole publisher = true)
    {state : PublisherState} {held : PublisherEnd} (found : workspace.publishers.get? publisher = some state)
    (endpoint : workspace.middleware.transport.publishers.get? state.endpoint = some held) {qos : Qos}
    (late : qos.isTransientLocal = true) (compatible : held.qos.compatible qos = true) :
    workspace.middleware.transport.replayed (workspace.middleware.pruneGraph.topic state.key) qos =
      held.history := by
  obtain ⟨_, _, there, its, keeps, others⟩ := exists_of_sole sole
  cases found.symm.trans there
  cases endpoint.symm.trans its
  have registered := wired.pruned.publishers
  have listed := ((registered.mem_iff state.key state.endpoint).1 (Registered.mem_ends found)).1
  have distinct : ((workspace.middleware.pruneGraph.topic state.key).publishers.filter
      workspace.middleware.transport.publishers.contains).Nodup := by
    refine (registered.live state.key).symm ▸ ?_
    exact registered.distinct.sublist (List.filter_sublist.map Prod.snd)
  unfold Transport.replayed
  rw [if_pos late]
  refine (flatMap_eq_of_single ?_ (Transport.mem_livePublishers.2 ⟨listed, endpoint⟩) ?_).trans ?_
  · refine List.Nodup.of_map Prod.fst ?_
    rw [Transport.map_fst_livePublishers]
    exact distinct
  · rintro ⟨index, other⟩ member apart
    obtain ⟨also, present⟩ := Transport.mem_livePublishers.1 member
    obtain ⟨⟨name, mine⟩, entry, place⟩ := List.mem_map.1
      ((registered.mem_iff state.key index).2 ⟨also, (Arena.contains_iff _ _).2 ⟨other, present⟩⟩)
    obtain ⟨key, rfl⟩ := Prod.mk.inj place
    have known := (workspace.publishers.get?_eq_some_iff name mine).2 entry
    apply if_neg
    intro fits
    cases others name mine other known present key (Bool.and_eq_true_iff.1 fits).1
    cases found.symm.trans known
    cases endpoint.symm.trans present
    exact apart rfl
  · exact if_pos (Bool.and_eq_true_iff.2 ⟨keeps, compatible⟩)

theorem exists_of_matched (matched : workspace.matched publisher name = true) {state : SubscriptionState}
    (here : workspace.subscriptions.get? name = some state) :
    ∃ sender held subscriber, workspace.publishers.get? publisher = some sender ∧
      workspace.middleware.transport.publishers.get? sender.endpoint = some held ∧
      workspace.subscriberOf name = some subscriber ∧ sender.key = state.key ∧
      held.qos.compatible subscriber.qos = true := by
  unfold Workspace.matched at matched
  obtain ⟨same, reaches⟩ := Bool.and_eq_true_iff.1 matched
  obtain ⟨held, known, some⟩ := (Option.any_eq_true _ _).1 reaches
  obtain ⟨subscriber, present, compatible⟩ := (Option.any_eq_true _ _).1 some
  obtain ⟨sender, there, endpoint⟩ := publisherOf_eq_some.1 known
  have keys := of_decide_eq_true same
  rw [here, there, Option.map_some, Option.map_some, Option.some.injEq] at keys
  exact ⟨sender, held, subscriber, there, endpoint, present, keys.symm, compatible⟩

/-- A transient-local subscription is sent what the only transient-local publisher of its topic sends. -/
theorem Settled.feeds_iff_sends (settled : Settled workspace) (sole : workspace.sole publisher = true)
    (matched : workspace.matched publisher name = true) (runs : workspace.runs name = true)
    {subscriber : SubscriberEnd} (present : workspace.subscriberOf name = some subscriber)
    (late : subscriber.qos.isTransientLocal = true) (action : Action) :
    workspace.Feeds action (workspace.step action).1 name ↔ workspace.Sends publisher action := by
  constructor
  · rintro ⟨fed, granted⟩
    obtain ⟨sender, publishes, reaches⟩ := (Option.any_eq_true _ _).1 fed
    obtain ⟨also, _⟩ := Bool.and_eq_true_iff.1 reaches
    obtain ⟨state, here, _⟩ := subscriberOf_eq_some.1 present
    obtain ⟨mine, _, _, there, _, _, key, _⟩ := exists_of_matched matched here
    obtain ⟨other, held, _, found, endpoint, its, same, compatible⟩ := exists_of_matched also here
    cases present.symm.trans its
    obtain ⟨_, _, known, _, _, others⟩ := exists_of_sole sole
    cases there.symm.trans known
    have durable := settled sender other held.qos found (congrArg (Option.map PublisherEnd.qos) endpoint)
    cases others sender other held found endpoint (same.trans key.symm)
      (Qos.isTransientLocal_of_compatible durable compatible late)
    exact ⟨publishes, granted⟩
  · rintro ⟨publishes, granted⟩
    refine ⟨?_, granted⟩
    rw [publishes, Option.any_some, matched, runs]
    rfl

/-- A publisher and a subscription that it matches, which was put all that the publisher sent into its queue. -/
structure Attends (workspace : Workspace) (publisher name : String) (offered requested : Qos) (context : Nat)
    (samples : List Nat) : Prop where
  kept : workspace.KeepsNewest publisher offered samples
  queued : workspace.subscriberOf name =
    some { qos := requested, context, queue := (SampleQueue.ofQos requested).pushAll samples }
  matched : workspace.matched publisher name = true
  known : ∃ state, workspace.middleware.transport.contexts.get? context = some state

theorem Attends.step (attends : workspace.Attends publisher name offered requested context samples)
    (wired : Wired workspace) (settled : Settled workspace) (sole : workspace.sole publisher = true)
    (keeps : offered.isTransientLocal = true) (late : requested.isTransientLocal = true)
    (spared : action.spares name = true) (stays : (workspace.step action).2.publishers.get? publisher ≠ none)
    (runs : workspace.middleware.transport.isValid context = true) :
    (workspace.step action).2.Attends publisher name offered requested context
      (samples ++ workspace.numberSent publisher action) := by
  have effect := workspace.step_effect action
  obtain ⟨state, here, present⟩ := subscriberOf_eq_some.1 attends.queued
  obtain ⟨left, turned⟩ := effect.spared wired here present spared
  have feeds := settled.feeds_iff_sends sole attends.matched
    (by unfold Workspace.runs; rw [attends.queued]; exact runs) attends.queued late action
  obtain ⟨sender, held, _, there, endpoint, its, key, compatible⟩ := exists_of_matched attends.matched here
  cases attends.queued.symm.trans its
  constructor
  · exact attends.kept.step wired keeps action stays
  · refine subscriberOf_eq_some.2 ⟨state, left, turned.trans (congrArg some ?_)⟩
    unfold numberSent
    by_cases sends : workspace.Sends publisher action
    · rw [if_pos (feeds.2 sends), if_pos sends]
      unfold Transport.pushed SampleQueue.pushAll
      rw [List.foldl_append]
      rfl
    · rw [if_neg (fun fed => sends (feeds.1 fed)), if_neg sends, List.append_nil]
  · rcases effect.publisher wired there endpoint with ⟨_, gone⟩ | ⟨remains, later⟩
    · exact absurd gone stays
    · rw [matched_eq remains later left, turned, Option.any_some, decide_eq_true key.symm, Bool.true_and]
      split <;> split <;> simpa only [Transport.qos_remembering, Transport.pushed] using compatible
  · obtain ⟨running, found⟩ := attends.known
    rcases effect.get?_context found with kept | ⟨_, ended⟩
    · exact ⟨running, kept⟩
    · exact ⟨_, ended⟩

theorem isValid_of_run {state : ContextState}
    (found : workspace.middleware.transport.contexts.get? context = some state) {actions : List Action}
    (runs : (workspace.run actions).middleware.transport.isValid context = true) :
    workspace.middleware.transport.isValid context = true := by
  unfold Transport.isValid
  rw [found]
  cases valid : state.valid with
  | true => exact valid
  | false =>
      have ended : workspace.Ended context := ⟨state, found, valid⟩
      exact nomatch (ended.run actions).isValid.symm.trans runs

theorem Attends.run (attends : workspace.Attends publisher name offered requested context samples)
    (wired : Wired workspace) (settled : Settled workspace) (keeps : offered.isTransientLocal = true)
    (late : requested.isTransientLocal = true) {actions : List Action}
    (sole : workspace.soleThrough publisher actions = true) (spared : ∀ action ∈ actions, action.spares name = true)
    (runs : (workspace.run actions).middleware.transport.isValid context = true) :
    (workspace.run actions).Attends publisher name offered requested context
      (samples ++ workspace.numbersSent publisher actions) := by
  -- By induction on the calls; a context that runs in the end ran at every one of them.
  induction actions generalizing workspace samples with
  | nil =>
      rw [show workspace.numbersSent publisher [] = [] from rfl, List.append_nil]
      exact attends
  | cons action rest ih =>
      obtain ⟨here, later⟩ := Bool.and_eq_true_iff.1 sole
      obtain ⟨first, others⟩ := List.forall_mem_cons.1 spared
      obtain ⟨_, found⟩ := attends.known
      obtain ⟨_, _, there, _⟩ := exists_of_sole (sole_of_soleThrough later)
      have stays : (workspace.step action).2.publishers.get? publisher ≠ none := by
        rw [there]
        exact nofun
      have next := attends.step wired settled here keeps late first stays (isValid_of_run found runs)
      rw [numbersSent_cons, ← List.append_assoc]
      exact ih next (wired.step action) (settled.step wired action) later others runs

end Workspace

end PubSub
