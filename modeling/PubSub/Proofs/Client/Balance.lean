import PubSub.Proofs.Client.Accounts

/-!
Balance.  Whatever clients do, and whatever fails or is raised meanwhile, every message that is encoded for a publish is
released with it, every buffer is released with the take that it was made for, and a sample is released when the last
endpoint that keeps it lets go of it.
-/

namespace PubSub

namespace Session

variable {session : Session} {handles nodes subscriptions : List Nat}

def keptBy (session : Session) : Resource → List Nat
  | .publisher (some state) =>
      ((session.middleware.transport.publishers.get? state.endpoint).map PublisherEnd.history).getD []
  | .subscription (some state) =>
      ((session.middleware.transport.subscribers.get? state.endpoint).map
        (fun held => held.queue.waiting)).getD []
  | _ => []

/-- The samples of a kind that are kept for handles that are there, each of them once. -/
def samples (session : Session) (kind : MessageKind) : Finset Nat :=
  let kept := session.forest.handles.cells.values.flatMap (fun held => session.keptBy held.resource)
  (kept.filter (fun sample => (session.middleware.transport.store.samples.get? sample).any
    (fun stored => stored.kind = kind))).toFinset

theorem mem_samples_iff (session : Session) (kind : MessageKind) (sample : Nat) :
    sample ∈ session.samples kind ↔
      (∃ handle held, session.forest.get? handle = some held ∧
          sample ∈ session.keptBy held.resource) ∧
        ∃ stored, session.middleware.transport.store.samples.get? sample = some stored ∧
          stored.kind = kind := by
  unfold samples
  rw [List.mem_toFinset, List.mem_filter, List.mem_flatMap, Option.any_eq_true]
  refine and_congr ⟨?_, ?_⟩ (by simp only [decide_eq_true_eq])
  · rintro ⟨held, listed, kept⟩
    obtain ⟨⟨handle, _⟩, entry, rfl⟩ := List.mem_map.1 listed
    exact ⟨handle, _, (session.forest.handles.cells.get?_eq_some_iff _ _).2 entry, kept⟩
  · rintro ⟨handle, held, found, kept⟩
    have entry := (session.forest.handles.cells.get?_eq_some_iff handle held).1 found
    exact ⟨held, List.mem_map_of_mem (f := Prod.snd) entry, kept⟩

theorem keptBy_of_publisher? {resource : Resource} {index : Nat} {held : PublisherEnd}
    (number : resource.publisher? = some index)
    (there : session.middleware.transport.publishers.get? index = some held) :
    session.keptBy resource = held.history := by
  cases resource with
  | publisher slot =>
      obtain ⟨state, rfl, rfl⟩ := Option.map_eq_some_iff.1 number
      simp only [keptBy, there, Option.map_some, Option.getD_some]
  | _ => cases number

theorem keptBy_of_subscription? {resource : Resource} {index : Nat} {held : SubscriberEnd}
    (number : resource.subscription? = some index)
    (there : session.middleware.transport.subscribers.get? index = some held) :
    session.keptBy resource = held.queue.waiting := by
  cases resource with
  | subscription slot =>
      obtain ⟨state, rfl, rfl⟩ := Option.map_eq_some_iff.1 number
      simp only [keptBy, there, Option.map_some, Option.getD_some]
  | _ => cases number

/-- A sample is there exactly while it is kept for a handle that is there. -/
theorem Owned.kept_iff (owned : session.Owned handles nodes subscriptions)
    (sound : session.middleware.transport.Sound (fun _ => 0)) (sample : Nat) :
    (∃ handle held, session.forest.get? handle = some held ∧ sample ∈ session.keptBy held.resource) ↔
      ∃ stored, session.middleware.transport.store.samples.get? sample = some stored := by
  constructor
  · rintro ⟨handle, ⟨_, resource, _, _⟩, _, kept⟩
    unfold keptBy at kept
    split at kept
    · rename_i state _
      cases there : session.middleware.transport.publishers.get? state.endpoint with
      | none => simp [there] at kept
      | some held =>
          rw [there] at kept
          exact sound.exists_of_history there kept
    · rename_i state _
      cases there : session.middleware.transport.subscribers.get? state.endpoint with
      | none => simp [there] at kept
      | some held =>
          rw [there] at kept
          exact sound.exists_of_waiting there kept
    · cases kept
  · intro present
    have shares := (Arena.Owned.held_iff sound sample).2 present
    by_cases retained : 0 < session.middleware.transport.historyShares sample
    · obtain ⟨index, state, there, many⟩ :=
        session.middleware.transport.publishers.exists_of_total_pos _ retained
      have contains := (Arena.contains_iff _ _).2 ⟨state, there⟩
      obtain ⟨handle, held, found, number⟩ := (owned.intact.native.publishersThere index).1 contains
      refine ⟨handle, held, found, ?_⟩
      rw [keptBy_of_publisher? number there]
      exact List.count_pos_iff.1 many
    · have waits : 0 < session.middleware.transport.queueShares sample := by
        beta_reduce at shares
        omega
      obtain ⟨index, state, there, many⟩ :=
        session.middleware.transport.subscribers.exists_of_total_pos _ waits
      have contains := (Arena.contains_iff _ _).2 ⟨state, there⟩
      obtain ⟨handle, held, found, number⟩ :=
        (owned.intact.native.subscriptionsThere index).1 contains
      refine ⟨handle, held, found, ?_⟩
      rw [keptBy_of_subscription? number there]
      exact List.count_pos_iff.1 many

theorem Owned.stored_eq (owned : session.Owned handles nodes subscriptions)
    (sound : session.middleware.transport.Sound (fun _ => 0)) (kind : MessageKind) :
    session.middleware.transport.store.stored kind = (session.samples kind).card := by
  refine SampleStore.stored_eq_card _ (fun sample => ?_)
  rw [session.mem_samples_iff kind sample, owned.kept_iff sound sample]
  constructor
  · exact And.right
  · rintro ⟨stored, found, its⟩
    exact ⟨⟨stored, found⟩, stored, found, its⟩

end Session

namespace Scene

variable {scene : Scene} {log : List Publication}

/--
Of each kind, as many messages were encoded as were published, and as many released; and what was made and not released
are the samples that endpoints keep, and the buffers of takes that are not done.
-/
structure Balanced (scene : Scene) (log : List Publication) : Prop where
  acquired : ∀ kind, (scene.session.middleware.ledger.calls kind).acquired =
    (log.map Publication.kind).count kind
  released : ∀ kind, (scene.session.middleware.ledger.calls kind).released =
    (log.map Publication.kind).count kind
  live : ∀ kind, scene.session.middleware.ledger.live kind =
    (scene.session.samples kind).card + scene.buffers.count kind

theorem Course.balanced (course : start.Course log scene) : scene.Balanced log := by
  have reached : scene.Reached := course.moves
  refine ⟨course.logged.acquired, course.logged.released, fun kind => ?_⟩
  have settled : (scene.session.middleware.ledger.calls kind).init =
      (scene.session.middleware.ledger.calls kind).fini +
        scene.session.middleware.transport.store.stored kind + scene.buffers.count kind :=
    reached.settled kind
  rw [reached.owned.stored_eq reached.sound kind] at settled
  unfold Ledger.live
  omega

end Scene

/--
After every run the books balance: there is a course that it took, and each message that was published in it was encoded
once and released once, whether it was sent, or refused for a context that was shut down or a copy that failed; and what
is live of a kind are the samples that publishers and subscriptions keep which are there.  The same holds after every
action of a callback, apart from the buffers of the takes that it is nested in.
-/
theorem Session.balanced_run (actions : List Action) (orderly : orderlyAll actions = true) :
    (∃ log, Scene.start.Course log (Scene.start.withSession (empty.run actions)) ∧
      ∀ kind,
        let calls := (empty.run actions).middleware.ledger.calls kind
        calls.acquired = (log.map Publication.kind).count kind ∧
          calls.released = (log.map Publication.kind).count kind ∧
          (empty.run actions).middleware.ledger.live kind = ((empty.run actions).samples kind).card) ∧
      ∀ scene log, Scene.start.Course log scene →
        scene.Balanced log ∧
          ∀ (limit depth : Nat) (action : Action), action.orderly = true →
            let ended := (Run.perform (Run.callbackWithin limit depth) limit action).run scene.session
            ∃ more, scene.Course more (scene.withSession ended.2) ∧
              (scene.withSession ended.2).Balanced (log ++ more) := by
  constructor
  · obtain ⟨log, course⟩ := Scene.goes_run actions orderly
    refine ⟨log, course, fun kind => ⟨course.balanced.acquired kind, course.balanced.released kind, ?_⟩⟩
    exact (course.balanced.live kind).trans (Int.add_zero _)
  · intro scene log course
    refine ⟨course.balanced, fun limit depth action orderly => ?_⟩
    obtain ⟨more, goes⟩ := Scene.Reached.goes_perform course.moves limit depth orderly
    exact ⟨more, goes, (course.trans goes).balanced⟩

namespace Session

/-- Publishes that are refused, and a callback that publishes and then raises. -/
def troubled : List Action :=
  [.makeContext "context" [],
    .makeNode "node" "context" (Bytes.ofString "a") (Bytes.ofString "/"),
    .makePublisher "publisher" "node" .counted (Bytes.ofString "chatter") Qos.standard,
    .makeSubscription "subscription" "node" .counted (Bytes.ofString "chatter") Qos.standard false
      [({ only := none, below := none, raises := false }, .publish "publisher" (.plus 1)),
        ({ only := none, below := none, raises := true }, .throwUser (Bytes.ofString "stop"))],
    .publish "publisher" (.given (.number 1)),
    .refuseCopies 1,
    .publish "publisher" (.given (.number 5)),
    .dispatch "subscription",
    .shutdown "context",
    .publish "publisher" (.given (.number 7))]

/-- Of four publishes two were refused; of the two samples one was taken, and one waits. -/
theorem balanced_run_troubled :
    (empty.run troubled).middleware.ledger.calls .counted =
        { init := 4, fini := 3, copy := 4, acquired := 4, released := 4 } ∧
      (empty.run troubled).samples .counted = {1} ∧
      ∃ log, Scene.start.Course log (Scene.start.withSession (empty.run troubled)) ∧
        (log.map Publication.kind).count .counted = 4 := by
  have calls : (empty.run troubled).middleware.ledger.calls .counted =
      { init := 4, fini := 3, copy := 4, acquired := 4, released := 4 } := by
    decide +kernel
  obtain ⟨⟨log, course, balanced⟩, _⟩ := balanced_run troubled rfl
  refine ⟨calls, by decide +kernel, log, course, ?_⟩
  rw [← (balanced .counted).1, calls]

end Session

end PubSub
