import PubSub.Proofs.Passes.Visits

/-!
Once in a pass.  A visit takes one message at most, from the queue of its own subscription, and runs the callback once
at most; and a pass comes to a subscription as often as its node was added.  So where each node was added once, a pass
takes one message from each subscription at most.  Where a node was added twice it takes two.
-/

namespace PubSub

namespace Run

variable {callback : Callback} {name : String} {session after : Session} {index : Nat}
  {subscription : SubscriptionObject}

/-- A visit of a subscription that is there: its queue loses what is in front at most, and no other queue changes. -/
structure Visited (callback : Callback) (index : Nat) (session after : Session)
    (subscription : SubscriptionObject) : Prop where
  found : session.subscriptions.get? index = some subscription
  takes : session.TakesFrom subscription after
  /-- What is in front is handed to the callback, once; or no callback runs. -/
  calls :
    (∃ sample message, session.waiting subscription = sample :: after.waiting subscription ∧
      (visitSubscription callback index).run session =
        let ended := (handOver callback index subscription message).run after
        (ended.1.map (fun _ => 1), ended.2.unbuffered subscription.kind)) ∨
      ∃ ended : Except Stop Unit, (visitSubscription callback index).run session =
        (ended.map (fun _ => 0), after.unbuffered subscription.kind)

theorem run_visitSubscription (found : session.subscriptions.get? index = some subscription) :
    (visitSubscription callback index).run session =
      let ended := (deliverFront callback index subscription).run session
      (ended.1.map (fun taken => if taken then 1 else 0), ended.2) := by
  unfold visitSubscription
  rw [run_view_bind, found, run_bind]
  generalize (deliverFront callback index subscription).run session = ended
  obtain ⟨stop | taken, last⟩ := ended <;> rfl

end Run

namespace Scene

variable {scene : Scene} {log : List Publication} {callback : Callback} {index : Nat}

/-- Whoever visits a subscription that is kept comes to it, takes at most once, and calls at most once. -/
theorem visited_of_kept (course : Scene.start.Course log scene) (kept : index ∈ scene.subscriptions) :
    ∃ subscription after, Run.Visited callback index scene.session after subscription := by
  have reached : scene.Reached := course.moves
  have owned := reached.owned
  have holders := List.count_pos_iff.2 kept
  obtain ⟨subscription, found⟩ := (owned.subscriptions.held_iff index).1 (by omega)
  have hands := Session.handsOver_of_course course
  rcases took : (Run.takeInto subscription subscription.kind.fresh).run
      (scene.session.buffered subscription.kind) with ⟨ended, after⟩
  -- The buffer changes no queue, and no owner.
  have inside : (scene.session.buffered subscription.kind).Owned [] scene.nodes scene.subscriptions :=
    owned.quiet (Transport.sameEnds_withStore _ _).quiet
  have takes := Session.takesFrom_of_owned inside took
  refine ⟨subscription, after, found, ⟨takes.own, takes.others⟩, ?_⟩
  rw [Run.run_visitSubscription found]
  by_cases filled : ∃ layout, ended = .ok (some layout)
  · obtain ⟨layout, rfl⟩ := filled
    obtain ⟨sample, publication, _, _, _, waits, _, delivers⟩ :=
      hands.taken index subscription layout after found took
    refine .inl ⟨sample, publication.message, waits, ?_⟩
    rw [delivers]
    generalize (Run.handOver callback index subscription publication.message).run after = handed
    obtain ⟨stop | _, last⟩ := handed <;> rfl
  · have nothing := (hands.otherwise subscription ended after took
      (fun layout same => filled ⟨layout, same⟩)).2 callback index
    refine .inr ⟨ended.map (fun _ => ()), ?_⟩
    rw [nothing]
    cases ended <;> rfl

end Scene

/--
One pass of an executor.  It goes by its visits, and takes and calls nothing in between; a subscription is visited as
often as a node was added, and once at most where each node was added once.
-/
structure Run.PassesByVisits (callback : Callback) (name : String) (executor : Executor)
    (session : Session) : Prop where
  traverses : Traverses callback session (visits callback name session) ((pass callback name).run session).2
  each : ∀ turn ∈ visits callback name session,
    ∃ subscription after, Visited callback turn.1 turn.2 after subscription
  sum : ∀ number after, (pass callback name).run session = (.ok number, after) →
    number = ((visits callback name session).map (gain (visitSubscription callback))).sum
  often : ∀ index, ∃ node,
    ((visits callback name session).map Prod.fst).count index ≤ executor.nodes.count node
  once : executor.nodes.Nodup → ((visits callback name session).map Prod.fst).Nodup

/--
Wherever a client can come, a pass takes from each subscription at most as many messages, and runs its callback at
most as often, as a node was added to its executor.
-/
theorem passes_take_as_added (callback : Callback) (proceeds : Run.CallbackProceeds callback) (scene : Scene)
    (goes : Scene.start.Goes scene) (name : String) (executor : Executor)
    (found : scene.session.executors.get? name = some executor) :
    Run.PassesByVisits callback name executor scene.session := by
  have reached : scene.Reached := goes.moves
  have bounded : ∀ index, ∃ node,
      ((Run.visits callback name scene.session).map Prod.fst).count index ≤ executor.nodes.count node := by
    intro index
    obtain ⟨node, bound⟩ := Run.count_visits_le proceeds reached found index
    exact ⟨node, bound.trans (List.filter_sublist.count_le node)⟩
  refine ⟨Run.traverses_pass found, ?_, fun _ _ => Run.pass_eq_gains found, bounded, ?_⟩
  · intro turn member
    obtain ⟨later, way, same, kept⟩ := Run.goes_visits proceeds reached found turn member
    obtain ⟨log, course⟩ := goes.trans way
    rw [← same]
    exact Scene.visited_of_kept course kept
  · intro distinct
    rw [List.nodup_iff_count_le_one]
    intro index
    obtain ⟨node, bound⟩ := bounded index
    exact bound.trans (List.nodup_iff_count_le_one.1 distinct node)

namespace Session

/-- Two messages wait for a subscription, and its node was added so many times to an executor. -/
def nodeAdded (times : Nat) : List Action :=
  [.makeContext "context" [],
    .makeNode "node" "context" (Bytes.ofString "node") (Bytes.ofString "/"),
    .makePublisher "publisher" "node" .int64 (Bytes.ofString "t") Qos.standard,
    .makeSubscription "subscription" "node" .int64 (Bytes.ofString "t") Qos.standard true [],
    .makeExecutor "executor" "context" 1] ++
  List.replicate times (.addNode "executor" (some "node")) ++
  [.publish "publisher" (.given (.number 2)), .publish "publisher" (.given (.number 3))]

def visitor : SubscriptionObject :=
  { name := "subscription"
    handle := 3
    kind := .int64
    script := []
    busy := false
    owners := 1 }

end Session

/-- Where the node was added once, its subscription is visited once at most. -/
theorem passes_take_as_added_once :
    ∃ executor, (Session.empty.run (Session.nodeAdded 1)).executors.get? "executor" = some executor ∧
      Run.PassesByVisits (Run.callbackWithin 10 10) "executor" executor
        (Session.empty.run (Session.nodeAdded 1)) ∧
      ((Run.visits (Run.callbackWithin 10 10) "executor"
        (Session.empty.run (Session.nodeAdded 1))).map Prod.fst).Nodup := by
  have nodes : ∃ executor, (Session.empty.run (Session.nodeAdded 1)).executors.get? "executor" =
      some executor ∧ executor.nodes = [0] :=
    ⟨_, rfl, by decide +kernel⟩
  obtain ⟨executor, found, added⟩ := nodes
  have passes := passes_take_as_added (Run.callbackWithin 10 10) (Run.callbackProceeds_callbackWithin 10 10)
    _ (Scene.goes_run (Session.nodeAdded 1) rfl) "executor" executor found
  refine ⟨executor, found, passes, passes.once ?_⟩
  rw [added]
  exact List.nodup_singleton 0

/-- Where the node was added twice, a pass takes both messages of the subscription, and runs its callback for both. -/
theorem pass_takes_twice :
    (Session.empty.run (Session.nodeAdded 2)).subscriptions.get? 0 = some Session.visitor ∧
      (Session.empty.run (Session.nodeAdded 2)).waiting Session.visitor = [0, 1] ∧
      ((Session.empty.run (Session.nodeAdded 2)).step (.spinOnce "executor") false).2.waiting
        Session.visitor = [] ∧
      ((Session.empty.run (Session.nodeAdded 2)).step (.spinOnce "executor") false).1.calls.map
        (fun call => (call.subscription, call.message)) =
          [("subscription", .number 2), ("subscription", .number 3)] :=
  ⟨rfl, by decide +kernel, by decide +kernel, by decide +kernel⟩

end PubSub
