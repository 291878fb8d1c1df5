import PubSub.Proofs.Passes.Delivers

/-!
Deliveries within what is kept.  A pass keeps its nodes, and at each node its subscriptions, while it visits them; so
what it delivers is what its visits deliver, and once it has let go everything has the owners that it had.
-/

namespace PubSub

namespace Session

variable {session before after : Session}

/-- Nothing was taken and nothing called: only owners differ, and lists that lost what is gone. -/
structure Resembles (before after : Session) : Prop where
  follows : before.Follows after
  middleware : after.middleware = before.middleware
  memory : after.memory = before.memory

theorem Resembles.pending (resembles : before.Resembles after) (index : Nat) :
    after.pending index = before.pending index := by
  cases found : before.subscriptions.get? index with
  | none =>
      have gone := resembles.follows.objects index
      rw [found, Option.map_none, Option.map_eq_none_iff] at gone
      rw [pending_of_gone gone, pending_of_gone found]
  | some held =>
      obtain ⟨owners, there⟩ := resembles.follows.found found
      have waits : after.waiting { held with owners } = before.waiting held :=
        waiting_congr resembles.follows.forest (fun _ _ => by rw [resembles.middleware])
      rw [pending_of_found there, pending_of_found found, waits, resembles.middleware]

structure AllOwned (session : Session) : Prop where
  subscriptions : ∀ index held, session.subscriptions.get? index = some held → 0 < held.owners
  nodes : ∀ node held, session.nodes.get? node = some held → 0 < held.owners

theorem AllOwned.sameOwners (owned : before.AllOwned) (same : before.SameOwners after) : after.AllOwned where
  subscriptions index held found := owned.subscriptions index held ((same.subscriptions index).symm.trans found)
  nodes node held found := by
    have owners := (same.nodes node).symm
    rw [found, Option.map_some, Option.map_eq_some_iff] at owners
    obtain ⟨elder, there, equal⟩ := owners
    exact equal ▸ owned.nodes node elder there

theorem enterNode_eq (session : Session) (node : Nat) (held : NodeObject) :
    session.enterNode node held =
      (session.withNodes (session.nodes.modify node
        (fun old => { old with subscriptions := session.liveSubscriptions held }))).withSubscriptions
          (session.subscriptions.gain SubscriptionObject.counter (session.liveSubscriptions held)) :=
  foldl_retainSubscription _ _

theorem bare_gain (session : Session) (items : List Nat) (index : Nat) :
    ((session.subscriptions.gain SubscriptionObject.counter items).get? index).map SubscriptionObject.bare =
      (session.subscriptions.get? index).map SubscriptionObject.bare := by
  rw [Arena.get?_gain, Option.map_map]
  rfl

theorem bare_lose (session : Session) (items : List Nat) (index : Nat) :
    ((session.subscriptions.lose SubscriptionObject.counter items).get? index).map SubscriptionObject.bare =
      (session.subscriptions.get? index).map SubscriptionObject.bare := by
  rw [Arena.get?_lose, Option.map_map]
  rfl

theorem liveSubscriptions_live (session : Session) (held : NodeObject) :
    session.liveSubscriptions { held with subscriptions := session.liveSubscriptions held } =
      session.liveSubscriptions held := by
  unfold liveSubscriptions
  rw [List.filter_filter]
  exact List.filter_congr (fun _ _ => Bool.and_self _)

theorem resembles_enterNode {node : Nat} {held : NodeObject} (found : session.nodes.get? node = some held) :
    session.Resembles (session.enterNode node held) := by
  rw [enterNode_eq]
  have pruned : session.Follows (session.withNodes (session.nodes.modify node
      (fun old => { old with subscriptions := session.liveSubscriptions held }))) := by
    apply follows_withNodes
    intro other
    rw [Arena.get?_modify]
    unfold listed
    by_cases same : other = node
    · rw [if_pos same, same, found, Option.map_some, Option.map_some, Option.map_some, liveSubscriptions_live]
    · rw [if_neg same]
  exact ⟨pruned.trans (follows_withSubscriptions (session.bare_gain _)), rfl, rfl⟩

theorem leaves_node {node : Nat} {held : NodeObject} (owned : session.AllOwned)
    (found : session.nodes.get? node = some held) {later : Session}
    (same : (session.enterNode node held).SameOwners later) :
    later.Resembles ((session.liveSubscriptions held).foldl releaseSubscription later) ∧
      session.SameOwners ((session.liveSubscriptions held).foldl releaseSubscription later) := by
  rw [enterNode_eq] at same
  have gained : ∀ index, later.subscriptions.get? index =
      (session.subscriptions.gain SubscriptionObject.counter (session.liveSubscriptions held)).get? index :=
    same.subscriptions
  have present : ∀ item ∈ session.liveSubscriptions held,
      ∃ value, session.subscriptions.get? item = some value ∧ 0 < SubscriptionObject.counter.owners value := by
    intro item member
    obtain ⟨value, there⟩ := (session.subscriptions.contains_iff item).1 (List.mem_filter.1 member).2
    exact ⟨value, there, owned.subscriptions item value there⟩
  rw [foldl_releaseSubscription (Arena.spare_of_gain present (fun index => by rw [gained index]))]
  refine ⟨⟨follows_withSubscriptions (later.bare_lose _), rfl, rfl⟩, Arena.get?_lose_of_gain gained,
    fun other => (same.nodes other).trans ?_⟩
  change ((session.nodes.modify node _).get? other).map NodeObject.owners = _
  rw [Arena.get?_modify]
  by_cases here : other = node
  · rw [if_pos here, here, found]
    rfl
  · rw [if_neg here]

theorem listed_gain (session : Session) (items : List Nat) (node : Nat) :
    ((session.nodes.gain NodeObject.counter items).get? node).map session.liveSubscriptions =
      session.listed node := by
  rw [Arena.get?_gain, Option.map_map]
  rfl

theorem listed_lose (session : Session) (items : List Nat) (node : Nat) :
    ((session.nodes.lose NodeObject.counter items).get? node).map session.liveSubscriptions =
      session.listed node := by
  rw [Arena.get?_lose, Option.map_map]
  rfl

theorem enterPass_eq (session : Session) (name : String) (executor : Executor) :
    session.enterPass name executor =
      (session.modifyExecutor name (fun old => { old with nodes := session.liveNodes executor })).withNodes
        (session.nodes.gain NodeObject.counter (session.liveNodes executor)) :=
  foldl_retainNode _ _

theorem resembles_enterPass {name : String} {executor : Executor}
    (found : session.executors.get? name = some executor) :
    session.Resembles (session.enterPass name executor) := by
  rw [enterPass_eq]
  have pruned : session.Follows
      (session.modifyExecutor name (fun old => { old with nodes := session.liveNodes executor })) := by
    refine ⟨rfl, fun _ => rfl, fun _ => rfl, fun other => ?_, .refl _⟩
    unfold Session.targets modifyExecutor
    dsimp only
    rw [Table.get?_modify]
    by_cases same : other = name
    · rw [if_pos same, same, found, Option.map_some, Option.map_some, Option.map_some]
      unfold liveNodes
      rw [List.filter_filter]
      exact congrArg some (List.filter_congr (fun _ _ => Bool.and_self _))
    · rw [if_neg same]
      rfl
  exact ⟨pruned.trans (follows_withNodes (session.listed_gain _)), rfl, rfl⟩

theorem allOwned_enterPass {name : String} {executor : Executor} (owned : session.AllOwned) :
    (session.enterPass name executor).AllOwned := by
  rw [enterPass_eq]
  refine ⟨owned.subscriptions, fun node held found => ?_⟩
  have gained := session.nodes.get?_gain NodeObject.counter (session.liveNodes executor) node
  obtain ⟨elder, there, rfl⟩ := Option.map_eq_some_iff.1 (gained.symm.trans found)
  exact Nat.add_pos_left (owned.nodes node elder there) _

/-- The nodes of a pass have the owners that they had when they are left. -/
theorem leaves_pass {name : String} {executor : Executor} (owned : session.AllOwned) {later : Session}
    (same : (session.enterPass name executor).SameOwners later) :
    later.Resembles ((session.liveNodes executor).foldl releaseNode later) ∧
      session.SameOwners ((session.liveNodes executor).foldl releaseNode later) := by
  rw [enterPass_eq] at same
  have gained : ∀ node, (later.nodes.get? node).map NodeObject.counter.owners =
      ((session.nodes.gain NodeObject.counter (session.liveNodes executor)).get? node).map
        NodeObject.counter.owners :=
    same.nodes
  have present : ∀ item ∈ session.liveNodes executor,
      ∃ value, session.nodes.get? item = some value ∧ 0 < NodeObject.counter.owners value := by
    intro item member
    obtain ⟨value, there⟩ := (session.nodes.contains_iff item).1 (List.mem_filter.1 member).2
    exact ⟨value, there, owned.nodes item value there⟩
  rw [foldl_releaseNode (Arena.spare_of_gain present gained)]
  exact ⟨⟨follows_withNodes (later.listed_lose _), rfl, rfl⟩, same.subscriptions,
    Arena.owners_lose_of_gain gained⟩

end Session

namespace Run

variable {session : Session} {callback : Callback} {listener : Listener} {name : String}

theorem Delivers.of_run {indices : List Nat} {run other : Run Nat} (delivers : Delivers listener session indices run)
    (same : other.run session = run.run session) : Delivers listener session indices other := by
  obtain ⟨ended, memory, follows, owners, taken⟩ := delivers
  rw [← same] at ended memory follows owners taken
  exact ⟨ended, memory, follows, owners, taken⟩

theorem Delivers.within {indices : List Nat} {inner outer : Run Nat} {entered : Session}
    {leave : Session → Session} (delivers : Delivers listener entered indices inner)
    (run : outer.run session = ((inner.run entered).1, leave (inner.run entered).2))
    (enters : session.Resembles entered)
    (leaves : ∀ later, entered.SameOwners later →
      later.Resembles (leave later) ∧ session.SameOwners (leave later)) :
    Delivers listener session indices outer := by
  obtain ⟨resembles, owners⟩ := leaves _ delivers.owners
  have row : entered.row indices 0 = session.row indices 0 :=
    Session.row_congr 0 (fun index _ => enters.pending index)
  obtain ⟨ended, memory, follows, _, taken⟩ := delivers
  rw [row, enters.memory] at ended memory taken
  constructor
  · rw [run]
    exact ended
  · rw [run]
    exact resembles.memory.trans memory
  · rw [run]
    exact (enters.follows.trans follows).trans resembles.follows
  · rw [run]
    exact owners
  · intro index
    rw [run]
    dsimp only
    rw [resembles.pending, taken, enters.pending]

theorem delivers_visitNode {node : Nat} (fit : session.Fit) (owned : session.AllOwned)
    (attended : ∀ index ∈ (session.listed node).getD [], session.Attended callback listener index)
    (distinct : ((session.listed node).getD []).Nodup) :
    Delivers listener session ((session.listed node).getD []) (visitNode callback node) := by
  cases found : session.nodes.get? node with
  | none =>
      rw [Session.listed_of_gone found]
      exact (delivers_nil listener session (visitNode callback)).of_run (run_visitNode_none found)
  | some held =>
      rw [Session.listed_of_found found] at attended distinct ⊢
      have enters := Session.resembles_enterNode found
      have entered := enters.follows.fit fit
      have visits : Delivers listener (session.enterNode node held)
          ((session.liveSubscriptions held).flatMap (fun index => [index]))
          (sumOver (visitSubscription callback) (session.liveSubscriptions held)) := by
        refine delivers_sumOver (fun index member later follows _ => ?_) ?_
        · exact delivers_visit (follows.fit entered)
            (follows.attended entered (enters.follows.attended fit (attended index member)))
        · rw [List.flatMap_singleton']
          exact distinct
      rw [List.flatMap_singleton'] at visits
      exact visits.within (run_visitNode found) enters (fun later => Session.leaves_node owned found)

/-- All that a pass visits is attended, once. -/
structure Ready (callback : Callback) (listener : Listener) (name : String) (session : Session) : Prop where
  found : ∃ executor, session.executors.get? name = some executor
  fit : session.Fit
  owned : session.AllOwned
  attended : ∀ index ∈ session.visited name, session.Attended callback listener index
  distinct : (session.visited name).Nodup

/-- A pass delivers what is in front for the subscriptions that it visits. -/
theorem Ready.pass (ready : Ready callback listener name session) :
    Delivers listener session (session.visited name) (pass callback name) := by
  obtain ⟨⟨executor, found⟩, fit, owned, attended, distinct⟩ := ready
  rw [Session.visited_of_found found] at attended distinct ⊢
  have enters := Session.resembles_enterPass found
  have entered := enters.follows.fit fit
  have visits : Delivers listener (session.enterPass name executor)
      ((session.liveNodes executor).flatMap (fun node => (session.listed node).getD []))
      (sumOver (visitNode callback) (session.liveNodes executor)) := by
    refine delivers_sumOver (fun node member later follows owners => ?_) distinct
    rw [← (enters.follows.trans follows).listed node]
    apply delivers_visitNode (follows.fit entered) ((Session.allOwned_enterPass owned).sameOwners owners)
    · intro index listed
      rw [(enters.follows.trans follows).listed node] at listed
      exact (enters.follows.trans follows).attended fit (attended index (List.mem_flatMap.2 ⟨node, member, listed⟩))
    · rw [(enters.follows.trans follows).listed node]
      exact (List.nodup_flatMap.1 distinct).1 node member
  exact visits.within (run_pass found) enters (fun later => Session.leaves_pass owned)

end Run

end PubSub
