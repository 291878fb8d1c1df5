import PubSub.Proofs.Passes.Unhindered

/-!
Queues that are told in order.  Passes that follow one another tell the fronts of all queues, then what is behind
them, and so on; a pass that is ended by what a callback throws has told what was in front up to there, and nothing
more.
-/

namespace PubSub

namespace Scene

/-- A client has a name for a subscription, or it is kept by someone who is not done with it. -/
def HoldsSubscription (scene : Scene) (index : Nat) : Prop :=
  (∃ name, scene.session.subscriptionNames.get? name = some index) ∨ index ∈ scene.subscriptions

def HoldsNode (scene : Scene) (node : Nat) : Prop :=
  (∃ name, scene.session.nodeNames.get? name = some node) ∨ node ∈ scene.nodes

variable {scene : Scene}

theorem exists_name_of_total {names : Table String Nat} {index : Nat}
    (positive : 0 < names.total (fun owner => [owner].count index)) : ∃ name, names.get? name = some index := by
  obtain ⟨name, owner, found, counts⟩ := names.exists_of_total_pos _ positive
  rw [List.mem_singleton.1 (List.count_pos_iff.1 counts)]
  exact ⟨name, found⟩

theorem Reached.holdsSubscription (reached : scene.Reached) {index : Nat} {held : SubscriptionObject}
    (found : scene.session.subscriptions.get? index = some held) : scene.HoldsSubscription index := by
  have holders := (reached.owned.subscriptions.held_iff index).2 ⟨held, found⟩
  rcases Nat.add_pos_iff_pos_or_pos.1 holders with named | kept
  · exact .inl (exists_name_of_total named)
  · exact .inr (List.count_pos_iff.1 kept)

theorem Reached.holdsNode (reached : scene.Reached) {node : Nat} {held : NodeObject}
    (found : scene.session.nodes.get? node = some held) : scene.HoldsNode node := by
  have holders := (reached.owned.nodes.held_iff node).2 ⟨held, found⟩
  rcases Nat.add_pos_iff_pos_or_pos.1 holders with named | kept
  · exact .inl (exists_name_of_total named)
  · exact .inr (List.count_pos_iff.1 kept)

end Scene

namespace Run

variable {session : Session} {callback : Callback} {listener : Listener} {name : String}

theorem run_addNode {executor : Executor} (found : session.executors.get? name = some executor) {node : String}
    {index : Nat} {object : NodeObject} (named : session.namedNode? node = some (index, object)) :
    (addNode name (some node)).run session = (.ok .done,
      session.modifyExecutor name (fun old => { old with nodes := old.nodes ++ [index] })) := by
  unfold addNode findExecutor findNode
  rw [run_find_bind found]
  dsimp only
  rw [run_find_bind named]
  rfl

theorem visited_addNode {executor : Executor} (found : session.executors.get? name = some executor) {node : String}
    {index : Nat} {object : NodeObject} (named : session.namedNode? node = some (index, object)) :
    ((addNode name (some node)).run session).2.visited name =
      session.visited name ++ (session.listed index).getD [] := by
  have present : session.nodes.contains index = true :=
    (session.nodes.contains_iff index).2 ⟨object, Session.get?_of_namedNode? named⟩
  have there : (session.modifyExecutor name
      (fun old => { old with nodes := old.nodes ++ [index] })).executors.get? name =
        some { executor with nodes := executor.nodes ++ [index] } := by
    refine (session.executors.get?_modify name name _).trans ?_
    rw [if_pos rfl, found]
    rfl
  have live : session.liveNodes { executor with nodes := executor.nodes ++ [index] } =
      session.liveNodes executor ++ [index] := by
    unfold Session.liveNodes
    rw [List.filter_append, List.filter_singleton, present]
    rfl
  rw [run_addNode found named]
  unfold Session.visited Session.targets
  rw [there, found, Option.map_some, Option.map_some, Option.getD_some, Option.getD_some]
  refine (congrArg (List.flatMap _) live).trans ?_
  rw [List.flatMap_append, List.flatMap_singleton]
  rfl

/-- No callback throws while so many rows are told. -/
def Calm (listener : Listener) (name : String) (session : Session) (count : Nat) : Prop :=
  (heardIn listener name session count).raised = none

theorem Calm.before {count : Nat} (calm : Calm listener name session (count + 1)) :
    Calm listener name session count :=
  silent_before calm

/-- After so many rounds a pass tells the row that is next. -/
theorem Ready.tells (ready : Ready callback listener name session) {count : Nat}
    (calm : Calm listener name session count) :
    let here := afterSpins callback name session count
    let spun := (spinOnce callback name).run here
    let heard := hear listener (session.row (session.visited name) count) here.memory
    spun.1 = heard.ended.map Answer.dispatched ∧ spun.2.memory = heard.memory ∧
      ∀ index, spun.2.pending index =
        if index ∈ heard.messages.map Prod.fst then (here.pending index).tail else here.pending index := by
  intro here spun heard
  have rounds := ready.rounds calm
  obtain ⟨ended, memory, _, _, taken⟩ := rounds.delivers ready
  rw [rounds.row] at ended memory taken
  have run : spun = _ := run_spinOnce callback name here
  rw [run]
  exact ⟨congrArg (Except.map Answer.dispatched) ended, memory, taken⟩

theorem Ready.raised (ready : Ready callback listener name session) {count : Nat}
    (calm : Calm listener name session count) :
    (heardIn listener name session (count + 1)).raised =
      (hear listener (session.row (session.visited name) count)
        (afterSpins callback name session count).memory).raised := by
  rw [(ready.rounds calm).memory]
  exact (heardIn_succ calm).1

/-- Where a callback throws, that ends the pass; what was taken is what was told by then, its own message the last. -/
theorem Ready.stops (ready : Ready callback listener name session) {count : Nat}
    (calm : Calm listener name session count) (throws : ¬ Calm listener name session (count + 1)) :
    let here := afterSpins callback name session count
    let spun := (spinOnce callback name).run here
    ∃ before index message rest raised,
      session.row (session.visited name) count = before ++ (index, message) :: rest ∧
        (hear listener before here.memory).raised = none ∧
        listener index message (hear listener before here.memory).memory = (.error raised, spun.2.memory) ∧
        spun.1 = .error (.raised raised) ∧
        ∀ other, spun.2.pending other =
          if other ∈ before.map Prod.fst ++ [index] then (here.pending other).tail else here.pending other := by
  intro here spun
  obtain ⟨ended, memory, taken⟩ := ready.tells calm
  unfold Calm at throws
  rw [ready.raised calm] at throws
  obtain ⟨raised, outcome⟩ := Option.ne_none_iff_exists'.1 throws
  obtain ⟨before, index, message, rest, split, heard, silent, raises⟩ := exists_last_of_some outcome
  refine ⟨before, index, message, rest, raised, split, silent, ?_, ?_, fun other => ?_⟩
  · rw [raises]
    exact congrArg (Prod.mk _) memory.symm
  · refine ended.trans ?_
    unfold Heard.ended
    rw [outcome]
    rfl
  · refine (taken other).trans ?_
    rw [heard, List.map_append]
    rfl

/-- Where no callback throws, a pass gives the number of queues that were long enough at first. -/
theorem Ready.counts (ready : Ready callback listener name session) {count : Nat}
    (calm : Calm listener name session (count + 1)) :
    ((spinOnce callback name).run (afterSpins callback name session count)).1 =
      .ok (.dispatched ((session.visited name).countP (fun index => count + 1 ≤ (session.pending index).length))) := by
  have silent := (ready.raised calm.before).symm.trans calm
  obtain ⟨ended, _⟩ := ready.tells calm.before
  rw [ended]
  unfold Heard.ended
  rw [silent, messages_of_none silent, Session.length_row]
  rfl

/-- No callback throws in so many rounds exactly where so many passes end with a number. -/
theorem Ready.calm_iff (ready : Ready callback listener name session) (count : Nat) :
    Calm listener name session count ↔ ∀ earlier < count, ∃ number,
      ((spinOnce callback name).run (afterSpins callback name session earlier)).1 = .ok (.dispatched number) := by
  induction count with
  | zero => exact ⟨fun _ earlier less => absurd less (Nat.not_lt_zero earlier), fun _ => rfl⟩
  | succ count ih =>
      constructor
      · intro calm earlier less
        rcases Nat.lt_succ_iff_lt_or_eq.1 less with before | rfl
        · exact ih.1 calm.before earlier before
        · exact ⟨_, ready.counts calm⟩
      · intro ended
        have calm := ih.2 (fun earlier less => ended earlier (Nat.lt_succ_of_lt less))
        by_contra throws
        obtain ⟨_, _, _, _, _, _, _, _, stopped, _⟩ := ready.stops calm throws
        obtain ⟨_, number⟩ := ended count (Nat.lt_succ_self count)
        cases number.symm.trans stopped

/-- Where as many passes were made as the longest queue had messages, all was told. -/
theorem Ready.drains (ready : Ready callback listener name session) {count : Nat}
    (calm : Calm listener name session count)
    (enough : ∀ index ∈ session.visited name, (session.pending index).length ≤ count) :
    ((spinOnce callback name).run (afterSpins callback name session count)).1 = .ok (.dispatched 0) ∧
      ∀ index ∈ session.visited name,
        toldTo index (session.rows (session.visited name) count) = session.pending index := by
  have nothing : session.row (session.visited name) count = [] := by
    rw [← List.length_eq_zero_iff, Session.length_row, List.countP_eq_zero]
    intro index member more
    have short := enough index member
    have long := of_decide_eq_true more
    omega
  constructor
  · obtain ⟨ended, _⟩ := ready.tells calm
    rw [ended, nothing]
    rfl
  · intro index member
    rw [Session.toldTo_rows ready.distinct member, List.take_of_length_le (enough index member)]

/--
How passes of an executor tell what waits.  They visit subscriptions node by node as these were added, and at each
node in the order of creation; what they tell is a row of messages, those in front at first.
-/
structure SpinsInOrder (callback : Callback) (listener : Listener) (name : String) (executor : Executor)
    (scene : Scene) : Prop where
  order : scene.session.visited name = (executor.nodes.filter scene.session.nodes.contains).flatMap
    (fun node => (scene.session.listed node).getD [])
  added : ∀ node index object, scene.session.namedNode? node = some (index, object) →
    ((addNode name (some node)).run scene.session).2.visited name =
      scene.session.visited name ++ (scene.session.listed index).getD []
  created : ∀ node indices, scene.session.listed node = some indices → indices.Pairwise (· < ·)
  once : (scene.session.visited name).Nodup
  /-- What is dropped is not visited: who visits a subscription finds it held, and its node as well. -/
  held : ∀ index ∈ scene.session.visited name, scene.HoldsSubscription index ∧
    ∃ node ∈ executor.nodes, scene.HoldsNode node ∧ index ∈ (scene.session.listed node).getD []
  /-- As long as no callback throws passes end with a number, and only as long. -/
  calm : ∀ count, Calm listener name scene.session count ↔ ∀ earlier < count, ∃ number,
    ((spinOnce callback name).run (afterSpins callback name scene.session earlier)).1 = .ok (.dispatched number)
  /-- A pass tells the row that is next, from its first message on, and takes just what it tells. -/
  tells : ∀ count, Calm listener name scene.session count →
    let here := afterSpins callback name scene.session count
    let spun := (spinOnce callback name).run here
    let heard := hear listener (scene.session.row (scene.session.visited name) count) here.memory
    spun.1 = heard.ended.map Answer.dispatched ∧ spun.2.memory = heard.memory ∧
      ∀ index, spun.2.pending index =
        if index ∈ heard.messages.map Prod.fst then (here.pending index).tail else here.pending index
  /-- Where a callback throws, that ends the pass, and nothing is taken after that. -/
  stops : ∀ count, Calm listener name scene.session count → ¬ Calm listener name scene.session (count + 1) →
    let here := afterSpins callback name scene.session count
    let spun := (spinOnce callback name).run here
    ∃ before index message rest raised,
      scene.session.row (scene.session.visited name) count = before ++ (index, message) :: rest ∧
        (hear listener before here.memory).raised = none ∧
        listener index message (hear listener before here.memory).memory = (.error raised, spun.2.memory) ∧
        spun.1 = .error (.raised raised) ∧
        ∀ other, spun.2.pending other =
          if other ∈ before.map Prod.fst ++ [index] then (here.pending other).tail else here.pending other
  /-- Where none throws, each pass gives the number of queues that were as long as that at first. -/
  counts : ∀ count, Calm listener name scene.session (count + 1) →
    ((spinOnce callback name).run (afterSpins callback name scene.session count)).1 =
      .ok (.dispatched ((scene.session.visited name).countP
        (fun index => count + 1 ≤ (scene.session.pending index).length)))
  /-- By then all that was told is the first rows, and the queues have lost as much. -/
  told : ∀ count, Calm listener name scene.session count →
    (afterSpins callback name scene.session count).memory =
        (hear listener (scene.session.rows (scene.session.visited name) count) scene.session.memory).memory ∧
      ∀ index, (afterSpins callback name scene.session count).pending index =
        if index ∈ scene.session.visited name then (scene.session.pending index).drop count
        else scene.session.pending index
  /-- When as many passes were made as the longest queue had messages, each was told to its end, and no more runs. -/
  drains : ∀ count, Calm listener name scene.session count →
    (∀ index ∈ scene.session.visited name, (scene.session.pending index).length ≤ count) →
      ((spinOnce callback name).run (afterSpins callback name scene.session count)).1 = .ok (.dispatched 0) ∧
        ∀ index ∈ scene.session.visited name,
          toldTo index (scene.session.rows (scene.session.visited name) count) = scene.session.pending index

end Run

/--
Passes tell queues in order.  Wherever a client can come, where each node was added to an executor once, and nothing
is in the way of the subscriptions that are visited, what waits for these is told row by row, whatever it is.
-/
theorem spins_tell_in_order (callback : Callback) (listener : Listener) (scene : Scene)
    (goes : Scene.start.Goes scene) (name : String) (executor : Executor)
    (found : scene.session.executors.get? name = some executor) (distinct : executor.nodes.Nodup)
    (unhindered : ∀ index ∈ scene.session.visited name, ∀ held,
      scene.session.subscriptions.get? index = some held →
        scene.session.Unhindered callback listener index held) :
    Run.SpinsInOrder callback listener name executor scene := by
  have reached : scene.Reached := goes.moves
  have ready := Scene.ready_of_goes goes found distinct unhindered
  refine ⟨Session.visited_of_found found, fun _ _ _ => Run.visited_addNode found, ?_, ready.distinct, ?_,
    ready.calm_iff, fun _ => ready.tells, fun _ => ready.stops, fun _ => ready.counts, fun count calm => ?_,
    fun _ => ready.drains⟩
  · intro node indices listed
    obtain ⟨home, there, rfl⟩ := Option.map_eq_some_iff.1 listed
    exact (reached.ordered node home there).filter _
  · intro index member
    rw [Session.visited_of_found found, List.mem_flatMap] at member
    obtain ⟨node, live, listed⟩ := member
    obtain ⟨_, _, there, _, here⟩ := Session.exists_of_mem_listed listed
    exact ⟨reached.holdsSubscription here, node, (List.mem_filter.1 live).1, reached.holdsNode there, listed⟩
  · have rounds := ready.rounds calm
    exact ⟨rounds.memory, rounds.pending⟩

namespace Session

/-- Two messages wait at each of two nodes; the callback of "strict" throws for the later one. -/
def crowd : List Action :=
  [.makeContext "context" [],
    .makeNode "first" "context" (Bytes.ofString "first") (Bytes.ofString "/"),
    .makeNode "second" "context" (Bytes.ofString "second") (Bytes.ofString "/"),
    .makePublisher "publisher" "first" .int64 (Bytes.ofString "t") Qos.standard,
    .makeSubscription "calm" "first" .int64 (Bytes.ofString "t") Qos.standard true [],
    .makeSubscription "strict" "second" .int64 (Bytes.ofString "t") Qos.standard true
      [({ only := some (Bytes.ofString "3"), below := none, raises := true },
        .throwUser (Bytes.ofString "three"))],
    .makeExecutor "executor" "context" 1,
    .addNode "executor" (some "second"),
    .addNode "executor" (some "first"),
    .publish "publisher" (.given (.number 2)),
    .publish "publisher" (.given (.number 3))]

abbrev crowdCallback : Callback :=
  Run.callbackWithin 10 10

end Session

/-- The first pass there takes both fronts; the second is ended by what was thrown, and leaves the other queue alone. -/
theorem spins_tell_in_order_crowd :
    ∃ executor, (Session.empty.run Session.crowd).executors.get? "executor" = some executor ∧
      Run.SpinsInOrder Session.crowdCallback (Session.empty.run Session.crowd).scripted "executor" executor
        (Scene.start.withSession (Session.empty.run Session.crowd)) ∧
      ((Run.spinOnce Session.crowdCallback "executor").run (Session.empty.run Session.crowd)).1 =
        .ok (.dispatched 2) ∧
      ((Run.spinOnce Session.crowdCallback "executor").run
        (Run.afterSpins Session.crowdCallback "executor" (Session.empty.run Session.crowd) 1)).1 =
          .error (.raised (.user (Bytes.ofString "three"))) ∧
      (Run.afterSpins Session.crowdCallback "executor" (Session.empty.run Session.crowd) 2).pending 1 = [] ∧
      (Run.afterSpins Session.crowdCallback "executor" (Session.empty.run Session.crowd) 2).pending 0 =
        [.number 3] := by
  have goes := Scene.goes_run Session.crowd rfl
  have added : ((Session.empty.run Session.crowd).executors.get? "executor").map Executor.nodes = some [1, 0] := by
    decide +kernel
  have clear : ((Session.empty.run Session.crowd).visited "executor").all (fun index =>
      ((Session.empty.run Session.crowd).subscriptions.get? index).all
        (Session.empty.run Session.crowd).isClear) = true := by
    decide +kernel
  have calm : (hear (Session.empty.run Session.crowd).scripted ((Session.empty.run Session.crowd).row
      ((Session.empty.run Session.crowd).visited "executor") 0) (Session.empty.run Session.crowd).memory).ended =
        .ok 2 := by
    decide +kernel
  have strict : (hear (Session.empty.run Session.crowd).scripted ((Session.empty.run Session.crowd).row
      ((Session.empty.run Session.crowd).visited "executor") 1)
        (Run.afterSpins Session.crowdCallback "executor" (Session.empty.run Session.crowd) 1).memory).ended =
          .error (.raised (.user (Bytes.ofString "three"))) := by
    decide +kernel
  have left : (Run.afterSpins Session.crowdCallback "executor" (Session.empty.run Session.crowd) 2).pending 1 = [] ∧
      (Run.afterSpins Session.crowdCallback "executor" (Session.empty.run Session.crowd) 2).pending 0 =
        [.number 3] := by
    decide +kernel
  -- From here on it does not matter which session that is.
  generalize Session.empty.run Session.crowd = session at goes added clear calm strict left ⊢
  obtain ⟨executor, found, nodes⟩ := Option.map_eq_some_iff.1 added
  have unhindered : ∀ index ∈ session.visited "executor", ∀ held, session.subscriptions.get? index = some held →
      session.Unhindered Session.crowdCallback session.scripted index held := by
    intro index member held there
    have each := List.all_eq_true.1 clear index member
    rw [there] at each
    exact Session.unhindered_of_isClear there each 10 9
  have inOrder := spins_tell_in_order Session.crowdCallback session.scripted (Scene.start.withSession session)
    goes "executor" executor found (by rw [nodes]; decide) unhindered
  have first : ((Run.spinOnce Session.crowdCallback "executor").run session).1 = .ok (.dispatched 2) :=
    (inOrder.tells 0 rfl).1.trans (congrArg (Except.map Answer.dispatched) calm)
  have once : Run.Calm session.scripted "executor" session 1 := by
    refine (inOrder.calm 1).2 (fun earlier less => ?_)
    obtain rfl : earlier = 0 := by omega
    exact ⟨2, first⟩
  have second := (inOrder.tells 1 once).1.trans (congrArg (Except.map Answer.dispatched) strict)
  exact ⟨executor, found, inOrder, first, second, left⟩

end PubSub
