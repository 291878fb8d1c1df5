import PubSub.Proofs.Passes.Spares

/-!
The visits of a pass.  A pass comes to the nodes of its executor one after the other, and at each of them to its
subscriptions; in between it only sees to its lists and to what it keeps, which takes no message and runs no callback.
It comes to a subscription as often as the node of that subscription was added, at most.
-/

namespace PubSub

namespace Session

/-- A session where a pass of an executor keeps the nodes that are there, and has dropped the others from its list. -/
def enterPass (session : Session) (name : String) (executor : Executor) : Session :=
  (session.liveNodes executor).foldl retainNode
    (session.modifyExecutor name (fun old => { old with nodes := session.liveNodes executor }))

/-- A session where the subscriptions of a node are kept, and those that are gone are no longer on its list. -/
def enterNode (session : Session) (node : Nat) (held : NodeObject) : Session :=
  (session.liveSubscriptions held).foldl retainSubscription
    { session with
      nodes :=
        session.nodes.modify node
          (fun old => { old with subscriptions := session.liveSubscriptions held }) }

theorem spares_enterPass (session : Session) (name : String) (executor : Executor) :
    session.Spares (session.enterPass name executor) := by
  have pruned : session.Spares
      (session.modifyExecutor name (fun old => { old with nodes := session.liveNodes executor })) :=
    .of_eq rfl rfl rfl
  have kept : ∀ (session : Session) node, session.Spares (session.retainNode node) :=
    fun _ _ => .of_eq rfl rfl rfl
  exact pruned.trans (spares_foldl kept _ _)

theorem spares_enterNode (session : Session) (node : Nat) (held : NodeObject) :
    session.Spares (session.enterNode node held) := by
  have pruned : session.Spares { session with
      nodes :=
        session.nodes.modify node
          (fun old => { old with subscriptions := session.liveSubscriptions held }) } :=
    .of_eq rfl rfl rfl
  have kept : ∀ (session : Session) index, session.Spares (session.retainSubscription index) :=
    fun _ _ => .of_eq rfl rfl rfl
  exact pruned.trans (spares_foldl kept _ _)

end Session

namespace Run

variable {callback : Callback} {name : String} {session : Session}

theorem run_pass {executor : Executor} (found : session.executors.get? name = some executor) :
    (pass callback name).run session =
      let ended := (sumOver (visitNode callback) (session.liveNodes executor)).run
        (session.enterPass name executor)
      (ended.1, (session.liveNodes executor).foldl Session.releaseNode ended.2) := by
  have pruned : (pruneNodes name).run session =
      (.ok (session.liveNodes executor), session.modifyExecutor name
        (fun old => { old with nodes := session.liveNodes executor })) := by
    unfold pruneNodes
    rw [run_changeGet, found]
  unfold pass findExecutor
  rw [run_find_bind found, run_bind, pruned]
  rfl

theorem run_visitNode {node : Nat} {held : NodeObject} (found : session.nodes.get? node = some held) :
    (visitNode callback node).run session =
      let ended := (sumOver (visitSubscription callback) (session.liveSubscriptions held)).run
        (session.enterNode node held)
      (ended.1, (session.liveSubscriptions held).foldl Session.releaseSubscription ended.2) := by
  have pruned : (pruneSubscriptions node).run session =
      (.ok (session.liveSubscriptions held), { session with
        nodes := session.nodes.modify node
          (fun old => { old with subscriptions := session.liveSubscriptions held }) }) := by
    unfold pruneSubscriptions
    rw [run_changeGet, found]
  unfold visitNode
  rw [run_bind, pruned]
  rfl

theorem run_visitNode_none {node : Nat} (gone : session.nodes.get? node = none) :
    (visitNode callback node).run session = (.ok 0, session) := by
  have pruned : (pruneSubscriptions node).run session = (.ok [], session) := by
    unfold pruneSubscriptions
    rw [run_changeGet, gone]
  unfold visitNode
  rw [run_bind, pruned]
  rfl

theorem run_sumOver_cons (visit : Nat → Run Nat) (index : Nat) (rest : List Nat) (session : Session) :
    (sumOver visit (index :: rest)).run session =
      match (visit index).run session with
      | (.ok here, after) =>
          let ended := (sumOver visit rest).run after
          (ended.1.map (fun others => here + others), ended.2)
      | (.error stop, after) => (.error stop, after) := by
  rw [sumOver, run_bind]
  rcases (visit index).run session with ⟨stop | here, after⟩
  · rfl
  · dsimp only
    rw [run_bind]
    generalize (sumOver visit rest).run after = ended
    obtain ⟨stop | others, last⟩ := ended <;> rfl

def turns (visit : Nat → Run Nat) : List Nat → Session → List (Nat × Session)
  | [], _ => []
  | index :: rest, session =>
      (index, session) ::
        match (visit index).run session with
        | (.ok _, after) => turns visit rest after
        | (.error _, _) => []

def nodeTurns (callback : Callback) (name : String) (session : Session) : List (Nat × Session) :=
  match session.executors.get? name with
  | none => []
  | some executor =>
      turns (visitNode callback) (session.liveNodes executor) (session.enterPass name executor)

def subscriptionTurns (callback : Callback) (turn : Nat × Session) : List (Nat × Session) :=
  match turn.2.nodes.get? turn.1 with
  | none => []
  | some held =>
      turns (visitSubscription callback) (turn.2.liveSubscriptions held) (turn.2.enterNode turn.1 held)

/-- The visits of a pass: all turns of subscriptions. -/
def visits (callback : Callback) (name : String) (session : Session) : List (Nat × Session) :=
  (nodeTurns callback name session).flatMap (subscriptionTurns callback)

/-- What a turn adds to the number that a pass gives. -/
def gain (visit : Nat → Run Nat) (turn : Nat × Session) : Nat :=
  match ((visit turn.1).run turn.2).1 with
  | .ok number => number
  | .error _ => 0

theorem fst_turns_initial (visit : Nat → Run Nat) (items : List Nat) (session : Session) :
    (turns visit items session).map Prod.fst <+: items := by
  induction items generalizing session with
  | nil => exact List.prefix_refl _
  | cons index rest ih =>
      unfold turns
      rw [List.map_cons, List.prefix_cons_inj]
      split
      · exact ih _
      · exact List.nil_prefix

theorem turns_cons_ok {visit : Nat → Run Nat} {index number : Nat} {after : Session}
    (visited : (visit index).run session = (.ok number, after)) (rest : List Nat) :
    turns visit (index :: rest) session = (index, session) :: turns visit rest after := by
  rw [turns, visited]

theorem turns_cons_error {visit : Nat → Run Nat} {index : Nat} {stop : Stop} {after : Session}
    (visited : (visit index).run session = (.error stop, after)) (rest : List Nat) :
    turns visit (index :: rest) session = [(index, session)] := by
  rw [turns, visited]

theorem gain_ok {visit : Nat → Run Nat} {index number : Nat} {after : Session}
    (visited : (visit index).run session = (.ok number, after)) : gain visit (index, session) = number := by
  unfold gain
  dsimp only
  rw [visited]

theorem sumOver_eq_gains {visit : Nat → Run Nat} {items : List Nat} {number : Nat} {after : Session}
    (ended : (sumOver visit items).run session = (.ok number, after)) :
    number = ((turns visit items session).map (gain visit)).sum := by
  induction items generalizing session number with
  | nil =>
      cases ended
      rfl
  | cons index rest ih =>
      rw [run_sumOver_cons] at ended
      rcases visited : (visit index).run session with ⟨stop | here, middle⟩
      · rw [visited] at ended
        cases ended
      · rw [visited] at ended
        dsimp only at ended
        rcases later : (sumOver visit rest).run middle with ⟨stop | others, last⟩
        · rw [later] at ended
          cases ended
        · rw [later] at ended
          cases ended
          rw [turns_cons_ok visited, List.map_cons, List.sum_cons, gain_ok visited, ← ih later]

theorem ends_of_sumOver {visit : Nat → Run Nat} {items : List Nat} {number : Nat} {after : Session}
    (ended : (sumOver visit items).run session = (.ok number, after)) :
    ∀ turn ∈ turns visit items session, ∃ value later, (visit turn.1).run turn.2 = (.ok value, later) := by
  induction items generalizing session number after with
  | nil => exact fun turn member => nomatch member
  | cons index rest ih =>
      rw [run_sumOver_cons] at ended
      rcases visited : (visit index).run session with ⟨stop | here, middle⟩
      · rw [visited] at ended
        cases ended
      · rw [visited] at ended
        dsimp only at ended
        rcases later : (sumOver visit rest).run middle with ⟨stop | others, last⟩
        · rw [later] at ended
          cases ended
        · intro turn member
          rw [turns_cons_ok visited] at member
          rcases List.mem_cons.1 member with rfl | among
          · exact ⟨here, middle, visited⟩
          · exact ih later turn among

/-- A way from one session to another by visits of subscriptions, where nothing is taken or called in between. -/
inductive Traverses (callback : Callback) : Session → List (Nat × Session) → Session → Prop
  | spares {first last : Session} (spares : first.Spares last) : Traverses callback first [] last
  | visits {first here last : Session} {index : Nat} {rest : List (Nat × Session)}
      (spares : first.Spares here)
      (later : Traverses callback ((visitSubscription callback index).run here).2 rest last) :
      Traverses callback first ((index, here) :: rest) last

variable {first middle last : Session} {early late : List (Nat × Session)}

theorem Traverses.of_spares (spares : first.Spares middle) (later : Traverses callback middle late last) :
    Traverses callback first late last := by
  cases later with
  | spares more => exact .spares (spares.trans more)
  | visits more later => exact .visits (spares.trans more) later

theorem Traverses.trans (before : Traverses callback first early middle)
    (after : Traverses callback middle late last) : Traverses callback first (early ++ late) last := by
  induction before with
  | spares spares => exact .of_spares spares after
  | visits spares _ ih => exact .visits spares (ih after)

theorem traverses_sumOver {visit : Nat → Run Nat} (trace : Nat × Session → List (Nat × Session))
    (each : ∀ index session, Traverses callback session (trace (index, session)) ((visit index).run session).2)
    (items : List Nat) (session : Session) :
    Traverses callback session ((turns visit items session).flatMap trace)
      ((sumOver visit items).run session).2 := by
  induction items generalizing session with
  | nil => exact .spares (.refl _)
  | cons index rest ih =>
      have here := each index session
      rw [run_sumOver_cons]
      rcases visited : (visit index).run session with ⟨stop | number, after⟩
      · rw [visited] at here
        rw [turns_cons_error visited, List.flatMap_cons, List.flatMap_nil, List.append_nil]
        exact here
      · rw [visited] at here
        rw [turns_cons_ok visited, List.flatMap_cons]
        exact here.trans (ih after)

theorem traverses_visitNode (node : Nat) (session : Session) :
    Traverses callback session (subscriptionTurns callback (node, session))
      ((visitNode callback node).run session).2 := by
  unfold subscriptionTurns
  dsimp only
  cases found : session.nodes.get? node with
  | none =>
      rw [run_visitNode_none found]
      exact .spares (.refl _)
  | some held =>
      have each : ∀ index session, Traverses callback session [(index, session)]
          ((visitSubscription callback index).run session).2 :=
        fun index session => .visits (.refl session) (.spares (.refl _))
      have visited := traverses_sumOver (fun turn => [turn]) each (session.liveSubscriptions held)
        (session.enterNode node held)
      rw [List.flatMap_singleton'] at visited
      rw [run_visitNode found]
      have left := visited.trans (.spares (Session.spares_foldl Session.spares_releaseSubscription
        (session.liveSubscriptions held) _))
      rw [List.append_nil] at left
      exact .of_spares (session.spares_enterNode node held) left

/-- A pass goes by its visits, and by nothing else that takes or calls. -/
theorem traverses_pass {executor : Executor} (found : session.executors.get? name = some executor) :
    Traverses callback session (visits callback name session) ((pass callback name).run session).2 := by
  have each : ∀ node session, Traverses callback session (subscriptionTurns callback (node, session))
      ((visitNode callback node).run session).2 := traverses_visitNode
  have visited := traverses_sumOver (subscriptionTurns callback) each (session.liveNodes executor)
    (session.enterPass name executor)
  have left := visited.trans (.spares (Session.spares_foldl Session.spares_releaseNode
    (session.liveNodes executor) _))
  rw [List.append_nil] at left
  rw [run_pass found]
  unfold visits nodeTurns
  rw [found]
  exact .of_spares (session.spares_enterPass name executor) left

theorem pass_eq_gains {executor : Executor} (found : session.executors.get? name = some executor)
    {number : Nat} {after : Session} (ended : (pass callback name).run session = (.ok number, after)) :
    number = ((visits callback name session).map (gain (visitSubscription callback))).sum := by
  rw [run_pass found, Prod.mk.injEq] at ended
  have summed : (sumOver (visitNode callback) (session.liveNodes executor)).run
      (session.enterPass name executor) = (.ok number, _) := Prod.ext ended.1 rfl
  -- All turns of nodes end well, so that each of them gains what its own turns gain.
  have each : ∀ turn ∈ nodeTurns callback name session, gain (visitNode callback) turn =
      ((subscriptionTurns callback turn).map (gain (visitSubscription callback))).sum := by
    rintro ⟨node, here⟩ member
    unfold nodeTurns at member
    rw [found] at member
    obtain ⟨value, later, visited⟩ := ends_of_sumOver summed _ member
    rw [gain_ok visited]
    unfold subscriptionTurns
    dsimp only at visited ⊢
    cases there : here.nodes.get? node with
    | none =>
        rw [run_visitNode_none there] at visited
        cases visited
        rfl
    | some held =>
        rw [run_visitNode there, Prod.mk.injEq] at visited
        exact sumOver_eq_gains (Prod.ext visited.1 rfl)
  calc
    number = ((nodeTurns callback name session).map (gain (visitNode callback))).sum := by
        unfold nodeTurns
        rw [found]
        exact sumOver_eq_gains summed
    _ = ((nodeTurns callback name session).map (fun turn =>
          ((subscriptionTurns callback turn).map (gain (visitSubscription callback))).sum)).sum := by
        rw [List.map_congr_left each]
    _ = ((visits callback name session).map (gain (visitSubscription callback))).sum := by
        unfold visits
        rw [List.map_flatMap, List.flatMap_def, List.sum_flatten, List.map_map]
        rfl

section Turns

variable {scene : Scene} {visit : Nat → Run Nat}

theorem goes_turns (reached : scene.Reached) (proceeds : ∀ index, Proceeds Anything (visit index))
    (items : List Nat) :
    ∀ turn ∈ turns visit items scene.session, scene.Goes (scene.withSession turn.2) := by
  induction items generalizing scene with
  | nil => exact fun turn member => nomatch member
  | cons index rest ih =>
      intro turn member
      have goes := (proceeds index scene reached).1
      rcases visited : (visit index).run scene.session with ⟨stop | number, after⟩
      · rw [turns_cons_error visited] at member
        rw [List.mem_singleton.1 member]
        exact .refl
      · rw [visited] at goes
        rw [turns_cons_ok visited] at member
        rcases List.mem_cons.1 member with rfl | among
        · exact .refl
        · exact goes.trans (ih (reached.moves goes.moves) turn among)

/-- Whoever has a turn later finds no more of what was made on any list than those before. -/
theorem relists_turns (reached : scene.Reached) (proceeds : ∀ index, Proceeds Anything (visit index))
    (items : List Nat) :
    (turns visit items scene.session).Pairwise (fun early late => early.2.Relists late.2) := by
  induction items generalizing scene with
  | nil => exact List.Pairwise.nil
  | cons index rest ih =>
      have goes := (proceeds index scene reached).1
      rcases visited : (visit index).run scene.session with ⟨stop | number, after⟩
      · rw [turns_cons_error visited]
        exact List.pairwise_singleton _ _
      · rw [visited] at goes
        have there := reached.moves goes.moves
        rw [turns_cons_ok visited]
        refine List.Pairwise.cons (fun turn among => ?_) (ih there)
        exact (goes.trans (goes_turns there proceeds rest turn among)).moves.relists

end Turns

/--
Where all turns that come to an item have one key, and come to it once, it is come to as often as there are turns with
that key.
-/
theorem count_flatMap_le {turns : List (Nat × Session)} {trace : Nat × Session → List (Nat × Session)}
    {index key : Nat} (once : ∀ turn ∈ turns, ((trace turn).map Prod.fst).count index ≤ 1)
    (same : ∀ turn ∈ turns, index ∈ (trace turn).map Prod.fst → turn.1 = key) :
    ((turns.flatMap trace).map Prod.fst).count index ≤ (turns.map Prod.fst).count key := by
  induction turns with
  | nil => exact Nat.le_refl _
  | cons turn rest ih =>
      have others := ih (fun other member => once other (List.mem_cons_of_mem _ member))
        (fun other member => same other (List.mem_cons_of_mem _ member))
      rw [List.flatMap_cons, List.map_append, List.count_append, List.map_cons]
      by_cases comes : index ∈ (trace turn).map Prod.fst
      · have here := once turn List.mem_cons_self
        rw [same turn List.mem_cons_self comes, List.count_cons_self]
        omega
      · have kept : (rest.map Prod.fst).count key ≤ (turn.1 :: rest.map Prod.fst).count key :=
          List.count_le_count_cons
        rw [List.count_eq_zero_of_not_mem comes]
        omega

theorem lists_of_subscriptionTurns {turn : Nat × Session} {index : Nat}
    (comes : index ∈ (subscriptionTurns callback turn).map Prod.fst) : turn.2.Lists turn.1 index := by
  unfold subscriptionTurns at comes
  cases found : turn.2.nodes.get? turn.1 with
  | none =>
      rw [found] at comes
      cases comes
  | some held =>
      rw [found] at comes
      have listed := (fst_turns_initial _ _ _).subset comes
      exact ⟨held, found, List.mem_of_mem_filter listed⟩

theorem count_subscriptionTurns_le {turn : Nat × Session} (enlisted : turn.2.Enlisted) (index : Nat) :
    ((subscriptionTurns callback turn).map Prod.fst).count index ≤ 1 := by
  unfold subscriptionTurns
  cases found : turn.2.nodes.get? turn.1 with
  | none => exact Nat.zero_le _
  | some held =>
      have distinct := (enlisted.once turn.1 held found).filter turn.2.subscriptions.contains
      exact (fst_turns_initial _ _ _).sublist.count_le index |>.trans
        (List.nodup_iff_count_le_one.1 distinct index)

end Run

namespace Scene

variable {scene : Scene}

def inPass (scene : Scene) (name : String) (executor : Executor) : Scene :=
  { scene with
    session := scene.session.enterPass name executor
    nodes := scene.session.liveNodes executor ++ scene.nodes }

def atNode (scene : Scene) (node : Nat) (held : NodeObject) : Scene :=
  { scene with
    session := scene.session.enterNode node held
    subscriptions := scene.session.liveSubscriptions held ++ scene.subscriptions }

theorem goes_inPass (scene : Scene) (name : String) (executor : Executor) :
    scene.Goes (scene.inPass name executor) := by
  have prunes : scene.Goes (scene.withSession (scene.session.modifyExecutor name
      (fun old => { old with nodes := scene.session.liveNodes executor }))) :=
    .silent (.executorChanged name (fun _ => rfl) (fun _ _ _ failed => .inl failed)) rfl rfl
  refine prunes.trans (.reshares (.nodesKept ?_) (Session.reshares_retainNodes _ _) rfl)
  intro node member
  exact (List.mem_filter.1 member).2

theorem goes_atNode {node : Nat} {held : NodeObject} (found : scene.session.nodes.get? node = some held) :
    scene.Goes (scene.atNode node held) := by
  have prunes := Goes.silent (.subscriptionsPruned found) rfl rfl
  refine prunes.trans (.reshares (.subscriptionsKept ?_) (Session.reshares_retainSubscriptions _ _) rfl)
  intro subscription member
  exact (List.mem_filter.1 member).2

end Scene

namespace Run

variable {callback : Callback} {name : String} {scene : Scene} {executor : Executor}

theorem goes_visits (proceeds : CallbackProceeds callback) (reached : scene.Reached)
    (found : scene.session.executors.get? name = some executor) :
    ∀ turn ∈ visits callback name scene.session,
      ∃ later, scene.Goes later ∧ later.session = turn.2 ∧ turn.1 ∈ later.subscriptions := by
  intro turn member
  have entered := scene.goes_inPass name executor
  have inside := reached.moves entered.moves
  obtain ⟨⟨node, here⟩, atNode, among⟩ := List.mem_flatMap.1 member
  unfold nodeTurns at atNode
  rw [found] at atNode
  have came : (scene.inPass name executor).Goes _ :=
    goes_turns inside (proceeds_visitNode proceeds) _ _ atNode
  have there := inside.moves came.moves
  unfold subscriptionTurns at among
  dsimp only at among
  cases present : here.nodes.get? node with
  | none =>
      rw [present] at among
      cases among
  | some held =>
      rw [present] at among
      have kept : ((scene.inPass name executor).withSession here).Goes _ := Scene.goes_atNode present
      have visited := goes_turns (there.moves kept.moves) (proceeds_visitSubscription proceeds) _ _ among
      refine ⟨_, ((entered.trans came).trans kept).trans visited, rfl, ?_⟩
      have listed := (fst_turns_initial _ _ _).subset (List.mem_map_of_mem among)
      exact List.mem_append_left _ listed

/-- A subscription is visited as often as one node was added that is still there. -/
theorem count_visits_le (proceeds : CallbackProceeds callback) (reached : scene.Reached)
    (found : scene.session.executors.get? name = some executor) (index : Nat) :
    ∃ node, ((visits callback name scene.session).map Prod.fst).count index ≤
      (scene.session.liveNodes executor).count node := by
  have inside := reached.moves (scene.goes_inPass name executor).moves
  have turns_eq : nodeTurns callback name scene.session =
      turns (visitNode callback) (scene.session.liveNodes executor)
        (scene.inPass name executor).session := by
    unfold nodeTurns
    rw [found]
    rfl
  have enlisted : ∀ turn ∈ nodeTurns callback name scene.session, turn.2.Enlisted := by
    intro turn member
    rw [turns_eq] at member
    have came := goes_turns inside (proceeds_visitNode proceeds) _ turn member
    exact (inside.moves came.moves).enlisted
  -- What two turns list was on the list of both nodes when the earlier one came, so they are turns of one node.
  have agree : ∀ first ∈ nodeTurns callback name scene.session,
      ∀ second ∈ nodeTurns callback name scene.session,
        first.2.Lists first.1 index → second.2.Lists second.1 index → first.1 = second.1 := by
    have relists := relists_turns inside (proceeds_visitNode proceeds) (scene.session.liveNodes executor)
    rw [← turns_eq] at relists
    have ordered : (nodeTurns callback name scene.session).Pairwise (fun first second =>
        first.2.Lists first.1 index → second.2.Lists second.1 index → first.1 = second.1) := by
      apply relists.imp_of_mem
      intro first second early _ relists here there
      have known := (enlisted first early).made _ _ here
      exact (enlisted first early).home _ _ _ here (relists.known _ _ known there)
    have turned : (nodeTurns callback name scene.session).Pairwise (flip fun first second =>
        first.2.Lists first.1 index → second.2.Lists second.1 index → first.1 = second.1) :=
      ordered.imp (fun agree there here => (agree here there).symm)
    exact List.Pairwise.forall_of_forall_of_flip (fun _ _ _ _ => rfl) ordered turned
  have bound : ∀ node, ((nodeTurns callback name scene.session).map Prod.fst).count node ≤
      (scene.session.liveNodes executor).count node := by
    intro node
    rw [turns_eq]
    exact (fst_turns_initial _ _ _).sublist.count_le node
  have once : ∀ turn ∈ nodeTurns callback name scene.session,
      ((subscriptionTurns callback turn).map Prod.fst).count index ≤ 1 :=
    fun turn member => count_subscriptionTurns_le (enlisted turn member) index
  by_cases comes : ∃ turn ∈ nodeTurns callback name scene.session,
      index ∈ (subscriptionTurns callback turn).map Prod.fst
  · obtain ⟨turn, member, here⟩ := comes
    refine ⟨turn.1, (count_flatMap_le once (fun other among there => ?_)).trans (bound turn.1)⟩
    exact agree other among turn member (lists_of_subscriptionTurns there) (lists_of_subscriptionTurns here)
  · refine ⟨0, (count_flatMap_le once (fun other among there => ?_)).trans (bound 0)⟩
    exact absurd ⟨other, among, there⟩ comes

end Run

end PubSub
