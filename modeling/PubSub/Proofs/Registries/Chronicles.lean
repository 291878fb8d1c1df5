import PubSub.Proofs.Passes.Lists

/-!
Chronicles: moves together with the subscriptions that are registered in them.  A subscription is made on a node, which
knows it from then on, or not; everything else leaves the lists of nodes alone, but for what is gone.
-/

namespace PubSub

namespace Session

variable {session before between after : Session}

structure KeepsLists (before after : Session) : Prop where
  numbers : after.subscriptions.next = before.subscriptions.next
  nodes : before.nodes.next ≤ after.nodes.next
  lists : ∀ node held, after.nodes.get? node = some held →
    (∃ old, before.nodes.get? node = some old ∧ old.subscriptions = held.subscriptions) ∨
      before.nodes.next ≤ node ∧ held.subscriptions = []

theorem KeepsLists.of_fewer (numbers : after.subscriptions.next = before.subscriptions.next)
    (nodes : before.nodes.next ≤ after.nodes.next)
    (fewer : before.nodes.Fewer NodeObject.subscriptions after.nodes) : before.KeepsLists after :=
  ⟨numbers, nodes, fun node held found => .inl (fewer node held found)⟩

theorem KeepsLists.of_eq (nodes : after.nodes = before.nodes)
    (numbers : after.subscriptions.next = before.subscriptions.next) : before.KeepsLists after := by
  refine .of_fewer numbers (by rw [nodes]) ?_
  rw [nodes]
  exact .refl _

theorem KeepsLists.refl (session : Session) : session.KeepsLists session :=
  .of_eq rfl rfl

theorem KeepsLists.trans (early : before.KeepsLists between) (late : between.KeepsLists after) :
    before.KeepsLists after := by
  refine ⟨late.numbers.trans early.numbers, early.nodes.trans late.nodes, fun node held found => ?_⟩
  rcases late.lists node held found with ⟨middle, there, same⟩ | ⟨new, bare⟩
  · rcases early.lists node middle there with ⟨old, present, equal⟩ | ⟨new, bare⟩
    · exact .inl ⟨old, present, equal.trans same⟩
    · exact .inr ⟨new, same ▸ bare⟩
  · exact .inr ⟨early.nodes.trans new, bare⟩

theorem keepsLists_foldl {Item : Type} (items : List Item) {change : Session → Item → Session}
    (keeps : ∀ (session : Session) item, session.KeepsLists (change session item)) (session : Session) :
    session.KeepsLists (items.foldl change session) := by
  induction items generalizing session with
  | nil => exact .refl session
  | cons item rest ih => exact (keeps session item).trans (ih _)

theorem keepsLists_modifyNode (session : Session) (index : Nat) {change : NodeObject → NodeObject}
    (same : ∀ node, session.nodes.get? index = some node → (change node).subscriptions = node.subscriptions) :
    session.KeepsLists { session with nodes := session.nodes.modify index change } :=
  .of_fewer rfl (Nat.le_refl _) (session.nodes.fewer_modify index same)

theorem keepsLists_releaseNode (session : Session) (index : Nat) : session.KeepsLists (session.releaseNode index) := by
  unfold releaseNode
  cases found : session.nodes.get? index with
  | none => exact .refl session
  | some held =>
      dsimp only
      split
      · apply session.keepsLists_modifyNode
        intro node there
        cases found.symm.trans there
        rfl
      · exact .of_fewer rfl (Nat.le_refl _) (session.nodes.fewer_erase index)

theorem keepsLists_releaseSubscription (session : Session) (index : Nat) :
    session.KeepsLists (session.releaseSubscription index) := by
  unfold releaseSubscription
  split
  · exact .refl session
  · split
    · exact .of_eq rfl rfl
    · exact .of_eq rfl rfl

theorem keepsLists_dropContext (session : Session) (name : String) : session.KeepsLists (session.dropContext name) := by
  unfold dropContext
  split
  · exact .refl session
  · exact .of_eq rfl rfl

theorem keepsLists_dropNode (session : Session) (name : String) : session.KeepsLists (session.dropNode name) := by
  unfold dropNode
  split
  · exact .refl session
  · have erased : session.KeepsLists { session with nodeNames := session.nodeNames.erase name } := .of_eq rfl rfl
    exact erased.trans (keepsLists_releaseNode _ _)

theorem keepsLists_dropPublisher (session : Session) (name : String) :
    session.KeepsLists (session.dropPublisher name) := by
  unfold dropPublisher
  split
  · exact .refl session
  · exact .of_eq rfl rfl

theorem keepsLists_dropSubscription (session : Session) (name : String) :
    session.KeepsLists (session.dropSubscription name) := by
  unfold dropSubscription
  split
  · exact .refl session
  · have erased : session.KeepsLists { session with subscriptionNames := session.subscriptionNames.erase name } :=
      .of_eq rfl rfl
    exact erased.trans (keepsLists_releaseSubscription _ _)

theorem keepsLists_dropExecutor (session : Session) (name : String) :
    session.KeepsLists (session.dropExecutor name) := by
  unfold dropExecutor
  split
  · exact .refl session
  · exact .of_eq rfl rfl

theorem keepsLists_drop (session : Session) (sort : Owning) (name : String) :
    session.KeepsLists (session.drop sort name) := by
  cases sort with
  | context => exact session.keepsLists_dropContext name
  | node => exact session.keepsLists_dropNode name
  | publisher => exact session.keepsLists_dropPublisher name
  | subscription => exact session.keepsLists_dropSubscription name

theorem keepsLists_insertNode (session : Session) (made : NodeObject) (none : made.subscriptions = []) :
    session.KeepsLists { session with nodes := (session.nodes.insert made).2 } := by
  refine ⟨rfl, Nat.le_succ _, fun node held found => ?_⟩
  have inserted := (session.nodes.get?_insert made node).symm.trans found
  by_cases new : node = session.nodes.next
  · rw [if_pos new] at inserted
    cases inserted
    exact .inr ⟨Nat.le_of_eq new.symm, none⟩
  · rw [if_neg new] at inserted
    exact .inl ⟨held, inserted, rfl⟩

inductive MakesSubscription (session : Session) (registered : Bool) (index : Nat) : Session → Prop
  | made (name : String) {node : String} {object : NodeObject} {kind : MessageKind} {topic : Bytes} {qos : Qos}
      {script : Script} {state : SubscriptionState} {middleware : Middleware} (orderly : orderlyScript script = true)
      (found : session.namedNode? node = some (index, object)) (clean : topic.hasNul = false)
      (made : (Request.initSubscription (nodeSlot (session.forest.get? object.handle)) kind topic qos).outcome
        session.middleware = (.ok state, middleware)) :
      MakesSubscription session registered index
        (session.subscriptionMade name topic kind registered script index object.handle state middleware)

theorem MakesSubscription.makes {registered : Bool} {index : Nat}
    (makes : before.MakesSubscription registered index after) : ∃ creation, before.Makes creation after := by
  cases makes with
  | made name orderly found clean made => exact ⟨_, .subscription name registered orderly found clean made⟩

theorem MakesSubscription.lists {registered : Bool} {index : Nat}
    (makes : before.MakesSubscription registered index after) :
    ∃ middle : Session, middle.subscriptions.next = before.subscriptions.next + 1 ∧
      (middle.nodes =
        if registered then
          before.nodes.modify index
            (fun old => { old with subscriptions := old.subscriptions ++ [before.subscriptions.next] })
        else before.nodes) ∧
      middle.KeepsLists after := by
  have named (known : Session) (name : String) (subscription : Nat) (sort : Owning) (made : Nat) :
      known.KeepsLists ((known.nameSubscription name subscription).noteMade sort name made) :=
    (known.keepsLists_dropSubscription name).trans (.of_eq rfl rfl)
  cases makes with
  | made name orderly found clean made =>
      cases registered with
      | false =>
          refine ⟨_, ?_, ?_, named _ name _ _ _⟩
          · rfl
          · rfl
      | true =>
          refine ⟨_, ?_, ?_, named _ name _ _ _⟩
          · rfl
          · rfl

theorem Makes.keepsLists {creation : Creation} (makes : before.Makes creation after) :
    before.KeepsLists after ∨ ∃ registered index, before.MakesSubscription registered index after := by
  cases makes with
  | @context name arguments context middleware clean made =>
      have handled : before.KeepsLists (({ before with middleware } : Session).makeHandle (Bytes.ofString "context")
        (.context (some context)) none).2 := .of_eq rfl rfl
      exact .inl ((handled.trans (keepsLists_dropContext _ name)).trans (.of_eq rfl rfl))
  | @node name context handle nodeName space state middleware found cleanName cleanSpace made =>
      have handled : before.KeepsLists ((({ before with middleware } : Session).makeHandle
        (Run.quotedKind "node" nodeName) (.node (some state)) (some handle)).2.retainHandle handle) := .of_eq rfl rfl
      have inserted := keepsLists_insertNode ((({ before with middleware } : Session).makeHandle
        (Run.quotedKind "node" nodeName) (.node (some state)) (some handle)).2.retainHandle handle)
        { handle := before.forest.handles.next, context := handle, subscriptions := [], owners := 1 } rfl
      exact .inl (((handled.trans inserted).trans (keepsLists_dropNode _ name)).trans (.of_eq rfl rfl))
  | @publisher name node index object kind topic qos state middleware found clean made =>
      have handled : before.KeepsLists (({ before with middleware } : Session).makeHandle
        (Run.quotedKind "publisher" topic) (.publisher (some state)) (some object.handle)).2 := .of_eq rfl rfl
      exact .inl ((handled.trans (keepsLists_dropPublisher _ name)).trans (.of_eq rfl rfl))
  | subscription name registered orderly found clean made =>
      exact .inr ⟨registered, _, .made name orderly found clean made⟩

end Session

namespace Scene

variable {scene later : Scene}

def Prunes (scene later : Scene) : Prop :=
  ∃ index node, scene.session.nodes.get? index = some node ∧
    later = scene.withSession { scene.session with
      nodes := scene.session.nodes.modify index
        (fun old => { old with subscriptions := scene.session.liveSubscriptions node }) }

/-- A move leaves the lists alone, or prunes one, or makes a subscription. -/
theorem Move.keepsLists (move : scene.Move later) :
    scene.session.KeepsLists later.session ∨ scene.Prunes later ∨
      ∃ registered index after, scene.session.MakesSubscription registered index after ∧
        later = scene.withSession after := by
  cases move with
  | @made creation after makes =>
      rcases makes.keepsLists with keeps | ⟨registered, index, makes⟩
      · exact .inl keeps
      · exact .inr (.inr ⟨registered, index, after, makes, rfl⟩)
  | @contextShared name source handle found =>
      have retained : scene.session.KeepsLists (scene.session.retainHandle handle) := .of_eq rfl rfl
      exact .inl ((retained.trans (Session.keepsLists_dropContext _ name)).trans (.of_eq rfl rfl))
  | @contextTaken name node index object found =>
      have retained : scene.session.KeepsLists (scene.session.retainHandle object.context) := .of_eq rfl rfl
      exact .inl ((retained.trans (Session.keepsLists_dropContext _ name)).trans (.of_eq rfl rfl))
  | @nodeShared name source index object found =>
      have retained : scene.session.KeepsLists (scene.session.retainNode index) :=
        scene.session.keepsLists_modifyNode index (fun _ _ => rfl)
      exact .inl ((retained.trans (Session.keepsLists_dropNode _ name)).trans (.of_eq rfl rfl))
  | @subscriptionShared name source index object found =>
      have retained : scene.session.KeepsLists (scene.session.retainSubscription index) := .of_eq rfl rfl
      exact .inl ((retained.trans (Session.keepsLists_dropSubscription _ name)).trans (.of_eq rfl rfl))
  | @publisherShared name source publisher found =>
      have retained : scene.session.KeepsLists (scene.session.retainHandle publisher.handle) := .of_eq rfl rfl
      exact .inl ((retained.trans (Session.keepsLists_dropPublisher _ name)).trans (.of_eq rfl rfl))
  | @executorMade name context handle threads found =>
      have retained : scene.session.KeepsLists (scene.session.retainHandle handle) := .of_eq rfl rfl
      exact .inl ((retained.trans (Session.keepsLists_dropExecutor _ name)).trans (.of_eq rfl rfl))
  | dropped sort name => exact .inl (scene.session.keepsLists_drop sort name)
  | executorDropped name => exact .inl (scene.session.keepsLists_dropExecutor name)
  | subscriptionsPruned found => exact .inr (.inl ⟨_, _, found, rfl⟩)
  | @nodesKept items present =>
      have retained (session : Session) (index : Nat) : session.KeepsLists (session.retainNode index) :=
        session.keepsLists_modifyNode index (fun _ _ => rfl)
      exact .inl (Session.keepsLists_foldl items retained scene.session)
  | @nodesLeft items _ kept =>
      exact .inl (Session.keepsLists_foldl items Session.keepsLists_releaseNode scene.session)
  | @subscriptionsKept items present =>
      have retained (session : Session) (index : Nat) :
          session.KeepsLists (session.retainSubscription index) := .of_eq rfl rfl
      exact .inl (Session.keepsLists_foldl items retained scene.session)
  | @subscriptionsLeft items _ kept =>
      exact .inl (Session.keepsLists_foldl items Session.keepsLists_releaseSubscription scene.session)
  | _ => exact .inl (.of_eq rfl rfl)

structure Registration where
  node : Nat
  subscription : Nat
  deriving DecidableEq, Repr

def registrations (scene : Scene) (registered : Bool) (node : Nat) : List Registration :=
  if registered then [{ node, subscription := scene.session.subscriptions.next }] else []

/--
What leads from a scene to another, with the subscriptions that were registered on the way.  Those who share
subscriptions let go of them in any order.
-/
inductive Chronicle (first : Scene) : List Registration → Scene → Prop
  | refl : Chronicle first [] first
  | moved {log : List Registration} {scene later : Scene} (chronicle : Chronicle first log scene)
      (move : scene.Move later) (numbers : later.session.subscriptions.next = scene.session.subscriptions.next) :
      Chronicle first log later
  | made {log : List Registration} {scene : Scene} {registered : Bool} {index : Nat} {after : Session}
      (chronicle : Chronicle first log scene) (makes : scene.session.MakesSubscription registered index after) :
      Chronicle first (log ++ scene.registrations registered index) (scene.withSession after)
  | reordered {log : List Registration} {scene : Scene} {subscriptions : List Nat}
      (chronicle : Chronicle first log scene) (same : subscriptions.Perm scene.subscriptions) :
      Chronicle first log { scene with subscriptions }

variable {first : Scene} {log more : List Registration}

theorem Chronicle.trans (early : first.Chronicle log scene) (late : scene.Chronicle more later) :
    first.Chronicle (log ++ more) later := by
  induction late with
  | refl =>
      rw [List.append_nil]
      exact early
  | moved _ move numbers ih => exact ih.moved move numbers
  | made _ makes ih =>
      rw [← List.append_assoc]
      exact ih.made makes
  | reordered _ same ih => exact ih.reordered same

theorem Move.chronicled (move : scene.Move later) : ∃ log, scene.Chronicle log later := by
  rcases move.keepsLists with keeps | ⟨_, _, _, rfl⟩ | ⟨_, _, _, makes, rfl⟩
  · exact ⟨_, Chronicle.refl.moved move keeps.numbers⟩
  · exact ⟨_, Chronicle.refl.moved move rfl⟩
  · exact ⟨_, Chronicle.refl.made makes⟩

/-- All moves are in some chronicle. -/
theorem Moves.chronicled (moves : scene.Moves later) : ∃ log, scene.Chronicle log later := by
  induction moves with
  | refl => exact ⟨_, .refl⟩
  | tail _ move ih =>
      obtain ⟨log, early⟩ := ih
      obtain ⟨more, late⟩ := move.chronicled
      exact ⟨_, early.trans late⟩

/-- What holds at first, and after every move and however shares are ordered if it did before, holds throughout. -/
theorem Chronicle.holds (Holds : Scene → Prop) (start : Holds first)
    (step : ∀ before after : Scene, before.Move after → Holds before → Holds after)
    (reorder : ∀ (scene : Scene) subscriptions, subscriptions.Perm scene.subscriptions → Holds scene →
      Holds { scene with subscriptions })
    (chronicle : first.Chronicle log scene) : Holds scene := by
  induction chronicle with
  | refl => exact start
  | moved _ move _ ih => exact step _ _ move ih
  | made _ makes ih =>
      obtain ⟨_, created⟩ := makes.makes
      exact step _ _ (.made created) ih
  | reordered _ same ih => exact reorder _ _ same ih

theorem Chronicle.owned (chronicle : start.Chronicle log scene) :
    scene.session.Owned [] scene.nodes scene.subscriptions := by
  refine chronicle.holds (fun scene => scene.session.Owned [] scene.nodes scene.subscriptions)
    Session.owned_empty (fun _ _ move owned => move.owned owned) ?_
  intro scene subscriptions same owned
  exact { owned with
    subscriptions := owned.subscriptions.congr (fun index => congrArg _ (same.count_eq index).symm) }

theorem Chronicle.enlisted (chronicle : start.Chronicle log scene) :
    scene.session.Enlisted ∧ scene.session.Ordered := by
  refine chronicle.holds (fun scene => scene.session.Enlisted ∧ scene.session.Ordered) ?_ ?_ (fun _ _ _ => id)
  · refine ⟨Session.enlisted_empty, ?_⟩
    intro node held found
    cases found
  · rintro before after move ⟨enlisted, ordered⟩
    rcases move.lists with thins | ⟨middle, enlists, thins⟩
    · exact ⟨enlisted.thins thins, ordered.thins thins⟩
    · exact ⟨(enlisted.enlists enlists).thins thins, (ordered.enlists enlisted enlists).thins thins⟩

end Scene

end PubSub
