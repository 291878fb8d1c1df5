import Mathlib.Logic.Relation
import PubSub.Proofs.Client.Shrinks
import PubSub.Proofs.Ownership.Passes

/-!
Moves: the parts that every run of a client is made of.  In the course of a run nodes, subscriptions, buffers and
encoded messages are kept for a while; a scene is a session together with what is kept in it.  Every scene that moves
lead to from the start is reached, those in the middle of a dispatch included.
-/

namespace PubSub

/-- What is made: its sort, its handle, and the handle of the object that it is made on. -/
structure Creation where
  sort : Owning
  handle : Nat
  base : Option Nat
  deriving DecidableEq, Repr

/-- The next handle is that of a resource of some sort, made on the object with another. -/
def Session.creation (session : Session) (sort : Owning) (base : Option Nat) : Creation :=
  { sort, handle := session.forest.handles.next, base }

/-- A resource is initialised on a context or node that has a name, and gets a handle and a name at once. -/
inductive Session.Makes (session : Session) : Creation → Session → Prop
  | context (name : String) {arguments : List Bytes} {context : Nat} {middleware : Middleware}
      (clean : arguments.any Bytes.hasNul = false)
      (made : (Request.initContext arguments).outcome session.middleware = (.ok context, middleware)) :
      Makes session (session.creation .context none) (session.contextMade name context middleware)
  | node (name : String) {context : String} {handle : Nat} {nodeName space : Bytes} {state : NodeState}
      {middleware : Middleware} (found : session.contextNames.get? context = some handle)
      (cleanName : nodeName.hasNul = false) (cleanSpace : space.hasNul = false)
      (made : (Request.initNode nodeName space (session.contextSlot handle)).outcome
        session.middleware = (.ok state, middleware)) :
      Makes session (session.creation .node (some handle)) (session.nodeMade name nodeName handle state middleware)
  | publisher (name : String) {node : String} {index : Nat} {object : NodeObject} {kind : MessageKind}
      {topic : Bytes} {qos : Qos} {state : PublisherState} {middleware : Middleware}
      (found : session.namedNode? node = some (index, object)) (clean : topic.hasNul = false)
      (made : (Request.initPublisher (nodeSlot (session.forest.get? object.handle)) kind topic
        qos).outcome session.middleware = (.ok state, middleware)) :
      Makes session (session.creation .publisher (some object.handle))
        (session.publisherMade name topic kind object.handle state middleware)
  | subscription (name : String) {node : String} {index : Nat} {object : NodeObject}
      {kind : MessageKind} {topic : Bytes} {qos : Qos} (registered : Bool) {script : Script}
      {state : SubscriptionState} {middleware : Middleware} (orderly : orderlyScript script = true)
      (found : session.namedNode? node = some (index, object)) (clean : topic.hasNul = false)
      (made : (Request.initSubscription (nodeSlot (session.forest.get? object.handle)) kind topic
        qos).outcome session.middleware = (.ok state, middleware)) :
      Makes session (session.creation .subscription (some object.handle))
        (session.subscriptionMade name topic kind registered script index object.handle state middleware)

/-- A context is shut down, and nothing else changes. -/
def Session.Ends (session : Session) (context : Nat) (after : Session) : Prop :=
  ∃ middleware, (Request.shutdown (some context)).outcome session.middleware = (.ok (), middleware) ∧
    after = { session with middleware }

theorem Session.Ends.fades {session after : Session} {context : Nat}
    (ends : session.Ends context after) : session.Fades after := by
  obtain ⟨middleware, granted, rfl⟩ := ends
  have shrinks := (Request.quiet_shrinks _ granted (fun makes => nomatch makes)).2.1
  exact session.fades_middleware ⟨shrinks, Request.blank _ granted⟩

/-- A session, and what is kept in it by those who are not done with it. -/
structure Scene where
  session : Session
  nodes : List Nat
  subscriptions : List Nat
  buffers : List MessageKind
  encoded : List MessageKind

namespace Scene

def start : Scene :=
  { session := .empty
    nodes := []
    subscriptions := []
    buffers := []
    encoded := [] }

def withSession (scene : Scene) (session : Session) : Scene :=
  { scene with session }

@[simp] theorem session_withSession (scene : Scene) (session : Session) :
    (scene.withSession session).session = session := rfl

/-- One move in a session, and what may have to be so for it. -/
inductive Move (scene : Scene) : Scene → Prop
  | refused {Value : Type} (request : Request Value) {fault : Fault} {middleware : Middleware}
      (failed : request.outcome scene.session.middleware = (.error fault, middleware)) :
      Move scene (scene.withSession { scene.session with middleware := middleware.resetReason })
  | answered {Value : Type} (request : Request Value) {value : Value} {middleware : Middleware}
      (uses : request.makes = false)
      (told : request.outcome scene.session.middleware = (.ok value, middleware)) :
      Move scene (scene.withSession { scene.session with middleware })
  | made {creation : Creation} {after : Session} (makes : scene.session.Makes creation after) :
      Move scene (scene.withSession after)
  | contextShared (name : String) {source : String} {handle : Nat}
      (found : scene.session.contextNames.get? source = some handle) :
      Move scene (scene.withSession
        (((scene.session.retainHandle handle).nameContext name handle).noteMade .context name handle))
  /-- The context of a node gets a name of its own. -/
  | contextTaken (name : String) {node : String} {index : Nat} {object : NodeObject}
      (found : scene.session.namedNode? node = some (index, object)) :
      Move scene (scene.withSession
        ((scene.session.retainHandle object.context).nameContext name object.context))
  | nodeShared (name : String) {source : String} {index : Nat} {object : NodeObject}
      (found : scene.session.namedNode? source = some (index, object)) :
      Move scene (scene.withSession ((scene.session.retainNode index).nameNode name index))
  | publisherShared (name : String) {source : String} {publisher : PublisherObject}
      (found : scene.session.publisherNames.get? source = some publisher) :
      Move scene (scene.withSession
        ((scene.session.retainHandle publisher.handle).namePublisher name publisher))
  | subscriptionShared (name : String) {source : String} {index : Nat} {object : SubscriptionObject}
      (found : scene.session.namedSubscription? source = some (index, object)) :
      Move scene (scene.withSession ((scene.session.retainSubscription index).nameSubscription name index))
  | executorMade (name : String) {context : String} {handle : Nat} (threads : Nat)
      (found : scene.session.contextNames.get? context = some handle) :
      Move scene (scene.withSession ((scene.session.retainHandle handle).nameExecutor name
        { context := handle, nodes := [], threads, pool := .idle }))
  | dropped (sort : Owning) (name : String) : Move scene (scene.withSession (scene.session.drop sort name))
  | executorDropped (name : String) : Move scene (scene.withSession (scene.session.dropExecutor name))
  /-- An executor gets nodes or loses them, or its workers do something: what one failed with is truthful. -/
  | executorChanged (name : String) {change : Executor → Executor}
      (context : ∀ executor, (change executor).context = executor.context)
      (failure : ∀ executor raised, scene.session.executors.get? name = some executor →
        (change executor).pool.failure = some raised →
          executor.pool.failure = some raised ∨ raised.Truthful) :
      Move scene (scene.withSession (scene.session.modifyExecutor name change))
  | subscriptionsPruned {index : Nat} {node : NodeObject}
      (found : scene.session.nodes.get? index = some node) :
      Move scene (scene.withSession { scene.session with
        nodes := scene.session.nodes.modify index
          (fun old => { old with subscriptions := scene.session.liveSubscriptions node }) })
  | nodesKept {items : List Nat} (present : ∀ item ∈ items, scene.session.nodes.contains item = true) :
      Move scene { scene with
        session := items.foldl Session.retainNode scene.session
        nodes := items ++ scene.nodes }
  | nodesLeft {items rest : List Nat} (kept : scene.nodes = items ++ rest) :
      Move scene { scene with
        session := items.foldl Session.releaseNode scene.session
        nodes := rest }
  | subscriptionsKept {items : List Nat}
      (present : ∀ item ∈ items, scene.session.subscriptions.contains item = true) :
      Move scene { scene with
        session := items.foldl Session.retainSubscription scene.session
        subscriptions := items ++ scene.subscriptions }
  | subscriptionsLeft {items rest : List Nat} (kept : scene.subscriptions = items ++ rest) :
      Move scene { scene with
        session := items.foldl Session.releaseSubscription scene.session
        subscriptions := rest }
  | marked (index : Nat) (busy : Bool) : Move scene (scene.withSession (scene.session.setBusy index busy))
  | bufferMade (kind : MessageKind) :
      Move scene { scene with
        session := scene.session.noteLedger (fun ledger => ledger.noteInit kind)
        buffers := kind :: scene.buffers }
  | bufferLeft {kind : MessageKind} {rest : List MessageKind} (kept : scene.buffers = kind :: rest) :
      Move scene { scene with
        session := scene.session.noteLedger (fun ledger => ledger.noteFini kind)
        buffers := rest }
  | messageEncoded (kind : MessageKind) :
      Move scene { scene with
        session := scene.session.noteLedger (fun ledger => ledger.noteAcquired kind)
        encoded := kind :: scene.encoded }
  | messageReleased {kind : MessageKind} {rest : List MessageKind}
      (kept : scene.encoded = kind :: rest) :
      Move scene { scene with
        session := scene.session.noteLedger (fun ledger => ledger.noteReleased kind)
        encoded := rest }
  | refusalsSet (count : Nat) :
      Move scene (scene.withSession
        (scene.session.noteLedger (fun ledger => { ledger with refusals := count })))
  | callsTold : Move scene (scene.withSession { scene.session with calls := [] })
  | callNoted (subscription : String) (message : Payload) :
      Move scene (scene.withSession { scene.session with
        calls := scene.session.calls ++ [{ subscription, message, answers := [] }] })
  | answerNoted (place : Nat) {answer : Except Raised Answer} (truthful : Truthful answer) :
      Move scene (scene.withSession { scene.session with
        calls := scene.session.calls.modify place
          (fun run => { run with answers := run.answers ++ [answer] }) })
  | callFinished :
      Move scene (scene.withSession { scene.session with finishedCalls := scene.session.finishedCalls + 1 })
  | workerSet (worker : Option String) :
      Move scene (scene.withSession { scene.session with worker })

def Moves : Scene → Scene → Prop :=
  Relation.ReflTransGen Move

/-- A scene that some moves lead to from the start. -/
def Reached (scene : Scene) : Prop :=
  Moves start scene

variable {scene later : Scene}

theorem Reached.moves (reached : scene.Reached) (moves : scene.Moves later) : later.Reached :=
  Relation.ReflTransGen.trans reached moves

theorem Reached.move (reached : scene.Reached) (move : scene.Move later) : later.Reached :=
  Relation.ReflTransGen.tail reached move

end Scene

theorem Session.Makes.owned {session after : Session} {creation : Creation} (makes : session.Makes creation after)
    {handles nodes subscriptions : List Nat} (owned : session.Owned handles nodes subscriptions) :
    after.Owned handles nodes subscriptions := by
  cases makes with
  | context name _ made => exact owned.contextMade name made
  | node name found _ _ made => exact owned.nodeMade name found made
  | publisher name _ _ made => exact owned.publisherMade name made
  | subscription name registered orderly _ _ made => exact owned.subscriptionMade name registered orderly made

namespace Scene

variable {scene later : Scene}

theorem Move.owned (move : scene.Move later)
    (owned : scene.session.Owned [] scene.nodes scene.subscriptions) :
    later.session.Owned [] later.nodes later.subscriptions := by
  cases move with
  | @refused Value request fault middleware failed =>
      have quiet := (request.quiet_shrinks failed (fun _ => ⟨fault, rfl⟩)).1
      exact owned.quiet quiet
  | answered request uses told =>
      exact owned.quiet (request.quiet_shrinks told (fun makes => nomatch uses.symm.trans makes)).1
  | made makes => exact makes.owned owned
  | contextShared name found =>
      have retained := owned.retainHandle (owned.exists_of_contextName found)
      exact (retained.nameContext name).noteMade .context name _
  | contextTaken name found =>
      have there := (owned.exists_of_node (Session.get?_of_namedNode? found)).2
      exact (owned.retainHandle there).nameContext name
  | nodeShared name found => exact (owned.retainNode ⟨_, Session.get?_of_namedNode? found⟩).nameNode name
  | subscriptionShared name found =>
      exact (owned.retainSubscription ⟨_, Run.findSubscription_eq_some found⟩).nameSubscription name
  | publisherShared name found =>
      exact (owned.retainHandle (owned.exists_of_publisherName found)).namePublisher name
  | executorMade name threads found =>
      apply Session.Owned.nameExecutor
      exact owned.retainHandle (owned.exists_of_contextName found)
  | dropped sort name => exact owned.drop sort name
  | executorDropped name => exact owned.dropExecutor name
  | executorChanged name context failure => exact owned.modifyExecutor name _ context
  | subscriptionsPruned found =>
      exact owned.modifyNode _ _ (fun _ => rfl) (fun _ => rfl) (fun _ => rfl)
  | nodesKept present => exact owned.retainNodes _ present
  | nodesLeft kept =>
      rw [kept] at owned
      exact owned.releaseNodes
  | subscriptionsKept present => exact owned.retainSubscriptions _ present
  | subscriptionsLeft kept =>
      rw [kept] at owned
      exact owned.releaseSubscriptions
  | marked index busy =>
      exact owned.modifySubscription index _ (fun _ => rfl) (fun _ => rfl) (fun _ => rfl)
  | bufferMade kind => exact owned.quiet (Transport.sameEnds_withStore _ _).quiet
  | bufferLeft kept => exact owned.quiet (Transport.sameEnds_withStore _ _).quiet
  | messageEncoded kind => exact owned.quiet (Transport.sameEnds_withStore _ _).quiet
  | messageReleased kept => exact owned.quiet (Transport.sameEnds_withStore _ _).quiet
  | refusalsSet count => exact owned.quiet (Transport.sameEnds_withStore _ _).quiet
  | _ => exact owned.shift rfl rfl rfl rfl rfl (fun _ => rfl) (fun _ => rfl) (fun _ => rfl)

/-- What holds at the start, and after every move if it did before, holds wherever moves lead. -/
theorem Reached.holds (Holds : Scene → Prop) (first : Holds start)
    (step : ∀ before after : Scene, before.Reached → before.Move after → Holds before → Holds after)
    (reached : scene.Reached) : Holds scene := by
  induction reached with
  | refl => exact first
  | tail before move ih => exact step _ _ before move ih

theorem Reached.owned (reached : scene.Reached) :
    scene.session.Owned [] scene.nodes scene.subscriptions :=
  reached.holds (fun scene => scene.session.Owned [] scene.nodes scene.subscriptions)
    Session.owned_empty (fun _ _ _ move owned => move.owned owned)

/-- A request that makes nothing and is granted shuts a context down, or ends none. -/
theorem shrinks_or_ends_of_granted {session : Session} {Value : Type} (request : Request Value)
    {value : Value} {middleware : Middleware} (uses : request.makes = false)
    (told : request.outcome session.middleware = (.ok value, middleware)) :
    session.Shrinks { session with middleware } ∨
      ∃ context, session.Ends context { session with middleware } := by
  obtain ⟨_, shrinks, contexts⟩ :=
    request.quiet_shrinks told (fun makes => nomatch uses.symm.trans makes)
  have fades := session.fades_middleware ⟨shrinks, request.blank told⟩
  cases ends : request.ends with
  | false => exact .inl (.of_fades fades rfl rfl (contexts (fun other => nomatch ends.symm.trans other)))
  | true =>
      cases request with
      | shutdown slot =>
          cases slot with
          | none => cases congrArg Prod.fst told
          | some context => exact .inr ⟨context, middleware, told, rfl⟩
      | _ => cases ends

/-- A move brings nothing new and ends nothing that is left, or makes one resource, or shuts a context down. -/
theorem Move.effect (move : scene.Move later) :
    scene.session.Shrinks later.session ∨ (∃ creation, scene.session.Makes creation later.session) ∨
      ∃ context, scene.session.Ends context later.session := by
  cases move with
  | made makes => exact .inr (.inl ⟨_, makes⟩)
  | @refused _ request _ middleware failed =>
      obtain ⟨_, shrinks, contexts⟩ := request.quiet_shrinks failed (fun _ => ⟨_, rfl⟩)
      have fades : scene.session.Fades { scene.session with middleware := middleware.resetReason } :=
        scene.session.fades_middleware ⟨shrinks, fun _ => rfl⟩
      exact .inl (.of_fades fades rfl rfl (contexts (fun _ => ⟨_, rfl⟩)))
  | answered request uses told =>
      exact (shrinks_or_ends_of_granted request uses told).imp_right .inr
  | @contextShared name source handle found =>
      have retained := scene.session.shrinks_retainHandle handle
      have named := (scene.session.retainHandle handle).shrinks_nameContext name (.inl ⟨source, found⟩)
      exact .inl ((retained.trans named).trans (Session.shrinks_noteMade _ _ _ _))
  | @contextTaken name node index object found =>
      have retained := scene.session.shrinks_retainHandle object.context
      have named := (scene.session.retainHandle object.context).shrinks_nameContext name
        (.inr ⟨index, object, Session.get?_of_namedNode? found, rfl⟩)
      exact .inl (retained.trans named)
  | @nodeShared name source index object found =>
      have retained : scene.session.Shrinks (scene.session.retainNode index) :=
        scene.session.shrinks_modifyNode index (fun _ _ => ⟨rfl, rfl⟩)
      exact .inl (retained.trans (Session.shrinks_nameNode _ name index))
  | @subscriptionShared name source index object found =>
      have retained : scene.session.Shrinks (scene.session.retainSubscription index) :=
        scene.session.shrinks_modifySubscription index (fun _ _ => ⟨rfl, rfl⟩)
      exact .inl (retained.trans (Session.shrinks_nameSubscription _ name index))
  | @publisherShared name source publisher found =>
      have retained := scene.session.shrinks_retainHandle publisher.handle
      have named := (scene.session.retainHandle publisher.handle).shrinks_namePublisher name found
      exact .inl (retained.trans named)
  | @executorMade name context handle threads found =>
      have retained := scene.session.shrinks_retainHandle handle
      exact .inl (retained.trans (Session.shrinks_nameExecutor _ name rfl))
  | dropped sort name => exact .inl (scene.session.shrinks_drop sort name)
  | executorDropped name => exact .inl (scene.session.shrinks_dropExecutor name)
  | subscriptionsPruned found =>
      exact .inl (scene.session.shrinks_modifyNode _ (fun _ _ => ⟨rfl, rfl⟩))
  | @nodesKept items present =>
      refine .inl (scene.session.shrinks_foldl items (fun session index => ?_))
      exact session.shrinks_modifyNode index (fun _ _ => ⟨rfl, rfl⟩)
  | @nodesLeft items _ kept =>
      exact .inl (scene.session.shrinks_foldl items (fun session index => session.shrinks_releaseNode index))
  | @subscriptionsKept items present =>
      refine .inl (scene.session.shrinks_foldl items (fun session index => ?_))
      exact session.shrinks_modifySubscription index (fun _ _ => ⟨rfl, rfl⟩)
  | @subscriptionsLeft items _ kept =>
      exact .inl (scene.session.shrinks_foldl items
        (fun session index => session.shrinks_releaseSubscription index))
  | marked index busy =>
      exact .inl (scene.session.shrinks_modifySubscription index (fun _ _ => ⟨rfl, rfl⟩))
  | bufferMade kind => exact .inl (scene.session.shrinks_noteLedger (fun ledger => ledger.noteInit kind))
  | bufferLeft kept => exact .inl (scene.session.shrinks_noteLedger (fun ledger => ledger.noteFini _))
  | messageEncoded kind =>
      exact .inl (scene.session.shrinks_noteLedger (fun ledger => ledger.noteAcquired kind))
  | messageReleased kept =>
      exact .inl (scene.session.shrinks_noteLedger (fun ledger => ledger.noteReleased _))
  | refusalsSet count =>
      exact .inl (scene.session.shrinks_noteLedger (fun ledger => { ledger with refusals := count }))
  | executorChanged name context failure =>
      exact .inl (scene.session.shrinks_modifyExecutor name failure)
  | callsTold => exact .inl (scene.session.shrinks_calls (fun _ member => nomatch member))
  | callNoted subscription message =>
      refine .inl (scene.session.shrinks_calls (fun run member => ?_))
      rcases List.mem_append.1 member with old | new
      · exact fun answer noted => .inl ⟨run, old, noted⟩
      · cases List.mem_singleton.1 new
        exact fun answer noted => nomatch noted
  | @answerNoted place answer truthful =>
      refine .inl (scene.session.shrinks_calls (fun run member other told => ?_))
      obtain ⟨index, found⟩ := List.mem_iff_getElem?.1 member
      rw [List.getElem?_modify] at found
      obtain ⟨old, there, rfl⟩ := Option.map_eq_some_iff.1 found
      have listed := List.mem_of_getElem? there
      by_cases here : place = index
      · rw [if_pos here] at told
        rcases List.mem_append.1 told with before | new
        · exact .inl ⟨old, listed, before⟩
        · exact .inr (List.mem_singleton.1 new ▸ truthful)
      · rw [if_neg here] at told
        exact .inl ⟨old, listed, told⟩
  | callFinished => exact .inl (.of_fades ⟨.refl _, .refl _, .refl _, .refl _, .refl _, .refl _, id⟩ rfl rfl rfl)
  | workerSet worker => exact .inl (.of_fades ⟨.refl _, .refl _, .refl _, .refl _, .refl _, .refl _, id⟩ rfl rfl rfl)

theorem blank_and_truthful_of_makes {session after : Session} {creation : Creation}
    (makes : session.Makes creation after) :
    (session.middleware.reason = [] → after.middleware.reason = []) ∧
      (session.Truthful → after.Truthful) := by
  cases makes with
  | @context name _ _ _ _ made =>
      have dropped := fun middle : Session => middle.shrinks_dropContext name
      exact ⟨fun blank => (dropped _).middleware.blank (Request.blank _ made blank),
        fun truthful => (dropped _).truthful truthful⟩
  | @node name _ _ _ _ _ _ _ _ _ made =>
      have dropped := fun middle : Session => middle.shrinks_dropNode name
      exact ⟨fun blank => (dropped _).middleware.blank (Request.blank _ made blank),
        fun truthful => (dropped _).truthful truthful⟩
  | @publisher name _ _ _ _ _ _ _ _ _ _ made =>
      have dropped := fun middle : Session => middle.shrinks_dropPublisher name
      exact ⟨fun blank => (dropped _).middleware.blank (Request.blank _ made blank),
        fun truthful => (dropped _).truthful truthful⟩
  | @subscription name _ _ _ _ _ _ registered _ _ _ _ _ _ made =>
      have dropped := fun middle : Session => middle.shrinks_dropSubscription name
      cases registered <;>
        exact ⟨fun blank => (dropped _).middleware.blank (Request.blank _ made blank),
          fun truthful => (dropped _).truthful truthful⟩

/-- No reason is left behind, and only what is truthful is on record, wherever moves lead. -/
theorem Reached.blank_and_truthful (reached : scene.Reached) :
    scene.session.middleware.reason = [] ∧ scene.session.Truthful := by
  refine reached.holds (fun scene => scene.session.middleware.reason = [] ∧ scene.session.Truthful)
    ⟨rfl, fun _ member => (nomatch member), fun _ _ _ found => nomatch found⟩ ?_
  rintro before after _ move ⟨blank, truthful⟩
  rcases move.effect with shrinks | ⟨_, makes⟩ | ⟨_, ends⟩
  · exact ⟨shrinks.middleware.blank blank, shrinks.truthful truthful⟩
  · have kept := blank_and_truthful_of_makes makes
    exact ⟨kept.1 blank, kept.2 truthful⟩
  · exact ⟨ends.fades.middleware.blank blank, ends.fades.truthful truthful⟩

end Scene

end PubSub
