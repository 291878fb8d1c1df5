import PubSub.Proofs.Lineages.Creations
import PubSub.Proofs.Ownership.Finalization

/-!
The order in which resources are released.  In every run in which users make, share, use and drop objects, end contexts,
and run callbacks that do the same, with any failures in between, everything that was made is released once, after all
that was made on it, and never with a fault; where no object is left, all of it is released.
-/

namespace PubSub

/-- A context is made on nothing, a node on a context, and everything else on a node. -/
def Creation.Grounded (log : List Creation) (creation : Creation) : Prop :=
  match creation.sort with
  | .context => creation.base = none
  | .node => ∃ context ∈ log, context.sort = .context ∧ creation.base = some context.handle
  | _ => ∃ node ∈ log, node.sort = .node ∧ creation.base = some node.handle

namespace Session

/-- Whatever users have at hand was made, and is not released. -/
structure Stands (session : Session) (log : List Creation) : Prop where
  contexts : ∀ name handle, session.contextNames.get? name = some handle →
    { sort := .context, handle, base := none } ∈ log ∧ session.forest.contains handle = true
  nodes : ∀ index object, session.nodes.get? index = some object →
    { sort := .node, handle := object.handle, base := some object.context } ∈ log ∧
      session.forest.contains object.handle = true ∧ session.forest.contains object.context = true
  publishers : ∀ name object, session.publisherNames.get? name = some object →
    (∃ node, { sort := .publisher, handle := object.handle, base := some node } ∈ log) ∧
      session.forest.contains object.handle = true
  subscriptions : ∀ index object, session.subscriptions.get? index = some object →
    (∃ node, { sort := .subscription, handle := object.handle, base := some node } ∈ log) ∧
      session.forest.contains object.handle = true

end Session

namespace Scene

variable {scene : Scene} {log : List Creation}

/-- One thing is made, on what it was to be made on; or the attempt fails, and nothing is made. -/
def Founds (scene : Scene) (sort : Owning) (base? : Option (Option Nat)) (ended : Except Stop Answer × Session) : Prop :=
  match ended.1 with
  | .ok _ => ∃ base, base? = some base ∧
      scene.Lineage [scene.session.creation sort base] (scene.withSession ended.2)
  | .error _ => scene.Lineage [] (scene.withSession ended.2)

theorem Founds.done {sort : Owning} {base? : Option (Option Nat)} {ended : Except Stop Answer × Session}
    (founds : scene.Founds sort base? ended) (base : Option Nat) (known : base? = some base)
    (done : ended.1.isOk = true) :
    scene.Lineage [scene.session.creation sort base] (scene.withSession ended.2) := by
  obtain ⟨result, after⟩ := ended
  cases result with
  | ok answer =>
      obtain ⟨_, same, lineage⟩ := founds
      cases known.symm.trans same
      exact lineage
  | error stop => cases done

theorem Founds.failed {sort : Owning} {base? : Option (Option Nat)} {ended : Except Stop Answer × Session}
    (founds : scene.Founds sort base? ended) (failed : ended.1.isOk = false) :
    scene.Lineage [] (scene.withSession ended.2) := by
  obtain ⟨result, after⟩ := ended
  cases result with
  | ok answer => cases failed
  | error stop => exact founds

theorem founds_goOn {Value : Type} (request : Request Value) {sort : Owning} {base : Option Nat} {kind : FailureKind}
    {attempted : Bytes} {next : Value → Middleware → Except Stop Answer × Session}
    (made : ∀ value middleware, request.outcome scene.session.middleware = (.ok value, middleware) →
      ∃ answer after, next value middleware = (.ok answer, after) ∧
        scene.session.Makes (scene.session.creation sort base) after) :
    scene.Founds sort (some base)
      (Run.goOn scene.session kind attempted next (request.outcome scene.session.middleware)) := by
  rcases asked : request.outcome scene.session.middleware with ⟨fault | value, middleware⟩
  · exact Lineage.refl.moved (.refused request asked) rfl
  · obtain ⟨answer, after, told, makes⟩ := made value middleware asked
    unfold Run.goOn
    dsimp only
    rw [told]
    exact ⟨base, rfl, Lineage.refl.made (.made makes) makes⟩

theorem founds_makeContext (scene : Scene) (name : String) (arguments : List Bytes) :
    scene.Founds .context (some none) ((Run.makeContext name arguments).run scene.session) := by
  rw [Run.run_makeContext]
  cases dirty : arguments.any Bytes.hasNul with
  | true => exact .refl
  | false => exact founds_goOn _ (fun context middleware made => ⟨_, _, rfl, .context name dirty made⟩)

theorem founds_makeNode (scene : Scene) (name context : String) (nodeName space : Bytes) :
    scene.Founds .node ((scene.session.contextNames.get? context).map some)
      ((Run.makeNode name context nodeName space).run scene.session) := by
  cases found : scene.session.contextNames.get? context with
  | none =>
      unfold Run.makeNode
      rw [Run.run_find_bind_none found]
      exact .refl
  | some handle =>
      rw [Run.run_makeNode found]
      cases dirtyName : nodeName.hasNul with
      | true => exact .refl
      | false =>
          cases dirtySpace : space.hasNul with
          | true => exact .refl
          | false =>
              refine founds_goOn _ (fun state middleware made => ?_)
              obtain ⟨_, _, _, told⟩ := Run.run_describeNode scene.session.forest.handles.next
                (scene.session.nodeMade name nodeName handle state middleware)
              exact ⟨_, _, told, .node name found dirtyName dirtySpace made⟩

theorem founds_makePublisher (scene : Scene) (name node : String) (kind : MessageKind) (topic : Bytes) (qos : Qos) :
    scene.Founds .publisher ((scene.session.namedNode? node).map (fun found => some found.2.handle))
      ((Run.makePublisher name node kind topic qos).run scene.session) := by
  cases found : scene.session.namedNode? node with
  | none =>
      unfold Run.makePublisher Run.findNode
      rw [Run.run_find_bind_none found]
      exact .refl
  | some entry =>
      rw [Run.run_makePublisher found]
      cases dirty : topic.hasNul with
      | true => exact .refl
      | false => exact founds_goOn _ (fun state middleware made => ⟨_, _, rfl, .publisher name found dirty made⟩)

theorem founds_makeSubscription (scene : Scene) (name node : String) (kind : MessageKind) (topic : Bytes) (qos : Qos)
    (registered : Bool) {script : Script} (orderly : orderlyScript script = true) :
    scene.Founds .subscription ((scene.session.namedNode? node).map (fun found => some found.2.handle))
      ((Run.makeSubscription name node kind topic qos registered script).run scene.session) := by
  cases found : scene.session.namedNode? node with
  | none =>
      unfold Run.makeSubscription Run.findNode
      rw [Run.run_find_bind_none found]
      exact .refl
  | some entry =>
      rw [Run.run_makeSubscription found]
      cases dirty : topic.hasNul with
      | true => exact .refl
      | false =>
          exact founds_goOn _ (fun state middleware made =>
            ⟨_, _, rfl, .subscription name registered orderly found dirty made⟩)

theorem Lineage.reached (lineage : start.Lineage log scene) : scene.Reached :=
  lineage.moves

theorem Lineage.listed (lineage : start.Lineage log scene) {handle : Nat} {kind : Bytes} {resource : Resource}
    {base : Option Nat} (known : scene.session.forest.identity? handle = some (kind, resource, base)) :
    { sort := resource.sort, handle, base } ∈ log :=
  lineage.traced.of_identity? lineage.reached.owned.intact.recorded known

theorem Lineage.grounded (lineage : start.Lineage log scene) {creation : Creation} (member : creation ∈ log) :
    creation.Grounded log := by
  obtain ⟨kind, resource, sort, known⟩ := lineage.traced.known creation member
  have mounted := lineage.reached.owned.intact.attached _ _ _ _ known
  unfold Creation.Grounded
  rw [← sort]
  cases resource with
  | context slot => exact mounted.2
  | node slot =>
      obtain ⟨_, above, _, _, _, base, there⟩ := mounted
      exact ⟨_, lineage.listed there, rfl, base⟩
  | publisher slot =>
      obtain ⟨_, above, _, _, _, base, there⟩ := mounted
      exact ⟨_, lineage.listed there, rfl, base⟩
  | subscription slot =>
      obtain ⟨_, above, _, _, _, base, there⟩ := mounted
      exact ⟨_, lineage.listed there, rfl, base⟩

theorem Lineage.listed_of_holds (lineage : start.Lineage log scene) {handle : Nat} {resource : Resource}
    {base : Option Nat} (holds : scene.session.Holds handle resource base) :
    { sort := resource.sort, handle, base } ∈ log := by
  obtain ⟨held, found, rfl, rfl⟩ := holds
  exact lineage.listed (Forest.identity?_of_get? found)

theorem Lineage.listed_of_endpoint (lineage : start.Lineage log scene) {handle : Nat} {resource : Resource}
    {base : Option Nat} (holds : scene.session.Holds handle resource base) (endpoint : resource.sort ≠ .context) :
    ∃ node, { sort := resource.sort, handle, base := some node } ∈ log := by
  have member := lineage.listed_of_holds holds
  have grounded := lineage.grounded member
  unfold Creation.Grounded at grounded
  dsimp only at grounded
  split at grounded
  · contradiction
  · obtain ⟨_, _, _, rfl⟩ := grounded
    exact ⟨_, member⟩
  · obtain ⟨_, _, _, rfl⟩ := grounded
    exact ⟨_, member⟩

theorem Lineage.stands (lineage : start.Lineage log scene) : scene.session.Stands log := by
  have linked := lineage.reached.linked
  have owned := lineage.reached.owned
  have contains {handle : Nat} (present : ∃ held, scene.session.forest.get? handle = some held) :
      scene.session.forest.contains handle = true := Option.isSome_iff_exists.2 present
  constructor
  · intro name handle named
    have present := owned.exists_of_contextName named
    obtain ⟨resource, base, holds⟩ := Session.exists_holds present
    obtain ⟨number, rfl⟩ := linked.contextName name handle resource base named holds
    have member := lineage.listed_of_holds holds
    have alone : base = none := lineage.grounded member
    subst alone
    exact ⟨member, contains present⟩
  · intro index object found
    obtain ⟨present, above⟩ := owned.exists_of_node found
    obtain ⟨resource, base, holds⟩ := Session.exists_holds present
    obtain ⟨rfl, state, rfl⟩ := linked.node index object resource base found holds
    exact ⟨lineage.listed_of_holds holds, contains present, contains above⟩
  · intro name object named
    have present := owned.exists_of_publisherName named
    obtain ⟨resource, base, holds⟩ := Session.exists_holds present
    obtain ⟨state, rfl, _⟩ := linked.publisherName name object resource base named holds
    exact ⟨lineage.listed_of_endpoint holds nofun, contains present⟩
  · intro index object found
    have present := owned.exists_of_subscription found
    obtain ⟨resource, base, holds⟩ := Session.exists_holds present
    obtain ⟨state, rfl, _⟩ := linked.subscription index object resource base found holds
    exact ⟨lineage.listed_of_endpoint holds nofun, contains present⟩

/--
How all that was made is released: without a fault, once and not while its handle is there, and after everything that was
made on it.  What is made next is made on what it was asked for on, and all that users do goes on in this way.
-/
structure ReleasedInOrder (scene : Scene) (log : List Creation) : Prop where
  faultless : scene.session.faults = 0
  traced : scene.Traced log
  grounded : ∀ creation ∈ log, creation.Grounded log
  mounted : Attached scene.session.forest
  native : Native scene.session.forest scene.session.middleware.transport
  onlyMade : ∀ entry ∈ scene.session.forest.finalized, entry.1 ∈ log.map Creation.handle
  once : ∀ creation ∈ log, (scene.session.forest.finalized.map Prod.fst).count creation.handle =
    if scene.session.forest.contains creation.handle then 0 else 1
  dependentsFirst : ∀ early entry late, scene.session.forest.finalized = early ++ entry :: late →
    ∀ creation ∈ log, creation.base = some entry.1 → creation.handle ∈ early.map Prod.fst
  stands : scene.session.Stands log
  makeContext : ∀ name arguments, scene.Founds .context (some none) ((Run.makeContext name arguments).run scene.session)
  makeNode : ∀ name context nodeName space, scene.Founds .node ((scene.session.contextNames.get? context).map some)
    ((Run.makeNode name context nodeName space).run scene.session)
  makePublisher : ∀ name node kind topic qos,
    scene.Founds .publisher ((scene.session.namedNode? node).map (fun found => some found.2.handle))
      ((Run.makePublisher name node kind topic qos).run scene.session)
  makeSubscription : ∀ name node kind topic qos registered script, orderlyScript script = true →
    scene.Founds .subscription ((scene.session.namedNode? node).map (fun found => some found.2.handle))
      ((Run.makeSubscription name node kind topic qos registered script).run scene.session)
  performed : ∀ limit depth action, action.orderly = true → ∃ more, scene.Lineage more (scene.withSession
    ((Run.perform (Run.callbackWithin limit depth) limit action).run scene.session).2)
  moved : ∀ later, scene.Moves later → ∃ more, scene.Lineage more later

theorem Lineage.once (lineage : start.Lineage log scene) {creation : Creation} (member : creation ∈ log) :
    (scene.session.forest.finalized.map Prod.fst).count creation.handle =
      if scene.session.forest.contains creation.handle then 0 else 1 := by
  have made := lineage.traced.lt_next member
  have counts := lineage.reached.owned.intact.recorded.count creation.handle
  rw [counts]
  unfold Forest.contains Arena.contains Forest.get?
  cases scene.session.forest.handles.get? creation.handle <;> simp [made]

/-- Whatever is made in a run is released in order, and all of it once no object is left. -/
theorem released_in_order (lineage : start.Lineage log scene) :
    scene.ReleasedInOrder log ∧
      (scene.nodes = [] → scene.subscriptions = [] → scene.session.Nameless → scene.session.AllReleased) := by
  have reached := lineage.reached
  have owned := reached.owned
  have traced := lineage.traced
  refine ⟨?_, ?_⟩
  · exact
      { faultless := owned.intact.faultless
        traced
        grounded := fun _ member => lineage.grounded member
        mounted := owned.intact.attached
        native := owned.intact.native
        onlyMade := by
          intro entry member
          rw [traced.handles, List.mem_range]
          exact ((owned.intact.recorded.gone_iff entry.1).1 (List.mem_map_of_mem member)).1
        once := fun _ member => lineage.once member
        dependentsFirst := by
          intro early entry late split creation member base
          obtain ⟨kind, resource, _, known⟩ := traced.known creation member
          rw [base] at known
          exact owned.dependentsFirst split known
        stands := lineage.stands
        makeContext := scene.founds_makeContext
        makeNode := scene.founds_makeNode
        makePublisher := scene.founds_makePublisher
        makeSubscription := fun name node kind topic qos registered _ =>
          scene.founds_makeSubscription name node kind topic qos registered
        performed := fun limit depth _ orderly => (reached.goes_perform limit depth orderly).moves.lineage
        moved := fun _ moves => moves.lineage }
  · intro nodes subscriptions nameless
    rw [nodes, subscriptions] at owned
    exact owned.allReleased nameless

end Scene

namespace Session

/-- A session after something was asked for, whether it was done or failed. -/
def trying (session : Session) (asked : Run Answer) : Session :=
  (asked.run session).2

def hosted : Session :=
  (empty.trying (Run.makeContext "context" [])).trying (Run.makeNode "node" "context" (Bytes.ofString "talker") [])

/-- A node with a publisher, where a second one was refused. -/
def publishing : Session :=
  (hosted.trying (Run.makePublisher "publisher" "node" .int64 (Bytes.ofString "chatter") .standard)).trying
    (Run.makePublisher "refused" "node" .int64 (Bytes.ofString "no topic") .standard)

def subscribed : Session :=
  publishing.trying (Run.makeSubscription "subscription" "node" .int64 (Bytes.ofString "chatter") .standard true [])

def doubled : Session :=
  let again := (subscribed.retainNode 0).nameNode "again" 0
  (again.retainSubscription 0).nameSubscription "copy" 0

/-- The context of the node is taken from it. -/
def shared : Session :=
  (doubled.retainHandle 0).nameContext "taken" 0

/-- Everything is dropped, what others stand on first. -/
def deserted : Session :=
  let names : List (Owning × String) :=
    [(.context, "context"), (.node, "node"), (.publisher, "publisher"), (.subscription, "subscription"),
      (.node, "again"), (.context, "taken"), (.subscription, "copy")]
  names.foldl (fun session entry => session.drop entry.1 entry.2) shared

/-- What was made in it: the publisher and the subscription stand on the node, and that on the context. -/
def furnishings : List Creation :=
  [{ sort := .context, handle := 0, base := none }, { sort := .node, handle := 1, base := some 0 },
    { sort := .publisher, handle := 2, base := some 1 }, { sort := .subscription, handle := 3, base := some 1 }]

end Session

namespace Scene

theorem Lineage.dropped {first scene : Scene} {log : List Creation} (lineage : first.Lineage log scene)
    (names : List (Owning × String)) :
    first.Lineage log (scene.withSession
      (names.foldl (fun session entry => session.drop entry.1 entry.2) scene.session)) := by
  induction names generalizing scene with
  | nil => exact lineage
  | cons entry rest ih =>
      exact ih (lineage.moved (.dropped entry.1 entry.2) (scene.session.shrinks_drop entry.1 entry.2).next)

theorem lineage_subscribed : start.Lineage Session.furnishings (start.withSession Session.subscribed) := by
  have context := (start.founds_makeContext "context" []).done none rfl (by decide +kernel)
  have node := (Scene.founds_makeNode (start.withSession (Session.empty.trying (Run.makeContext "context" [])))
    "node" "context" (Bytes.ofString "talker") []).done (some 0) (by decide +kernel) (by decide +kernel)
  have publisher := (Scene.founds_makePublisher (start.withSession Session.hosted)
    "publisher" "node" .int64 (Bytes.ofString "chatter") .standard).done (some 1) (by decide +kernel) (by decide +kernel)
  have refused := (Scene.founds_makePublisher (start.withSession
    (Session.hosted.trying (Run.makePublisher "publisher" "node" .int64 (Bytes.ofString "chatter") .standard)))
    "refused" "node" .int64 (Bytes.ofString "no topic") .standard).failed (by decide +kernel)
  have subscription := (Scene.founds_makeSubscription (start.withSession Session.publishing) "subscription" "node"
    .int64 (Bytes.ofString "chatter") .standard true (rfl : orderlyScript [] = true)).done (some 1)
    (by decide +kernel) (by decide +kernel)
  have lineage := (((context.trans node).trans publisher).trans refused).trans subscription
  exact lineage

theorem lineage_shared : start.Lineage Session.furnishings (start.withSession Session.shared) := by
  have named (session : Session) (name : String)
      (known : (session.namedNode? name).map (fun found => (found.1, found.2.context)) = some (0, 0)) :
      ∃ object, session.namedNode? name = some (0, object) ∧ object.context = 0 := by
    obtain ⟨⟨_, object⟩, found, same⟩ := Option.map_eq_some_iff.1 known
    obtain ⟨rfl, context⟩ := Prod.mk.inj same
    exact ⟨object, found, context⟩
  obtain ⟨_, node, _⟩ := named Session.subscribed "node" (by decide +kernel)
  have nodes := lineage_subscribed.moved (.nodeShared "again" node) (by decide +kernel)
  have listed : (((Session.subscribed.retainNode 0).nameNode "again" 0).namedSubscription? "subscription").map
    Prod.fst = some 0 := by decide +kernel
  obtain ⟨⟨_, _⟩, subscription, rfl⟩ := Option.map_eq_some_iff.1 listed
  have doubled : start.Lineage Session.furnishings (start.withSession Session.doubled) :=
    nodes.moved (.subscriptionShared "copy" subscription) (by decide +kernel)
  obtain ⟨object, again, context⟩ := named Session.doubled "again" (by decide +kernel)
  have taken := doubled.moved (.contextTaken "taken" again) (by rw [context]; decide +kernel)
  rw [context] at taken
  exact taken

/-- Whatever is dropped first, the node is released after its endpoints, and the context after the node. -/
theorem deserted_released :
    start.Lineage Session.furnishings (start.withSession Session.deserted) ∧
      (start.withSession Session.deserted).ReleasedInOrder Session.furnishings ∧
      Session.deserted.AllReleased ∧ Session.deserted.forest.finalized.map Prod.fst = [2, 3, 1, 0] := by
  have lineage : start.Lineage Session.furnishings (start.withSession Session.deserted) :=
    lineage_shared.dropped _
  have nameless : Session.deserted.Nameless := by
    apply Session.nameless_of_isEmpty <;> decide +kernel
  have released := released_in_order lineage
  exact ⟨lineage, released.1, released.2 rfl rfl nameless, by decide +kernel⟩

end Scene

end PubSub
