import PubSub.Proofs.Calls.Wired
import PubSub.Proofs.Client.Moves
import PubSub.Proofs.Payloads.Samples

/-!
What becomes of samples in a session.  Shares of samples change hands all the time: endpoints go, messages are taken,
histories are replayed.  A sample is made by a publish only, which is the one request that a client encodes a message
for.
-/

namespace PubSub

theorem SampleStore.sharesOnly_copy (store : SampleStore) (kind : MessageKind)
    (source destination : Layout) :
    store.SharesOnly { store with ledger := (store.ledger.copy kind source destination).2 } := by
  have counted := fun (field : Calls → Nat) other =>
    @calls_copy_same _ field store.ledger kind other source destination
  exact
    { next := rfl
      init := fun other => counted Calls.init other (fun _ => rfl)
      fini := fun other =>
        congrArg (· + store.stored other) (counted Calls.fini other (fun _ => rfl))
      acquired := fun other => counted Calls.acquired other (fun _ => rfl)
      released := fun other => counted Calls.released other (fun _ => rfl)
      held := fun _ held found => ⟨held, found, rfl, rfl⟩ }

namespace Middleware

structure Reshares (before after : Middleware) : Prop where
  store : before.transport.store.SharesOnly after.transport.store
  sound : before.transport.Sound (fun _ => 0) → after.transport.Sound (fun _ => 0)

variable {before between after : Middleware}

theorem Reshares.refl (middleware : Middleware) : middleware.Reshares middleware :=
  ⟨.refl _, id⟩

theorem Reshares.trans (early : before.Reshares between) (late : between.Reshares after) :
    before.Reshares after :=
  ⟨early.store.trans late.store, fun sound => late.sound (early.sound sound)⟩

theorem Reshares.of_same (store : after.transport.store = before.transport.store)
    (publishers : after.transport.publishers = before.transport.publishers)
    (subscribers : after.transport.subscribers = before.transport.subscribers) :
    before.Reshares after := by
  constructor
  · rw [store]
    exact .refl _
  · intro sound
    unfold Transport.Sound Transport.historyShares Transport.queueShares at sound ⊢
    rw [store, publishers, subscribers]
    exact sound

theorem Reshares.of_transport (same : after.transport = before.transport) : before.Reshares after :=
  .of_same (congrArg Transport.store same) (congrArg Transport.publishers same)
    (congrArg Transport.subscribers same)

variable (middleware : Middleware)

theorem reshares_dropPublisher (publisher : Nat) :
    middleware.Reshares (middleware.withTransport (middleware.transport.dropPublisher publisher)) :=
  ⟨middleware.transport.sharesOnly_dropPublisher publisher, fun sound => sound.dropPublisher publisher⟩

theorem reshares_dropSubscriber (subscriber : Nat) :
    middleware.Reshares (middleware.withTransport (middleware.transport.dropSubscriber subscriber)) :=
  ⟨middleware.transport.sharesOnly_dropSubscriber subscriber,
    fun sound => sound.dropSubscriber subscriber⟩

/-- A take moves a share and counts a copy, whatever comes of it. -/
theorem reshares_take (slot : Option (Slot SubscriptionState)) (message : Option Layout) :
    middleware.Reshares (middleware.take slot message).2 := by
  unfold take
  cases middleware.validSubscription? slot with
  | none => exact .of_transport rfl
  | some state =>
      cases message with
      | none => exact .of_transport rfl
      | some layout =>
          dsimp only
          cases took : middleware.transport.takeSample state.endpoint with
          | none => exact .refl _
          | some front =>
              obtain ⟨sample, taken⟩ := front
              have same : taken.store = middleware.transport.store := Transport.store_of_takeSample took
              have left : ∀ kind content,
                  middleware.Reshares (middleware.withTransport (taken.withStore
                    ({ taken.store with
                      ledger := (taken.store.ledger.copy kind content layout).2 }.release sample))) := by
                intro kind content
                constructor
                · rw [← same]
                  have copied := taken.store.sharesOnly_copy kind content layout
                  exact copied.trans (SampleStore.sharesOnly_release _ sample)
                · exact fun sound => Transport.Sound.giveUp (Transport.Sound.takeSample sound took) _
              dsimp only
              split
              · exact left _ _
              · exact (left _ _).trans (.of_transport rfl)

theorem reshares_registerPublisher (topicName : Bytes) (kind : MessageKind) (qos : Qos)
    (context : Nat) :
    middleware.Reshares (middleware.registerPublisher topicName kind qos context).2 :=
  ⟨.refl _, fun sound => Transport.Sound.addPublisher sound .empty qos context⟩

theorem reshares_registerSubscription (topicName : Bytes) (kind : MessageKind) (qos : Qos)
    (context : Nat) :
    middleware.Reshares (middleware.registerSubscription topicName kind qos context).2 :=
  ⟨middleware.transport.sharesOnly_addSubscriber _ qos context,
    fun sound => sound.addSubscriber _ qos context⟩

theorem publish_store (slot : Option (Slot PublisherState)) (message : Option Layout) :
    middleware.transport.store.SharesOnly (middleware.publish slot message).2.transport.store ∨
      ∃ kind layout, (middleware.transport.store.create kind layout).2.SharesOnly
        (middleware.publish slot message).2.transport.store := by
  unfold publish
  cases middleware.validPublisher? slot with
  | none => exact .inl (.refl _)
  | some state =>
      cases message with
      | none => exact .inl (.refl _)
      | some layout =>
          refine .inr ⟨state.kind, layout, ?_⟩
          dsimp only
          generalize middleware.transport.store.create state.kind layout = created
          obtain ⟨_ | sample, store⟩ := created
          · exact .refl _
          · exact (Transport.sharesOnly_publish (middleware.transport.withStore store) _ _ sample).trans
              (SampleStore.sharesOnly_release _ sample)

theorem sound_publish (sound : middleware.transport.Sound (fun _ => 0))
    (slot : Option (Slot PublisherState)) (message : Option Layout) :
    (middleware.publish slot message).2.transport.Sound (fun _ => 0) := by
  rcases middleware.publish_eq slot message with ⟨_, noted⟩ | ⟨state, _, content, ledger, _, _, _, sent⟩
  · obtain ⟨reason, ledger, same, _⟩ := noted
    rw [same]
    exact sound
  · rw [sent]
    exact Transport.Sound.sendOut (Transport.Sound.insert sound state.kind content ledger) _ _

end Middleware

def Request.publishes {Value : Type} : Request Value → Bool
  | publish _ _ => true
  | _ => false

/-- A request makes no sample, unless it is to publish. -/
theorem Request.reshares {Value : Type} (request : Request Value) (quiet : request.publishes = false)
    {middleware after : Middleware} {result : Except Fault Value}
    (told : request.outcome middleware = (result, after)) : middleware.Reshares after := by
  rw [show after = (request.outcome middleware).2 from (congrArg Prod.snd told).symm]
  cases request with
  | initContext arguments =>
      rcases middleware.initContext_cases (some none) (some (arguments.map some))
        arguments.length with ⟨_, kept⟩ | ⟨_, _, opened⟩
      · exact .of_transport kept
      · refine .of_same ?_ ?_ ?_
        · exact (congrArg Transport.store opened).trans rfl
        · exact (congrArg Transport.publishers opened).trans rfl
        · exact (congrArg Transport.subscribers opened).trans rfl
  | shutdown context =>
      cases context with
      | none => exact .of_transport rfl
      | some number =>
          change middleware.Reshares (middleware.shutdownContext (some (some number))).2
          unfold Middleware.shutdownContext
          dsimp only
          split
          · exact .of_same rfl rfl rfl
          · exact .of_transport rfl
  | initNode name space context =>
      exact .of_transport (middleware.initNode_cases (some none) (some name) (some space) (some context)
        (some true)).1
  | initPublisher node kind topic qos =>
      rcases middleware.initPublisher_cases (some none) node (some (.complete kind)) (some topic)
        (some qos) with ⟨_, kept, _⟩ | ⟨its, profile, owner, name, resolved, _, _, _, _, _, same, _, made⟩
      · exact .of_transport kept
      · rw [Request.outcome, made]
        exact (Middleware.Reshares.of_transport same).trans (resolved.reshares_registerPublisher _ _ _ _)
  | initSubscription node kind topic qos =>
      rcases middleware.initSubscription_cases (some none) node (some (.complete kind)) (some topic)
        (some qos) with ⟨_, kept, _⟩ | ⟨its, profile, owner, name, resolved, _, _, _, _, _, same, _, made⟩
      · exact .of_transport kept
      · rw [Request.outcome, made]
        exact (Middleware.Reshares.of_transport same).trans
          (resolved.reshares_registerSubscription _ _ _ _)
  | publish publisher message => cases quiet
  | take subscription buffer => exact middleware.reshares_take (some subscription) (some buffer)
  | subscriptionCount publisher => exact .of_transport (middleware.subscriptionCount_transport _ _)
  | publisherCount subscription => exact .of_transport (middleware.publisherCount_transport _ _)

namespace Session

theorem reshares_finalize (held : Handle Resource) (parent : Option (Handle Resource))
    (state : Middleware × Nat) : state.1.Reshares (finalize held parent state).1 := by
  obtain ⟨middleware, faults⟩ := state
  obtain ⟨_, resource, _, _⟩ := held
  unfold finalize finiResource
  cases resource with
  | context slot => cases slot <;> exact .of_same rfl rfl rfl
  | node slot => exact .refl middleware
  | publisher slot =>
      dsimp only
      unfold Middleware.finiPublisher
      rcases slot with _ | state <;> rcases nodeSlot parent with _ | _ | node <;>
        first | exact .of_transport rfl | exact middleware.reshares_dropPublisher _
  | subscription slot =>
      dsimp only
      unfold Middleware.finiSubscription
      rcases slot with _ | state <;> rcases nodeSlot parent with _ | _ | node <;>
        first | exact .of_transport rfl | exact middleware.reshares_dropSubscriber _

theorem reshares_release (forest : Forest Resource) (handle : Nat) (state : Middleware × Nat) :
    state.1.Reshares (forest.release finalize handle state).2.1 := by
  -- By induction on the number of the handle: a parent has a smaller one.
  induction handle using Nat.strongRecOn generalizing forest state with
  | ind handle ih =>
      rw [Forest.release]
      cases forest.get? handle with
      | none => exact .refl _
      | some held =>
          dsimp only
          split
          · exact .refl _
          · have closed := reshares_finalize held (held.parent.bind forest.get?) state
            split
            · exact closed
            · split
              · rename_i parent _ older
                exact closed.trans (ih parent older _ _)
              · exact closed

def Reshares (before after : Session) : Prop :=
  before.middleware.Reshares after.middleware

theorem Reshares.refl (session : Session) : session.Reshares session :=
  Middleware.Reshares.refl session.middleware

theorem Reshares.trans {before between after : Session} (early : before.Reshares between)
    (late : between.Reshares after) : before.Reshares after :=
  Middleware.Reshares.trans early late

theorem Reshares.of_eq {before after : Session} (same : after.middleware = before.middleware) :
    before.Reshares after :=
  .of_transport (congrArg Middleware.transport same)

variable (session : Session)

theorem reshares_releaseHandle (handle : Nat) : session.Reshares (session.releaseHandle handle) :=
  reshares_release session.forest handle (session.middleware, session.faults)

theorem reshares_releaseNode (index : Nat) : session.Reshares (session.releaseNode index) := by
  unfold releaseNode
  split
  · exact .refl session
  · split
    · exact .of_eq rfl
    · have erased : session.Reshares { session with nodes := session.nodes.erase index } := .of_eq rfl
      exact (erased.trans (reshares_releaseHandle _ _)).trans (reshares_releaseHandle _ _)

theorem reshares_releaseSubscription (index : Nat) :
    session.Reshares (session.releaseSubscription index) := by
  unfold releaseSubscription
  split
  · exact .refl session
  · split
    · exact .of_eq rfl
    · have erased : session.Reshares
          { session with subscriptions := session.subscriptions.erase index } := .of_eq rfl
      exact erased.trans (reshares_releaseHandle _ _)

theorem reshares_foldl {Item : Type} (items : List Item) {change : Session → Item → Session}
    (each : ∀ (session : Session) item, session.Reshares (change session item)) :
    session.Reshares (items.foldl change session) := by
  induction items generalizing session with
  | nil => exact .refl session
  | cons item rest ih => exact (each session item).trans (ih _)

theorem reshares_retainNodes (items : List Nat) :
    session.Reshares (items.foldl retainNode session) :=
  session.reshares_foldl items (fun _ _ => .of_eq rfl)

theorem reshares_releaseNodes (items : List Nat) :
    session.Reshares (items.foldl releaseNode session) :=
  session.reshares_foldl items reshares_releaseNode

theorem reshares_retainSubscriptions (items : List Nat) :
    session.Reshares (items.foldl retainSubscription session) :=
  session.reshares_foldl items (fun _ _ => .of_eq rfl)

theorem reshares_releaseSubscriptions (items : List Nat) :
    session.Reshares (items.foldl releaseSubscription session) :=
  session.reshares_foldl items reshares_releaseSubscription

theorem reshares_dropContext (name : String) : session.Reshares (session.dropContext name) := by
  unfold dropContext
  split
  · exact .refl session
  · have erased : session.Reshares
        { session with contextNames := session.contextNames.erase name } := .of_eq rfl
    exact erased.trans (reshares_releaseHandle _ _)

theorem reshares_dropNode (name : String) : session.Reshares (session.dropNode name) := by
  unfold dropNode
  split
  · exact .refl session
  · have erased : session.Reshares { session with nodeNames := session.nodeNames.erase name } :=
      .of_eq rfl
    exact erased.trans (reshares_releaseNode _ _)

theorem reshares_dropPublisher (name : String) : session.Reshares (session.dropPublisher name) := by
  unfold dropPublisher
  split
  · exact .refl session
  · have erased : session.Reshares
        { session with publisherNames := session.publisherNames.erase name } := .of_eq rfl
    exact erased.trans (reshares_releaseHandle _ _)

theorem reshares_dropSubscription (name : String) :
    session.Reshares (session.dropSubscription name) := by
  unfold dropSubscription
  split
  · exact .refl session
  · have erased : session.Reshares
        { session with subscriptionNames := session.subscriptionNames.erase name } := .of_eq rfl
    exact erased.trans (reshares_releaseSubscription _ _)

theorem reshares_dropExecutor (name : String) : session.Reshares (session.dropExecutor name) := by
  unfold dropExecutor
  split
  · exact .refl session
  · have erased : session.Reshares { session with executors := session.executors.erase name } :=
      .of_eq rfl
    exact erased.trans (reshares_releaseHandle _ _)

theorem reshares_drop (sort : Owning) (name : String) : session.Reshares (session.drop sort name) := by
  cases sort with
  | context => exact session.reshares_dropContext name
  | node => exact session.reshares_dropNode name
  | publisher => exact session.reshares_dropPublisher name
  | subscription => exact session.reshares_dropSubscription name

theorem reshares_nameContext (name : String) (handle : Nat) :
    session.Reshares (session.nameContext name handle) :=
  (session.reshares_dropContext name).trans (.of_eq rfl)

theorem reshares_nameNode (name : String) (node : Nat) : session.Reshares (session.nameNode name node) :=
  (session.reshares_dropNode name).trans (.of_eq rfl)

theorem reshares_nameSubscription (name : String) (subscription : Nat) :
    session.Reshares (session.nameSubscription name subscription) :=
  (session.reshares_dropSubscription name).trans (.of_eq rfl)

theorem reshares_namePublisher (name : String) (publisher : PublisherObject) :
    session.Reshares (session.namePublisher name publisher) :=
  (session.reshares_dropPublisher name).trans (.of_eq rfl)

theorem reshares_nameExecutor (name : String) (executor : Executor) :
    session.Reshares (session.nameExecutor name executor) :=
  (session.reshares_dropExecutor name).trans (.of_eq rfl)

/-- What is made has no sample of its own; whoever had its name goes. -/
theorem Makes.reshares {after : Session} {creation : Creation} (makes : session.Makes creation after) :
    session.Reshares after := by
  cases makes with
  | context name clean made =>
      have dropped := fun middle : Session => middle.reshares_dropContext name
      refine Middleware.Reshares.trans ?_ (dropped _)
      exact Request.reshares _ rfl made
  | node name found cleanName cleanSpace made =>
      have dropped := fun middle : Session => middle.reshares_dropNode name
      refine Middleware.Reshares.trans ?_ (dropped _)
      exact Request.reshares _ rfl made
  | publisher name found clean made =>
      have dropped := fun middle : Session => middle.reshares_dropPublisher name
      refine Middleware.Reshares.trans ?_ (dropped _)
      exact Request.reshares _ rfl made
  | subscription name registered orderly found clean made =>
      have dropped := fun middle : Session => middle.reshares_dropSubscription name
      cases registered <;>
        (refine Middleware.Reshares.trans ?_ (dropped _)
         exact Request.reshares _ rfl made)

end Session

end PubSub
