import PubSub.Proofs.Client.Operations
import PubSub.Proofs.Ownership.Calls

/-!
What makes nothing.  Whatever is there afterwards was there before: handles with what they hold, nodes, subscriptions,
names, and endpoints with their contexts.  Contexts stay, whether they run or not, and end with their handles unless one
is shut down.
-/

namespace PubSub

namespace Arena

variable {Value Key : Type} {key : Value → Key} {first second third : Arena Value}

def Fewer (key : Value → Key) (first second : Arena Value) : Prop :=
  ∀ index held, second.get? index = some held → ∃ old, first.get? index = some old ∧ key old = key held

theorem Fewer.refl (arena : Arena Value) : Fewer key arena arena :=
  fun _ held found => ⟨held, found, rfl⟩

theorem Fewer.trans (early : Fewer key first second) (late : Fewer key second third) :
    Fewer key first third := by
  intro index held found
  obtain ⟨between, there, same⟩ := late index held found
  obtain ⟨old, present, before⟩ := early index between there
  exact ⟨old, present, before.trans same⟩

theorem fewer_modify (arena : Arena Value) (index : Nat) {change : Value → Value}
    (keeps : ∀ value, arena.get? index = some value → key (change value) = key value) :
    Fewer key arena (arena.modify index change) := by
  intro other held found
  rw [get?_modify] at found
  by_cases same : other = index
  · rw [if_pos same, Option.map_eq_some_iff] at found
    obtain ⟨old, there, rfl⟩ := found
    exact ⟨old, same ▸ there, (keeps old there).symm⟩
  · rw [if_neg same] at found
    exact ⟨held, found, rfl⟩

theorem fewer_erase (arena : Arena Value) (index : Nat) : Fewer key arena (arena.erase index) := by
  intro other held found
  rw [get?_erase] at found
  by_cases same : other = index
  · rw [if_pos same] at found
    cases found
  · rw [if_neg same] at found
    exact ⟨held, found, rfl⟩

end Arena

namespace Table

variable {Key Value : Type} [DecidableEq Key] {first second third : Table Key Value}

def Fewer (first second : Table Key Value) : Prop :=
  ∀ key value, second.get? key = some value → ∃ old, first.get? old = some value

theorem Fewer.refl (table : Table Key Value) : table.Fewer table :=
  fun key _ found => ⟨key, found⟩

theorem Fewer.trans (early : first.Fewer second) (late : second.Fewer third) : first.Fewer third := by
  intro key value found
  obtain ⟨old, there⟩ := late key value found
  exact early old value there

theorem fewer_erase (table : Table Key Value) (key : Key) : table.Fewer (table.erase key) :=
  fun other _ found => ⟨other, get?_of_erase found⟩

theorem Fewer.set (fewer : first.Fewer second) {old : Key} {value : Value}
    (there : first.get? old = some value) (key : Key) : first.Fewer (second.set key value) := by
  intro other held found
  rw [get?_set] at found
  by_cases same : other = key
  · rw [if_pos same, Option.some.injEq] at found
    exact ⟨old, found ▸ there⟩
  · rw [if_neg same] at found
    exact fewer other held found

end Table

namespace Transport

/--
No endpoint is new, those that are left belong to the same contexts, no context is gone, and none that ended runs again.
-/
structure Shrinks (before after : Transport) : Prop where
  publishers : before.publishers.Fewer PublisherEnd.context after.publishers
  subscribers : before.subscribers.Fewer SubscriberEnd.context after.subscribers
  contexts : ∀ context, after.contexts.contains context = before.contexts.contains context
  next : after.contexts.next = before.contexts.next
  ended : ∀ context, before.isValid context = false → after.isValid context = false

theorem Shrinks.refl (transport : Transport) : transport.Shrinks transport :=
  ⟨.refl _, .refl _, fun _ => rfl, rfl, fun _ => id⟩

theorem Shrinks.of_eq {before after : Transport} (same : after = before) : before.Shrinks after :=
  same ▸ .refl after

theorem Shrinks.trans {first second third : Transport} (early : first.Shrinks second)
    (late : second.Shrinks third) : first.Shrinks third :=
  ⟨early.publishers.trans late.publishers, early.subscribers.trans late.subscribers,
    fun context => (late.contexts context).trans (early.contexts context),
    late.next.trans early.next, fun context ended => late.ended context (early.ended context ended)⟩

variable (transport : Transport)

theorem shrinks_withStore (store : SampleStore) : transport.Shrinks (transport.withStore store) :=
  ⟨.refl _, .refl _, fun _ => rfl, rfl, fun _ => id⟩

theorem shrinks_invalidate (context : Nat) : transport.Shrinks (transport.invalidate context) :=
  ⟨.refl _, .refl _, fun _ => Arena.contains_modify _ _ _ _, rfl, fun other ended => by
    rw [transport.isValid_invalidate, ended, Bool.and_false]⟩

theorem shrinks_deliver (subscriber sample : Nat) :
    transport.Shrinks (transport.deliver subscriber sample) := by
  unfold deliver
  cases transport.subscribers.get? subscriber with
  | none => exact .refl transport
  | some state =>
      exact ⟨.refl _, transport.subscribers.fewer_modify _ (fun _ _ => rfl), fun _ => rfl, rfl, fun _ => id⟩

theorem shrinks_deliverEach (subscribers : List Nat) (sample : Nat) :
    transport.Shrinks
      (subscribers.foldl (fun current subscriber => current.deliver subscriber sample) transport) := by
  induction subscribers generalizing transport with
  | nil => exact .refl transport
  | cons subscriber rest ih => exact (transport.shrinks_deliver _ _).trans (ih _)

theorem shrinks_remember (publisher sample : Nat) :
    transport.Shrinks (transport.remember publisher sample) := by
  unfold remember
  cases transport.publishers.get? publisher with
  | none => exact .refl transport
  | some state =>
      by_cases keeps : state.qos.isTransientLocal
      · simp only [if_pos keeps]
        exact ⟨transport.publishers.fewer_modify _ (fun _ _ => rfl), .refl _, fun _ => rfl, rfl, fun _ => id⟩
      · simp only [if_neg keeps]
        exact .refl transport

theorem shrinks_publish (topic : Topic) (publisher sample : Nat) :
    transport.Shrinks (transport.publish topic publisher sample) := by
  unfold publish
  cases transport.publishers.get? publisher with
  | none => exact .refl transport
  | some state =>
      exact (transport.shrinks_remember publisher sample).trans (shrinks_deliverEach _ _ sample)

theorem shrinks_takeSample {transport taken : Transport} {subscriber sample : Nat}
    (took : transport.takeSample subscriber = some (sample, taken)) : transport.Shrinks taken := by
  obtain ⟨_, _, _, _, rfl⟩ := takeSample_eq_some took
  exact ⟨.refl _, transport.subscribers.fewer_modify _ (fun _ _ => rfl), fun _ => rfl, rfl, fun _ => id⟩

theorem shrinks_dropPublisher (publisher : Nat) :
    transport.Shrinks (transport.dropPublisher publisher) := by
  unfold dropPublisher
  split
  · exact .refl transport
  · exact ⟨transport.publishers.fewer_erase _, .refl _, fun _ => rfl, rfl, fun _ => id⟩

theorem shrinks_dropSubscriber (subscriber : Nat) :
    transport.Shrinks (transport.dropSubscriber subscriber) := by
  unfold dropSubscriber
  split
  · exact .refl transport
  · exact ⟨.refl _, transport.subscribers.fewer_erase _, fun _ => rfl, rfl, fun _ => id⟩

end Transport

namespace Middleware

structure Shrinks (before after : Middleware) : Prop where
  transport : before.transport.Shrinks after.transport
  blank : before.reason = [] → after.reason = []

theorem Shrinks.refl (middleware : Middleware) : middleware.Shrinks middleware :=
  ⟨.refl _, id⟩

theorem Shrinks.trans {first second third : Middleware} (early : first.Shrinks second)
    (late : second.Shrinks third) : first.Shrinks third :=
  ⟨early.transport.trans late.transport, fun blank => late.blank (early.blank blank)⟩

theorem shrinks_withTransport (middleware : Middleware) {transport : Transport}
    (shrinks : middleware.transport.Shrinks transport) :
    middleware.Shrinks (middleware.withTransport transport) :=
  ⟨shrinks, id⟩

theorem shrinks_shutdownContext (middleware : Middleware) (slot : Option (Slot Nat)) :
    middleware.transport.Shrinks (middleware.shutdownContext slot).2.transport := by
  unfold shutdownContext
  split
  · split
    · exact middleware.transport.shrinks_invalidate _
    · exact .refl _
  · exact .refl _

theorem contexts_shutdownContext (middleware : Middleware) {slot : Option (Slot Nat)}
    (refused : ∃ fault, (middleware.shutdownContext slot).1 = .error fault) :
    (middleware.shutdownContext slot).2.transport.contexts = middleware.transport.contexts := by
  obtain ⟨fault, failed⟩ := refused
  unfold shutdownContext at failed ⊢
  split at failed
  · split at failed
    · cases failed
    · rename_i stopped
      rw [if_neg stopped]
      rfl
  · rfl

theorem shrinks_publish (middleware : Middleware) (slot : Option (Slot PublisherState))
    (message : Option Layout) :
    middleware.transport.Shrinks (middleware.publish slot message).2.transport := by
  unfold publish
  cases middleware.validPublisher? slot with
  | none => exact .refl _
  | some publisher =>
      cases message with
      | none => exact .refl _
      | some message =>
          dsimp only
          rcases middleware.transport.store.create publisher.kind message with ⟨_ | sample, store⟩
          · exact middleware.transport.shrinks_withStore store
          · exact ((middleware.transport.shrinks_withStore store).trans
              (Transport.shrinks_publish _ _ _ _)).trans (Transport.shrinks_withStore _ _)

theorem shrinks_take (middleware : Middleware) (slot : Option (Slot SubscriptionState))
    (message : Option Layout) :
    middleware.transport.Shrinks (middleware.take slot message).2.transport := by
  unfold take
  cases middleware.validSubscription? slot with
  | none => exact .refl _
  | some subscription =>
      cases message with
      | none => exact .refl _
      | some message =>
          dsimp only
          rcases took : middleware.transport.takeSample subscription.endpoint with _ | ⟨sample, taken⟩
          · exact .refl _
          · have left := fun store =>
              (Transport.shrinks_takeSample took).trans (taken.shrinks_withStore store)
            dsimp only
            split
            · exact left _
            · exact left _

end Middleware

def Request.ends {Value : Type} : Request Value → Bool
  | shutdown _ => true
  | _ => false

/--
A request that makes nothing, or fails, leaves the endpoints that are there, and brings no new one.  Contexts stay as they
are, unless one is shut down.
-/
theorem Request.quiet_shrinks {Value : Type} (request : Request Value) {middleware after : Middleware}
    {result : Except Fault Value} (told : request.outcome middleware = (result, after))
    (idle : request.makes = true → ∃ fault, result = .error fault) :
    Quiet middleware.transport after.transport ∧ middleware.transport.Shrinks after.transport ∧
      ((request.ends = true → ∃ fault, result = .error fault) →
        after.transport.contexts = middleware.transport.contexts) := by
  have untouched : ∀ {transport : Transport} {Ends : Prop}, transport = middleware.transport →
      Quiet middleware.transport transport ∧ middleware.transport.Shrinks transport ∧
        (Ends → transport.contexts = middleware.transport.contexts) :=
    fun same => same ▸ ⟨.refl _, .refl _, fun _ => rfl⟩
  have left : after = (request.outcome middleware).2 := (congrArg Prod.snd told).symm
  have same : result = (request.outcome middleware).1 := (congrArg Prod.fst told).symm
  rw [left]
  rw [same] at idle
  cases request with
  | initContext arguments =>
      rcases middleware.initContext_cases (some none) (some (arguments.map some))
        arguments.length with ⟨_, kept⟩ | ⟨_, made, _⟩
      · exact untouched kept
      · obtain ⟨fault, failed⟩ := idle rfl
        cases made.symm.trans failed
  | shutdown context =>
      refine ⟨middleware.quiet_shutdownContext _, middleware.shrinks_shutdownContext _, fun refused => ?_⟩
      rw [same] at refused
      exact middleware.contexts_shutdownContext (refused rfl)
  | initNode name space context =>
      exact untouched (middleware.initNode_cases (some none) (some name) (some space) (some context)
        (some true)).1
  | initPublisher node kind topic qos =>
      rcases middleware.initPublisher_cases (some none) node (some (.complete kind)) (some topic)
        (some qos) with ⟨_, kept, _⟩ | ⟨_, _, _, _, _, _, _, _, _, _, _, _, made⟩
      · exact untouched kept
      · obtain ⟨fault, failed⟩ := idle rfl
        cases (congrArg Prod.fst made).symm.trans failed
  | initSubscription node kind topic qos =>
      rcases middleware.initSubscription_cases (some none) node (some (.complete kind)) (some topic)
        (some qos) with ⟨_, kept, _⟩ | ⟨_, _, _, _, _, _, _, _, _, _, _, _, made⟩
      · exact untouched kept
      · obtain ⟨fault, failed⟩ := idle rfl
        cases (congrArg Prod.fst made).symm.trans failed
  | publish publisher message =>
      have ends := middleware.sameEnds_publish (some publisher) (some message)
      exact ⟨ends.quiet, middleware.shrinks_publish _ _, fun _ => ends.contexts⟩
  | take subscription buffer =>
      have ends := middleware.sameEnds_take (some subscription) (some buffer)
      exact ⟨ends.quiet, middleware.shrinks_take _ _, fun _ => ends.contexts⟩
  | subscriptionCount publisher => exact untouched (middleware.subscriptionCount_transport _ _)
  | publisherCount subscription => exact untouched (middleware.publisherCount_transport _ _)

namespace Session

/-- What callbacks were answered, and what workers failed with, is truthful. -/
structure TruthfulRecord (calls : List CallbackRun) (executors : Table String Executor) : Prop where
  answers : ∀ run ∈ calls, ∀ answer ∈ run.answers, PubSub.Truthful answer
  failures : ∀ name executor raised, executors.get? name = some executor →
    executor.pool.failure = some raised → raised.Truthful

theorem TruthfulRecord.set {calls : List CallbackRun} {executors : Table String Executor}
    (truthful : TruthfulRecord calls executors) (name : String) {executor : Executor}
    (failure : ∀ raised, executor.pool.failure = some raised → raised.Truthful) :
    TruthfulRecord calls (executors.set name executor) := by
  refine ⟨truthful.answers, fun other held raised found failed => ?_⟩
  rw [Table.get?_set] at found
  by_cases same : other = name
  · rw [if_pos same, Option.some.injEq] at found
    exact failure raised (found ▸ failed)
  · rw [if_neg same] at found
    exact truthful.failures other held raised found failed

def Truthful (session : Session) : Prop :=
  TruthfulRecord session.calls session.executors

/-- A context is finalized: its handle is gone. -/
def Finalized (session : Session) (context : Nat) : Prop :=
  ∃ entry ∈ session.forest.finalized, entry.2.resource.context? = some context

/-- A context that users can get at: it has a name, or is the context of a node. -/
def AtHand (names : Table String Nat) (nodes : Arena NodeObject) (context : Nat) : Prop :=
  (∃ name, names.get? name = some context) ∨ ∃ index node, nodes.get? index = some node ∧ node.context = context

def Inherits (first : Table String Nat) (nodes : Arena NodeObject) (second : Table String Nat) : Prop :=
  ∀ name context, second.get? name = some context → AtHand first nodes context

section Inherits

variable {first second : Table String Nat} {nodes : Arena NodeObject}

theorem Inherits.of_fewer (fewer : first.Fewer second) : Inherits first nodes second :=
  fun name context found => .inl (fewer name context found)

theorem Inherits.refl (names : Table String Nat) : Inherits names nodes names :=
  .of_fewer (.refl names)

theorem Inherits.set (inherits : Inherits first nodes second) {context : Nat} (known : AtHand first nodes context)
    (name : String) : Inherits first nodes (second.set name context) := by
  intro other held found
  rw [Table.get?_set] at found
  by_cases same : other = name
  · rw [if_pos same, Option.some.injEq] at found
    exact found ▸ known
  · rw [if_neg same] at found
    exact inherits other held found

end Inherits

structure Fades (before after : Session) : Prop where
  handles : before.forest.handles.Fewer Handle.content after.forest.handles
  nodes : before.nodes.Fewer (fun node => (node.handle, node.context)) after.nodes
  subscriptions : before.subscriptions.Fewer (fun held => (held.handle, held.kind)) after.subscriptions
  contextNames : Inherits before.contextNames before.nodes after.contextNames
  publisherNames : before.publisherNames.Fewer after.publisherNames
  middleware : before.middleware.Shrinks after.middleware
  truthful : before.Truthful → after.Truthful

/--
A session that fades, in which no handle is made, the record has what was there, and contexts end only when they are
finalized.
-/
structure Shrinks (before after : Session) : Prop extends before.Fades after where
  next : after.forest.handles.next = before.forest.handles.next
  finalized : ∀ entry ∈ before.forest.finalized, entry ∈ after.forest.finalized
  recalls : ∀ entry ∈ after.forest.finalized, entry ∈ before.forest.finalized ∨
    ∃ old, before.forest.get? entry.1 = some old ∧ old.content = entry.2.content
  spares : ∀ context, before.middleware.transport.isValid context = true →
    after.middleware.transport.isValid context = true ∨ after.Finalized context

variable {before between after : Session}

theorem Fades.atHand (fades : before.Fades after) {context : Nat}
    (known : AtHand after.contextNames after.nodes context) : AtHand before.contextNames before.nodes context := by
  rcases known with ⟨name, found⟩ | ⟨index, node, found, same⟩
  · exact fades.contextNames name context found
  · obtain ⟨old, there, equal⟩ := fades.nodes index node found
    exact .inr ⟨index, old, there, (congrArg Prod.snd equal).trans same⟩

theorem Fades.trans (early : before.Fades between) (late : between.Fades after) : before.Fades after where
  handles := early.handles.trans late.handles
  nodes := early.nodes.trans late.nodes
  subscriptions := early.subscriptions.trans late.subscriptions
  contextNames name context found := early.atHand (late.contextNames name context found)
  publisherNames := early.publisherNames.trans late.publisherNames
  middleware := early.middleware.trans late.middleware
  truthful truthful := late.truthful (early.truthful truthful)

theorem Shrinks.of_fades (fades : before.Fades after)
    (next : after.forest.handles.next = before.forest.handles.next)
    (finalized : after.forest.finalized = before.forest.finalized)
    (contexts : after.middleware.transport.contexts = before.middleware.transport.contexts) :
    before.Shrinks after where
  toFades := fades
  next := next
  finalized entry member := finalized ▸ member
  recalls entry member := .inl (finalized ▸ member)
  spares context runs := by
    left
    unfold Transport.isValid at runs ⊢
    rw [contexts]
    exact runs

theorem Shrinks.refl (session : Session) : session.Shrinks session :=
  .of_fades ⟨.refl _, .refl _, .refl _, .refl _, .refl _, .refl _, id⟩ rfl rfl rfl

theorem Finalized.mono {context : Nat} (finalized : before.Finalized context)
    (shrinks : before.Shrinks after) : after.Finalized context := by
  obtain ⟨entry, member, number⟩ := finalized
  exact ⟨entry, shrinks.finalized entry member, number⟩

theorem Shrinks.trans (early : before.Shrinks between) (late : between.Shrinks after) :
    before.Shrinks after where
  toFades := early.toFades.trans late.toFades
  next := late.next.trans early.next
  finalized entry member := late.finalized entry (early.finalized entry member)
  recalls entry member := by
    rcases late.recalls entry member with old | ⟨held, found, same⟩
    · exact early.recalls entry old
    · obtain ⟨first, there, content⟩ := early.handles entry.1 held found
      exact .inr ⟨first, there, content.trans same⟩
  spares context runs := by
    rcases early.spares context runs with still | gone
    · exact late.spares context still
    · exact .inr (gone.mono late)

variable (session : Session)

theorem shrinks_foldl {Item : Type} (items : List Item) {change : Session → Item → Session}
    (shrinks : ∀ (session : Session) item, session.Shrinks (change session item)) :
    session.Shrinks (items.foldl change session) := by
  induction items generalizing session with
  | nil => exact .refl session
  | cons item rest ih => exact (shrinks session item).trans (ih _)

theorem fades_middleware {middleware : Middleware} (shrinks : session.middleware.Shrinks middleware) :
    session.Fades { session with middleware } :=
  ⟨.refl _, .refl _, .refl _, .refl _, .refl _, shrinks, id⟩

theorem shrinks_noteLedger (update : Ledger → Ledger) : session.Shrinks (session.noteLedger update) :=
  .of_fades (session.fades_middleware ⟨session.middleware.transport.shrinks_withStore _, id⟩) rfl rfl rfl

/-- A finalizer ends no other context than the one that it finalizes. -/
theorem shrinks_finalize (held : Handle Resource) (parent : Option (Handle Resource))
    (state : Middleware × Nat) :
    state.1.Shrinks (finalize held parent state).1 ∧
      ∀ context, state.1.transport.isValid context = true →
        (finalize held parent state).1.transport.isValid context = true ∨
          held.resource.context? = some context := by
  obtain ⟨middleware, faults⟩ := state
  obtain ⟨_, resource, _, _⟩ := held
  have untouched : ∀ after : Middleware, middleware.Shrinks after →
      after.transport.contexts = middleware.transport.contexts →
        middleware.Shrinks after ∧ ∀ context, middleware.transport.isValid context = true →
          after.transport.isValid context = true ∨ resource.context? = some context := by
    intro after shrinks contexts
    refine ⟨shrinks, fun context runs => .inl ?_⟩
    unfold Transport.isValid at runs ⊢
    rw [contexts]
    exact runs
  have failed : middleware.Shrinks middleware.resetReason := ⟨.refl _, fun _ => rfl⟩
  unfold finalize finiResource
  cases resource with
  | context slot =>
      cases slot with
      | none => exact untouched _ (.refl middleware) rfl
      | some number =>
          refine ⟨middleware.shrinks_withTransport (middleware.transport.shrinks_invalidate number), ?_⟩
          intro context runs
          by_cases same : context = number
          · exact .inr (congrArg some same.symm)
          · refine .inl ((middleware.transport.isValid_invalidate number context).trans ?_)
            rw [decide_eq_true same, Bool.true_and]
            exact runs
  | node slot => exact untouched _ (.refl middleware) rfl
  | publisher slot =>
      dsimp only
      unfold Middleware.finiPublisher
      rcases slot with _ | state <;> rcases nodeSlot parent with _ | _ | node
      · exact untouched _ failed rfl
      · exact untouched _ failed rfl
      · exact untouched _ (.refl middleware) rfl
      · exact untouched _ failed rfl
      · exact untouched _ failed rfl
      · exact untouched _ (middleware.shrinks_withTransport (middleware.transport.shrinks_dropPublisher _))
          (middleware.transport.contexts_dropPublisher _)
  | subscription slot =>
      dsimp only
      unfold Middleware.finiSubscription
      rcases slot with _ | state <;> rcases nodeSlot parent with _ | _ | node
      · exact untouched _ failed rfl
      · exact untouched _ failed rfl
      · exact untouched _ (.refl middleware) rfl
      · exact untouched _ failed rfl
      · exact untouched _ failed rfl
      · exact untouched _ (middleware.shrinks_withTransport (middleware.transport.shrinks_dropSubscriber _))
          (middleware.transport.contexts_dropSubscriber _)

theorem shrinks_release (forest : Forest Resource) (handle : Nat) (state : Middleware × Nat) :
    ({ session with forest, middleware := state.1, faults := state.2 } : Session).Shrinks
      (let (left, closed) := forest.release finalize handle state
      { session with forest := left, middleware := closed.1, faults := closed.2 }) := by
  -- By induction on the number of the handle: a parent has a smaller one.
  induction handle using Nat.strongRecOn generalizing forest state with
  | ind handle ih =>
      rw [Forest.release]
      cases found : forest.get? handle with
      | none => exact .refl _
      | some held =>
          dsimp only
          split
          · refine .of_fades ⟨?_, .refl _, .refl _, .refl _, .refl _, .refl _, id⟩ rfl rfl rfl
            refine forest.handles.fewer_modify handle (fun other there => ?_)
            cases found.symm.trans there
            rfl
          · let closed := finalize held (held.parent.bind forest.get?) state
            obtain ⟨shrinks, spares⟩ := shrinks_finalize held (held.parent.bind forest.get?) state
            have gone : Shrinks { session with forest, middleware := state.1, faults := state.2 }
                { session with
                  forest :=
                    { handles := forest.handles.erase handle
                      finalized := forest.finalized ++ [(handle, held)] }
                  middleware := closed.1
                  faults := closed.2 } :=
              { handles := forest.handles.fewer_erase handle
                nodes := .refl _
                subscriptions := .refl _
                contextNames := .refl _
                publisherNames := .refl _
                middleware := shrinks
                truthful := id
                next := rfl
                finalized := fun entry member => List.mem_append_left _ member
                recalls := fun entry member => (List.mem_append.1 member).imp_right (fun last => by
                  cases List.mem_singleton.1 last
                  exact ⟨held, found, rfl⟩)
                spares := fun context runs => (spares context runs).imp_right
                  (fun number => ⟨(handle, held), List.mem_append_right _ (List.mem_singleton_self _),
                    number⟩) }
            split
            · exact gone
            · split
              · rename_i parent _ older
                exact gone.trans (ih parent older _ closed)
              · exact gone

theorem shrinks_retainHandle (handle : Nat) : session.Shrinks (session.retainHandle handle) :=
  .of_fades ⟨session.forest.handles.fewer_modify handle (fun _ _ => rfl), .refl _, .refl _,
    .refl _, .refl _, .refl _, id⟩ rfl rfl rfl

theorem shrinks_releaseHandle (handle : Nat) : session.Shrinks (session.releaseHandle handle) :=
  session.shrinks_release session.forest handle (session.middleware, session.faults)

theorem shrinks_modifyNode (index : Nat) {change : NodeObject → NodeObject}
    (keeps : ∀ node, session.nodes.get? index = some node →
      (change node).handle = node.handle ∧ (change node).context = node.context) :
    session.Shrinks { session with nodes := session.nodes.modify index change } :=
  .of_fades ⟨.refl _, session.nodes.fewer_modify index
    (fun node there => Prod.ext (keeps node there).1 (keeps node there).2), .refl _, .refl _, .refl _,
    .refl _, id⟩ rfl rfl rfl

theorem shrinks_modifySubscription (index : Nat) {change : SubscriptionObject → SubscriptionObject}
    (keeps : ∀ held, session.subscriptions.get? index = some held →
      (change held).handle = held.handle ∧ (change held).kind = held.kind) :
    session.Shrinks { session with subscriptions := session.subscriptions.modify index change } :=
  .of_fades ⟨.refl _, .refl _, session.subscriptions.fewer_modify index
    (fun held there => Prod.ext (keeps held there).1 (keeps held there).2), .refl _, .refl _, .refl _,
    id⟩ rfl rfl rfl

theorem shrinks_releaseNode (index : Nat) : session.Shrinks (session.releaseNode index) := by
  unfold releaseNode
  cases found : session.nodes.get? index with
  | none => exact .refl session
  | some held =>
      dsimp only
      split
      · apply session.shrinks_modifyNode
        intro node there
        cases found.symm.trans there
        exact ⟨rfl, rfl⟩
      · have erased : session.Shrinks { session with nodes := session.nodes.erase index } :=
          .of_fades ⟨.refl _, session.nodes.fewer_erase index, .refl _, .refl _, .refl _, .refl _,
            id⟩ rfl rfl rfl
        exact (erased.trans (shrinks_releaseHandle _ _)).trans (shrinks_releaseHandle _ _)

theorem shrinks_releaseSubscription (index : Nat) :
    session.Shrinks (session.releaseSubscription index) := by
  unfold releaseSubscription
  cases found : session.subscriptions.get? index with
  | none => exact .refl session
  | some held =>
      dsimp only
      split
      · apply session.shrinks_modifySubscription
        intro other there
        cases found.symm.trans there
        exact ⟨rfl, rfl⟩
      · have erased : session.Shrinks
            { session with subscriptions := session.subscriptions.erase index } :=
          .of_fades ⟨.refl _, .refl _, session.subscriptions.fewer_erase index, .refl _, .refl _,
            .refl _, id⟩ rfl rfl rfl
        exact erased.trans (shrinks_releaseHandle _ _)

theorem shrinks_dropContext (name : String) : session.Shrinks (session.dropContext name) := by
  unfold dropContext
  split
  · exact .refl session
  · have erased : session.Shrinks
        { session with contextNames := session.contextNames.erase name } :=
      .of_fades ⟨.refl _, .refl _, .refl _, .of_fewer (session.contextNames.fewer_erase name), .refl _, .refl _,
        id⟩ rfl rfl rfl
    exact erased.trans (shrinks_releaseHandle _ _)

theorem shrinks_dropNode (name : String) : session.Shrinks (session.dropNode name) := by
  unfold dropNode
  split
  · exact .refl session
  · have erased : session.Shrinks { session with nodeNames := session.nodeNames.erase name } :=
      .of_fades ⟨.refl _, .refl _, .refl _, .refl _, .refl _, .refl _, id⟩ rfl rfl rfl
    exact erased.trans (shrinks_releaseNode _ _)

theorem shrinks_dropPublisher (name : String) : session.Shrinks (session.dropPublisher name) := by
  unfold dropPublisher
  split
  · exact .refl session
  · have erased : session.Shrinks
        { session with publisherNames := session.publisherNames.erase name } :=
      .of_fades ⟨.refl _, .refl _, .refl _, .refl _, session.publisherNames.fewer_erase name, .refl _,
        id⟩ rfl rfl rfl
    exact erased.trans (shrinks_releaseHandle _ _)

theorem shrinks_dropSubscription (name : String) :
    session.Shrinks (session.dropSubscription name) := by
  unfold dropSubscription
  split
  · exact .refl session
  · have erased : session.Shrinks
        { session with subscriptionNames := session.subscriptionNames.erase name } :=
      .of_fades ⟨.refl _, .refl _, .refl _, .refl _, .refl _, .refl _, id⟩ rfl rfl rfl
    exact erased.trans (shrinks_releaseSubscription _ _)

theorem shrinks_dropExecutor (name : String) : session.Shrinks (session.dropExecutor name) := by
  unfold dropExecutor
  split
  · exact .refl session
  · have erased : session.Shrinks { session with executors := session.executors.erase name } :=
      .of_fades ⟨.refl _, .refl _, .refl _, .refl _, .refl _, .refl _,
        fun truthful => ⟨truthful.answers, fun other executor raised found =>
          truthful.failures other executor raised (Table.get?_of_erase found)⟩⟩ rfl rfl rfl
    exact erased.trans (shrinks_releaseHandle _ _)

theorem shrinks_drop (sort : Owning) (name : String) : session.Shrinks (session.drop sort name) := by
  cases sort with
  | context => exact session.shrinks_dropContext name
  | node => exact session.shrinks_dropNode name
  | publisher => exact session.shrinks_dropPublisher name
  | subscription => exact session.shrinks_dropSubscription name

theorem shrinks_nameExecutor (name : String) {executor : Executor}
    (idle : executor.pool.failure = none) : session.Shrinks (session.nameExecutor name executor) :=
  have dropped := session.shrinks_dropExecutor name
  { dropped with
    truthful := fun truthful => (dropped.truthful truthful).set name (fun raised failed => by
      rw [idle] at failed
      cases failed) }

theorem shrinks_modifyExecutor (name : String) {change : Executor → Executor}
    (failure : ∀ executor raised, session.executors.get? name = some executor →
      (change executor).pool.failure = some raised →
        executor.pool.failure = some raised ∨ raised.Truthful) :
    session.Shrinks (session.modifyExecutor name change) := by
  refine .of_fades ⟨.refl _, .refl _, .refl _, .refl _, .refl _, .refl _, fun truthful => ?_⟩ rfl rfl rfl
  unfold Truthful modifyExecutor Table.modify
  cases found : session.executors.get? name with
  | none => exact truthful
  | some executor =>
      refine truthful.set name (fun raised failed => ?_)
      exact (failure executor raised found failed).elim (truthful.failures name executor raised found) id

theorem shrinks_calls {calls : List CallbackRun}
    (noted : ∀ run ∈ calls, ∀ answer ∈ run.answers,
      (∃ old ∈ session.calls, answer ∈ old.answers) ∨ PubSub.Truthful answer) :
    session.Shrinks { session with calls } := by
  refine .of_fades ⟨.refl _, .refl _, .refl _, .refl _, .refl _, .refl _,
    fun truthful => ⟨?_, truthful.failures⟩⟩ rfl rfl rfl
  intro run member answer told
  rcases noted run member answer told with ⟨old, there, same⟩ | fresh
  · exact truthful.answers old there answer same
  · exact fresh

theorem shrinks_noteMade (sort : Owning) (name : String) (handle : Nat) :
    session.Shrinks (session.noteMade sort name handle) :=
  .of_fades ⟨.refl _, .refl _, .refl _, .refl _, .refl _, .refl _, id⟩ rfl rfl rfl

theorem shrinks_nameContext (name : String) {handle : Nat}
    (known : AtHand session.contextNames session.nodes handle) : session.Shrinks (session.nameContext name handle) :=
  have dropped := session.shrinks_dropContext name
  { dropped with contextNames := dropped.contextNames.set known name }

theorem shrinks_namePublisher (name : String) {source : String} {publisher : PublisherObject}
    (found : session.publisherNames.get? source = some publisher) :
    session.Shrinks (session.namePublisher name publisher) :=
  have dropped := session.shrinks_dropPublisher name
  { dropped with publisherNames := dropped.publisherNames.set found name }

theorem shrinks_nameNode (name : String) (node : Nat) :
    session.Shrinks (session.nameNode name node) :=
  { session.shrinks_dropNode name with }

theorem shrinks_nameSubscription (name : String) (subscription : Nat) :
    session.Shrinks (session.nameSubscription name subscription) :=
  { session.shrinks_dropSubscription name with }

end Session

end PubSub
