import PubSub.Proofs.Ownership.Intact

/-!
Ownership in a session.  Handles are held by names, by executors, and by the objects of nodes and
subscriptions; these objects are held by names, and by those who keep them for a while.  Whatever else is in
hand enters as a list.
-/

namespace PubSub

mutual

/-- Whether an action leaves the release of resources to their handles, and so do the scripts in it. -/
def Action.orderly : Action → Bool
  | .finiNativeNode _ => false
  | .makeSubscription _ _ _ _ _ _ script => orderlyScript script
  | .work _ _ (some during) _ => orderlyAll during
  | _ => true

def orderlyScript : List (Guard × Action) → Bool
  | [] => true
  | (_, action) :: rest => action.orderly && orderlyScript rest

def orderlyAll : List Action → Bool
  | [] => true
  | action :: rest => action.orderly && orderlyAll rest

end

namespace Session

/-- How many hold a handle, apart from its children and those who have it in hand. -/
def handleHolders (session : Session) (handle : Nat) : Nat :=
  session.contextNames.total (fun owner => [owner].count handle) +
    session.executors.total (fun executor => [executor.context].count handle) +
    session.nodes.total (fun node => [node.handle].count handle + [node.context].count handle) +
    session.publisherNames.total (fun publisher => [publisher.handle].count handle) +
    session.subscriptions.total (fun subscription => [subscription.handle].count handle)

def nodeHolders (session : Session) (node : Nat) : Nat :=
  session.nodeNames.total (fun owner => [owner].count node)

def subscriptionHolders (session : Session) (subscription : Nat) : Nat :=
  session.subscriptionNames.total (fun owner => [owner].count subscription)

/-- Everything in a session has its owners, where some handles, nodes and subscriptions are in hand. -/
structure Owned (session : Session) (handles nodes subscriptions : List Nat) : Prop where
  intact : session.Intact
  handles : session.forest.Balanced
    (fun handle => session.handleHolders handle + handles.count handle)
  nodes : session.nodes.Owned NodeObject.owners
    (fun node => session.nodeHolders node + nodes.count node)
  subscriptions : session.subscriptions.Owned SubscriptionObject.owners
    (fun subscription =>
      session.subscriptionHolders subscription + subscriptions.count subscription)
  scripts : ∀ index held, session.subscriptions.get? index = some held →
    orderlyScript held.script = true

variable {session later : Session} {handles nodes subscriptions : List Nat}

theorem owned_empty : empty.Owned [] [] [] := by
  refine ⟨⟨Forest.recorded_empty, ?_, ?_, rfl⟩, Forest.balanced_empty (fun _ => rfl),
    Arena.owned_empty _ (fun _ => rfl), Arena.owned_empty _ (fun _ => rfl), ?_⟩
  · intro handle kind resource parent known
    cases known
  · have unnumbered : ∀ number? : Resource → Option Nat,
        Numbered (Forest.empty : Forest Resource) number? 0 := by
      intro number?
      refine ⟨fun index => ⟨fun early => absurd early (Nat.not_lt_zero index), ?_⟩, ?_⟩
      · rintro ⟨handle, content, known, _⟩
        cases known
      · intro index left right leftContent rightContent known
        cases known
    have absent : ∀ number? : Resource → Option Nat,
        Present (Forest.empty : Forest Resource) number? (fun _ => false) := by
      intro number? index
      constructor
      · intro there
        cases there
      · rintro ⟨handle, held, found, _⟩
        cases found
    exact ⟨unnumbered _, unnumbered _, unnumbered _, absent _, absent _, fun _ member => nomatch member⟩
  · intro index held found
    cases found

section Handles

variable {handle : Nat}

theorem Owned.exists_handle (owned : session.Owned handles nodes subscriptions)
    (held : 0 < session.handleHolders handle + handles.count handle) :
    ∃ state, session.forest.get? handle = some state :=
  (owned.handles.owned_iff handle).1 (by omega)

theorem Owned.retainHandle (owned : session.Owned handles nodes subscriptions)
    (present : ∃ state, session.forest.get? handle = some state) :
    (session.retainHandle handle).Owned (handle :: handles) nodes subscriptions := by
  refine ⟨owned.intact.retainHandle handle, ?_, owned.nodes, owned.subscriptions, owned.scripts⟩
  refine (owned.handles.retain handle present).congr (fun other => ?_)
  have same : (session.retainHandle handle).handleHolders other = session.handleHolders other := rfl
  rw [same, count_cons_eq handle other handles]
  omega

theorem Owned.releaseHandle (owned : session.Owned (handle :: handles) nodes subscriptions) :
    (session.releaseHandle handle).Owned handles nodes subscriptions := by
  have given : ∀ other, session.handleHolders other + (handle :: handles).count other =
      session.handleHolders other + handles.count other + [handle].count other := by
    intro other
    rw [count_cons_eq]
    omega
  obtain ⟨intact, balanced⟩ := owned.intact.releaseHandle handle owned.handles given
  exact ⟨intact, balanced, owned.nodes, owned.subscriptions, owned.scripts⟩

end Handles

section Objects

variable {index : Nat}

theorem Owned.modifyNode (owned : session.Owned handles nodes subscriptions) (index : Nat)
    (change : NodeObject → NodeObject) (handle : ∀ node, (change node).handle = node.handle)
    (context : ∀ node, (change node).context = node.context)
    (owners : ∀ node, (change node).owners = node.owners) :
    ({ session with nodes := session.nodes.modify index change } : Session).Owned
      handles nodes subscriptions := by
  refine ⟨⟨owned.intact.recorded, owned.intact.attached, owned.intact.native,
    owned.intact.faultless⟩, ?_, owned.nodes.modify index change owners, owned.subscriptions,
    owned.scripts⟩
  refine owned.handles.congr (fun other => ?_)
  unfold handleHolders
  dsimp only
  rw [Arena.total_modify_same]
  intro node _
  rw [handle, context]

theorem Owned.retainNode (owned : session.Owned handles nodes subscriptions)
    (present : ∃ node, session.nodes.get? index = some node) :
    (session.retainNode index).Owned handles (index :: nodes) subscriptions := by
  refine ⟨⟨owned.intact.recorded, owned.intact.attached, owned.intact.native,
    owned.intact.faultless⟩, ?_, ?_, owned.subscriptions, owned.scripts⟩
  · refine owned.handles.congr (fun other => ?_)
    unfold handleHolders Session.retainNode
    dsimp only
    rw [Arena.total_modify_same]
    intro node _
    rfl
  · refine (owned.nodes.add _ (fun _ => rfl) present).congr (fun other => ?_)
    have same : (session.retainNode index).nodeHolders other = session.nodeHolders other := rfl
    rw [same, count_cons_eq index other nodes]
    omega

theorem Owned.releaseNode (owned : session.Owned handles (index :: nodes) subscriptions) :
    (session.releaseNode index).Owned handles nodes subscriptions := by
  have given : ∀ other, session.nodeHolders other + (index :: nodes).count other =
      session.nodeHolders other + nodes.count other + [index].count other := by
    intro other
    rw [count_cons_eq]
    omega
  obtain ⟨held, found⟩ := owned.nodes.present given
  unfold Session.releaseNode
  rw [found]
  by_cases more : 1 < held.owners
  · simp only [if_pos more]
    refine ⟨⟨owned.intact.recorded, owned.intact.attached, owned.intact.native,
      owned.intact.faultless⟩, ?_, ?_, owned.subscriptions, owned.scripts⟩
    · refine owned.handles.congr (fun other => ?_)
      unfold handleHolders
      dsimp only
      rw [Arena.total_modify_same]
      intro node there
      rw [found, Option.some.injEq] at there
      rw [there]
    · exact owned.nodes.decrement given found more
        (fun _ => { held with owners := held.owners - 1 }) rfl
  · simp only [if_neg more]
    have left : ({ session with nodes := session.nodes.erase index } : Session).Owned
        (held.handle :: held.context :: handles) nodes subscriptions := by
      refine ⟨⟨owned.intact.recorded, owned.intact.attached, owned.intact.native,
        owned.intact.faultless⟩, ?_, owned.nodes.erase given found more, owned.subscriptions,
        owned.scripts⟩
      refine owned.handles.congr (fun other => ?_)
      have erased := session.nodes.total_erase index
        (fun node => [node.handle].count other + [node.context].count other)
      rw [found, Option.elim_some] at erased
      unfold handleHolders
      dsimp only
      rw [count_cons_eq held.handle, count_cons_eq held.context]
      omega
    exact left.releaseHandle.releaseHandle

theorem Owned.modifySubscription (owned : session.Owned handles nodes subscriptions) (index : Nat)
    (change : SubscriptionObject → SubscriptionObject)
    (handle : ∀ subscription, (change subscription).handle = subscription.handle)
    (script : ∀ subscription, (change subscription).script = subscription.script)
    (owners : ∀ subscription, (change subscription).owners = subscription.owners) :
    ({ session with
        subscriptions := session.subscriptions.modify index change } : Session).Owned
      handles nodes subscriptions := by
  refine ⟨⟨owned.intact.recorded, owned.intact.attached, owned.intact.native,
    owned.intact.faultless⟩, ?_, owned.nodes, owned.subscriptions.modify index change owners, ?_⟩
  · refine owned.handles.congr (fun other => ?_)
    unfold handleHolders
    dsimp only
    rw [Arena.total_modify_same]
    intro subscription _
    rw [handle]
  · intro other held found
    rw [Arena.get?_modify] at found
    by_cases same : other = index
    · rw [if_pos same, Option.map_eq_some_iff] at found
      obtain ⟨before, there, rfl⟩ := found
      rw [script]
      exact owned.scripts index before there
    · rw [if_neg same] at found
      exact owned.scripts other held found

theorem Owned.retainSubscription (owned : session.Owned handles nodes subscriptions)
    (present : ∃ subscription, session.subscriptions.get? index = some subscription) :
    (session.retainSubscription index).Owned handles nodes (index :: subscriptions) := by
  refine ⟨⟨owned.intact.recorded, owned.intact.attached, owned.intact.native,
    owned.intact.faultless⟩, ?_, owned.nodes, ?_, ?_⟩
  · refine owned.handles.congr (fun other => ?_)
    unfold handleHolders Session.retainSubscription
    dsimp only
    rw [Arena.total_modify_same]
    intro subscription _
    rfl
  · refine (owned.subscriptions.add _ (fun _ => rfl) present).congr (fun other => ?_)
    have same : (session.retainSubscription index).subscriptionHolders other =
        session.subscriptionHolders other := rfl
    rw [same, count_cons_eq index other subscriptions]
    omega
  · intro other held found
    unfold Session.retainSubscription at found
    rw [Arena.get?_modify] at found
    by_cases same : other = index
    · rw [if_pos same, Option.map_eq_some_iff] at found
      obtain ⟨before, there, rfl⟩ := found
      exact owned.scripts index before there
    · rw [if_neg same] at found
      exact owned.scripts other held found

theorem Owned.releaseSubscription
    (owned : session.Owned handles nodes (index :: subscriptions)) :
    (session.releaseSubscription index).Owned handles nodes subscriptions := by
  have given : ∀ other, session.subscriptionHolders other + (index :: subscriptions).count other =
      session.subscriptionHolders other + subscriptions.count other + [index].count other := by
    intro other
    rw [count_cons_eq]
    omega
  obtain ⟨held, found⟩ := owned.subscriptions.present given
  unfold Session.releaseSubscription
  rw [found]
  by_cases more : 1 < held.owners
  · simp only [if_pos more]
    refine ⟨⟨owned.intact.recorded, owned.intact.attached, owned.intact.native,
      owned.intact.faultless⟩, ?_, owned.nodes, ?_, ?_⟩
    · refine owned.handles.congr (fun other => ?_)
      unfold handleHolders
      dsimp only
      rw [Arena.total_modify_same]
      intro subscription there
      rw [found, Option.some.injEq] at there
      rw [there]
    · exact owned.subscriptions.decrement given found more
        (fun _ => { held with owners := held.owners - 1 }) rfl
    · intro other state there
      rw [Arena.get?_modify] at there
      by_cases same : other = index
      · rw [if_pos same, found, Option.map_some, Option.some.injEq] at there
        subst state
        exact owned.scripts index held found
      · rw [if_neg same] at there
        exact owned.scripts other state there
  · simp only [if_neg more]
    have left : ({ session with
        subscriptions := session.subscriptions.erase index } : Session).Owned
        (held.handle :: handles) nodes subscriptions := by
      refine ⟨⟨owned.intact.recorded, owned.intact.attached, owned.intact.native,
        owned.intact.faultless⟩, ?_, owned.nodes, owned.subscriptions.erase given found more, ?_⟩
      · refine owned.handles.congr (fun other => ?_)
        have erased := session.subscriptions.total_erase index
          (fun subscription => [subscription.handle].count other)
        rw [found, Option.elim_some] at erased
        unfold handleHolders
        dsimp only
        rw [count_cons_eq held.handle]
        omega
      · intro other state there
        rw [Arena.get?_erase] at there
        by_cases same : other = index
        · rw [if_pos same] at there
          cases there
        · rw [if_neg same] at there
          exact owned.scripts other state there
    exact left.releaseHandle

end Objects

theorem Owned.shift (owned : session.Owned handles nodes subscriptions)
    {handles' nodes' subscriptions' : List Nat} (forest : later.forest = session.forest)
    (middleware : later.middleware = session.middleware) (faults : later.faults = session.faults)
    (sameNodes : later.nodes = session.nodes)
    (sameSubscriptions : later.subscriptions = session.subscriptions)
    (handle : ∀ other, session.handleHolders other + handles.count other =
      later.handleHolders other + handles'.count other)
    (node : ∀ other, session.nodeHolders other + nodes.count other =
      later.nodeHolders other + nodes'.count other)
    (subscription : ∀ other, session.subscriptionHolders other + subscriptions.count other =
      later.subscriptionHolders other + subscriptions'.count other) :
    later.Owned handles' nodes' subscriptions' := by
  constructor
  · refine ⟨?_, ?_, ?_, faults.trans owned.intact.faultless⟩
    · rw [forest]
      exact owned.intact.recorded
    · rw [forest]
      exact owned.intact.attached
    · rw [forest, middleware]
      exact owned.intact.native
  · rw [forest]
    exact owned.handles.congr handle
  · rw [sameNodes]
    exact owned.nodes.congr node
  · rw [sameSubscriptions]
    exact owned.subscriptions.congr subscription
  · rw [sameSubscriptions]
    exact owned.scripts

theorem Owned.dropContext (owned : session.Owned handles nodes subscriptions) (name : String) :
    (session.dropContext name).Owned handles nodes subscriptions := by
  unfold Session.dropContext
  cases found : session.contextNames.get? name with
  | none => exact owned
  | some handle =>
      apply Owned.releaseHandle
      refine owned.shift rfl rfl rfl rfl rfl (fun other => ?_) (fun _ => rfl) (fun _ => rfl)
      have erased := session.contextNames.total_erase name (fun owner => [owner].count other)
      rw [found, Option.elim_some] at erased
      rw [count_cons_eq handle]
      unfold handleHolders
      dsimp only
      omega

theorem contextNames_dropContext (session : Session) (name : String) :
    (session.dropContext name).contextNames.get? name = none := by
  unfold Session.dropContext
  cases found : session.contextNames.get? name with
  | none => exact found
  | some handle => exact (session.contextNames.get?_erase name name).trans (if_pos rfl)

theorem Owned.nameContext {handle : Nat} (owned : session.Owned (handle :: handles) nodes subscriptions)
    (name : String) : (session.nameContext name handle).Owned handles nodes subscriptions := by
  refine (owned.dropContext name).shift rfl rfl rfl rfl rfl (fun other => ?_) (fun _ => rfl)
    (fun _ => rfl)
  have set := Table.total_set_free _ (session.contextNames_dropContext name) handle
    (fun owner => [owner].count other)
  rw [count_cons_eq handle]
  unfold handleHolders Session.nameContext
  dsimp only
  omega

@[simp] theorem nodeNames_releaseNode (session : Session) (node : Nat) :
    (session.releaseNode node).nodeNames = session.nodeNames := by
  unfold releaseNode
  split
  · rfl
  · split <;> rfl

theorem Owned.dropNode (owned : session.Owned handles nodes subscriptions) (name : String) :
    (session.dropNode name).Owned handles nodes subscriptions := by
  unfold Session.dropNode
  cases found : session.nodeNames.get? name with
  | none => exact owned
  | some node =>
      apply Owned.releaseNode
      refine owned.shift rfl rfl rfl rfl rfl (fun _ => rfl) (fun other => ?_) (fun _ => rfl)
      have erased := session.nodeNames.total_erase name (fun owner => [owner].count other)
      rw [found, Option.elim_some] at erased
      rw [count_cons_eq node]
      unfold nodeHolders
      dsimp only
      omega

theorem nodeNames_dropNode (session : Session) (name : String) :
    (session.dropNode name).nodeNames.get? name = none := by
  unfold Session.dropNode
  cases found : session.nodeNames.get? name with
  | none => exact found
  | some node =>
      dsimp only
      rw [nodeNames_releaseNode]
      exact (session.nodeNames.get?_erase name name).trans (if_pos rfl)

theorem Owned.nameNode {node : Nat} (owned : session.Owned handles (node :: nodes) subscriptions)
    (name : String) : (session.nameNode name node).Owned handles nodes subscriptions := by
  refine (owned.dropNode name).shift rfl rfl rfl rfl rfl (fun _ => rfl) (fun other => ?_)
    (fun _ => rfl)
  have set := Table.total_set_free _ (session.nodeNames_dropNode name) node
    (fun owner => [owner].count other)
  rw [count_cons_eq node]
  unfold nodeHolders Session.nameNode
  dsimp only
  omega

theorem Owned.dropPublisher (owned : session.Owned handles nodes subscriptions) (name : String) :
    (session.dropPublisher name).Owned handles nodes subscriptions := by
  unfold Session.dropPublisher
  cases found : session.publisherNames.get? name with
  | none => exact owned
  | some publisher =>
      apply Owned.releaseHandle
      refine owned.shift rfl rfl rfl rfl rfl (fun other => ?_) (fun _ => rfl) (fun _ => rfl)
      have erased := session.publisherNames.total_erase name (fun held => [held.handle].count other)
      rw [found, Option.elim_some] at erased
      rw [count_cons_eq publisher.handle]
      unfold handleHolders
      dsimp only
      omega

theorem publisherNames_dropPublisher (session : Session) (name : String) :
    (session.dropPublisher name).publisherNames.get? name = none := by
  unfold Session.dropPublisher
  cases found : session.publisherNames.get? name with
  | none => exact found
  | some publisher => exact (session.publisherNames.get?_erase name name).trans (if_pos rfl)

theorem Owned.namePublisher {publisher : PublisherObject}
    (owned : session.Owned (publisher.handle :: handles) nodes subscriptions) (name : String) :
    (session.namePublisher name publisher).Owned handles nodes subscriptions := by
  refine (owned.dropPublisher name).shift rfl rfl rfl rfl rfl (fun other => ?_) (fun _ => rfl)
    (fun _ => rfl)
  have set := Table.total_set_free _ (session.publisherNames_dropPublisher name) publisher
    (fun held => [held.handle].count other)
  rw [count_cons_eq publisher.handle]
  unfold handleHolders Session.namePublisher
  dsimp only
  omega

@[simp] theorem subscriptionNames_releaseSubscription (session : Session) (subscription : Nat) :
    (session.releaseSubscription subscription).subscriptionNames = session.subscriptionNames := by
  unfold releaseSubscription
  split
  · rfl
  · split <;> rfl

theorem Owned.dropSubscription (owned : session.Owned handles nodes subscriptions) (name : String) :
    (session.dropSubscription name).Owned handles nodes subscriptions := by
  unfold Session.dropSubscription
  cases found : session.subscriptionNames.get? name with
  | none => exact owned
  | some subscription =>
      apply Owned.releaseSubscription
      refine owned.shift rfl rfl rfl rfl rfl (fun _ => rfl) (fun _ => rfl) (fun other => ?_)
      have erased := session.subscriptionNames.total_erase name (fun owner => [owner].count other)
      rw [found, Option.elim_some] at erased
      rw [count_cons_eq subscription]
      unfold subscriptionHolders
      dsimp only
      omega

theorem subscriptionNames_dropSubscription (session : Session) (name : String) :
    (session.dropSubscription name).subscriptionNames.get? name = none := by
  unfold Session.dropSubscription
  cases found : session.subscriptionNames.get? name with
  | none => exact found
  | some subscription =>
      dsimp only
      rw [subscriptionNames_releaseSubscription]
      exact (session.subscriptionNames.get?_erase name name).trans (if_pos rfl)

theorem Owned.nameSubscription {subscription : Nat}
    (owned : session.Owned handles nodes (subscription :: subscriptions)) (name : String) :
    (session.nameSubscription name subscription).Owned handles nodes subscriptions := by
  refine (owned.dropSubscription name).shift rfl rfl rfl rfl rfl (fun _ => rfl) (fun _ => rfl)
    (fun other => ?_)
  have set := Table.total_set_free _ (session.subscriptionNames_dropSubscription name) subscription
    (fun owner => [owner].count other)
  rw [count_cons_eq subscription]
  unfold subscriptionHolders Session.nameSubscription
  dsimp only
  omega

theorem Owned.dropExecutor (owned : session.Owned handles nodes subscriptions) (name : String) :
    (session.dropExecutor name).Owned handles nodes subscriptions := by
  unfold Session.dropExecutor
  cases found : session.executors.get? name with
  | none => exact owned
  | some executor =>
      apply Owned.releaseHandle
      refine owned.shift rfl rfl rfl rfl rfl (fun other => ?_) (fun _ => rfl) (fun _ => rfl)
      have erased := session.executors.total_erase name (fun held => [held.context].count other)
      rw [found, Option.elim_some] at erased
      rw [count_cons_eq executor.context]
      unfold handleHolders
      dsimp only
      omega

theorem executors_dropExecutor (session : Session) (name : String) :
    (session.dropExecutor name).executors.get? name = none := by
  unfold Session.dropExecutor
  cases found : session.executors.get? name with
  | none => exact found
  | some executor => exact (session.executors.get?_erase name name).trans (if_pos rfl)

theorem Owned.nameExecutor {executor : Executor}
    (owned : session.Owned (executor.context :: handles) nodes subscriptions) (name : String) :
    (session.nameExecutor name executor).Owned handles nodes subscriptions := by
  refine (owned.dropExecutor name).shift rfl rfl rfl rfl rfl (fun other => ?_) (fun _ => rfl)
    (fun _ => rfl)
  have set := Table.total_set_free _ (session.executors_dropExecutor name) executor
    (fun held => [held.context].count other)
  rw [count_cons_eq executor.context]
  unfold handleHolders Session.nameExecutor
  dsimp only
  omega

theorem Owned.modifyExecutor (owned : session.Owned handles nodes subscriptions) (name : String)
    (change : Executor → Executor) (context : ∀ executor, (change executor).context = executor.context) :
    (session.modifyExecutor name change).Owned handles nodes subscriptions := by
  refine owned.shift rfl rfl rfl rfl rfl (fun other => ?_) (fun _ => rfl) (fun _ => rfl)
  unfold handleHolders Session.modifyExecutor
  dsimp only
  rw [Table.total_modify_same]
  intro executor _
  rw [context]

theorem Owned.drop (owned : session.Owned handles nodes subscriptions) (sort : Owning)
    (name : String) : (session.drop sort name).Owned handles nodes subscriptions := by
  cases sort with
  | context => exact owned.dropContext name
  | node => exact owned.dropNode name
  | publisher => exact owned.dropPublisher name
  | subscription => exact owned.dropSubscription name

theorem Owned.insertNode {handle context : Nat}
    (owned : session.Owned (handle :: context :: handles) nodes subscriptions) :
    ({ session with
        nodes := (session.nodes.insert
          { handle, context, subscriptions := [], owners := 1 }).2 } : Session).Owned
      handles (session.nodes.next :: nodes) subscriptions := by
  refine ⟨⟨owned.intact.recorded, owned.intact.attached, owned.intact.native,
    owned.intact.faultless⟩, ?_, ?_, owned.subscriptions, owned.scripts⟩
  · refine owned.handles.congr (fun other => ?_)
    have inserted := session.nodes.total_insert { handle, context, subscriptions := [], owners := 1 }
      (fun node => [node.handle].count other + [node.context].count other)
    rw [count_cons_eq handle, count_cons_eq context]
    unfold handleHolders
    dsimp only at inserted ⊢
    omega
  · refine (owned.nodes.insert _ rfl).congr (fun other => ?_)
    have same : ({ session with
        nodes := (session.nodes.insert
          { handle, context, subscriptions := [], owners := 1 }).2 } : Session).nodeHolders other =
      session.nodeHolders other := rfl
    rw [same, count_cons_eq session.nodes.next other nodes]
    omega

theorem Owned.insertSubscription {held : SubscriptionObject} (one : held.owners = 1)
    (script : orderlyScript held.script = true)
    (owned : session.Owned (held.handle :: handles) nodes subscriptions) :
    ({ session with subscriptions := (session.subscriptions.insert held).2 } : Session).Owned
      handles nodes (session.subscriptions.next :: subscriptions) := by
  refine ⟨⟨owned.intact.recorded, owned.intact.attached, owned.intact.native,
    owned.intact.faultless⟩, ?_, owned.nodes, ?_, ?_⟩
  · refine owned.handles.congr (fun other => ?_)
    have inserted := session.subscriptions.total_insert held
      (fun subscription => [subscription.handle].count other)
    rw [count_cons_eq held.handle]
    unfold handleHolders
    dsimp only at inserted ⊢
    omega
  · refine (owned.subscriptions.insert held one).congr (fun other => ?_)
    have same : ({ session with
        subscriptions := (session.subscriptions.insert held).2 } : Session).subscriptionHolders other =
      session.subscriptionHolders other := rfl
    rw [same, count_cons_eq session.subscriptions.next other subscriptions]
    omega
  · intro other state found
    rw [Arena.get?_insert] at found
    by_cases new : other = session.subscriptions.next
    · rw [if_pos new, Option.some.injEq] at found
      rw [← found]
      exact script
    · rw [if_neg new] at found
      exact owned.scripts other state found

theorem Owned.quiet (owned : session.Owned handles nodes subscriptions) {middleware : Middleware}
    (quiet : Quiet session.middleware.transport middleware.transport) :
    ({ session with middleware } : Session).Owned handles nodes subscriptions :=
  ⟨⟨owned.intact.recorded, owned.intact.attached, owned.intact.native.quiet quiet,
    owned.intact.faultless⟩, owned.handles, owned.nodes, owned.subscriptions, owned.scripts⟩

end Session

end PubSub
