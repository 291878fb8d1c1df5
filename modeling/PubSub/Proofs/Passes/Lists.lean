import Mathlib.Data.List.Nodup
import PubSub.Proofs.Client.Linked

/-!
The lists of nodes.  A subscription is put on the list of its node when it is made, at most once, and on no other list
ever; from there on it can only leave.  Each subscription has a handle of its own.
-/

namespace PubSub

namespace Session

variable {session before between after : Session} {handles nodes subscriptions : List Nat}

def Lists (session : Session) (node index : Nat) : Prop :=
  ∃ held, session.nodes.get? node = some held ∧ index ∈ held.subscriptions

/-- No list has got longer: nodes have what they had, in its order, or are new and have nothing. -/
structure Thins (before after : Session) : Prop where
  numbers : before.subscriptions.next ≤ after.subscriptions.next
  lists : ∀ node held, after.nodes.get? node = some held →
    held.subscriptions = [] ∨
      ∃ old, before.nodes.get? node = some old ∧ held.subscriptions.Sublist old.subscriptions

theorem Thins.refl (session : Session) : session.Thins session :=
  ⟨Nat.le_refl _, fun _ held found => .inr ⟨held, found, List.Sublist.refl _⟩⟩

theorem Thins.trans (early : before.Thins between) (late : between.Thins after) : before.Thins after := by
  refine ⟨early.numbers.trans late.numbers, fun node held found => ?_⟩
  rcases late.lists node held found with none | ⟨middle, there, fewer⟩
  · exact .inl none
  · rcases early.lists node middle there with none | ⟨old, present, more⟩
    · rw [none] at fewer
      exact .inl (List.sublist_nil.1 fewer)
    · exact .inr ⟨old, present, fewer.trans more⟩

theorem Thins.of_eq (nodes : after.nodes = before.nodes)
    (numbers : before.subscriptions.next ≤ after.subscriptions.next) : before.Thins after := by
  refine ⟨numbers, fun node held found => .inr ⟨held, ?_, List.Sublist.refl _⟩⟩
  rw [← nodes]
  exact found

theorem thins_foldl {Item : Type} (items : List Item) {change : Session → Item → Session}
    (thins : ∀ (session : Session) item, session.Thins (change session item)) (session : Session) :
    session.Thins (items.foldl change session) := by
  induction items generalizing session with
  | nil => exact .refl session
  | cons item rest ih => exact (thins session item).trans (ih _)

theorem thins_modifyNode (session : Session) (index : Nat) {change : NodeObject → NodeObject}
    (shorter : ∀ node, session.nodes.get? index = some node →
      (change node).subscriptions.Sublist node.subscriptions) :
    session.Thins { session with nodes := session.nodes.modify index change } := by
  refine ⟨Nat.le_refl _, fun node held found => ?_⟩
  have modified := session.nodes.get?_modify index node change
  rw [show (session.nodes.modify index change).get? node = some held from found] at modified
  by_cases same : node = index
  · rw [if_pos same] at modified
    obtain ⟨old, there, rfl⟩ := Option.map_eq_some_iff.1 modified.symm
    rw [same]
    exact .inr ⟨old, there, shorter old there⟩
  · rw [if_neg same] at modified
    exact .inr ⟨held, modified.symm, List.Sublist.refl _⟩

theorem thins_releaseHandle (session : Session) (handle : Nat) :
    session.Thins (session.releaseHandle handle) :=
  .of_eq rfl (Nat.le_refl _)

theorem thins_releaseNode (session : Session) (index : Nat) :
    session.Thins (session.releaseNode index) := by
  unfold releaseNode
  cases found : session.nodes.get? index with
  | none => exact .refl session
  | some held =>
      dsimp only
      split
      · apply session.thins_modifyNode
        intro node there
        cases found.symm.trans there
        exact List.Sublist.refl _
      · have erased : session.Thins { session with nodes := session.nodes.erase index } := by
          refine ⟨Nat.le_refl _, fun node old there => ?_⟩
          exact .inr ⟨old, Table.get?_of_erase there, List.Sublist.refl _⟩
        exact (erased.trans (thins_releaseHandle _ _)).trans (thins_releaseHandle _ _)

theorem thins_releaseSubscription (session : Session) (index : Nat) :
    session.Thins (session.releaseSubscription index) := by
  unfold releaseSubscription
  split
  · exact .refl session
  · split
    · exact .of_eq rfl (Nat.le_refl _)
    · exact .of_eq rfl (Nat.le_refl _)

theorem thins_dropContext (session : Session) (name : String) : session.Thins (session.dropContext name) := by
  unfold dropContext
  split
  · exact .refl session
  · exact .of_eq rfl (Nat.le_refl _)

theorem thins_dropNode (session : Session) (name : String) : session.Thins (session.dropNode name) := by
  unfold dropNode
  split
  · exact .refl session
  · have erased : session.Thins { session with nodeNames := session.nodeNames.erase name } :=
      .of_eq rfl (Nat.le_refl _)
    exact erased.trans (thins_releaseNode _ _)

theorem thins_dropPublisher (session : Session) (name : String) :
    session.Thins (session.dropPublisher name) := by
  unfold dropPublisher
  split
  · exact .refl session
  · exact .of_eq rfl (Nat.le_refl _)

theorem thins_dropSubscription (session : Session) (name : String) :
    session.Thins (session.dropSubscription name) := by
  unfold dropSubscription
  split
  · exact .refl session
  · have erased : session.Thins
        { session with subscriptionNames := session.subscriptionNames.erase name } :=
      .of_eq rfl (Nat.le_refl _)
    exact erased.trans (thins_releaseSubscription _ _)

theorem thins_dropExecutor (session : Session) (name : String) :
    session.Thins (session.dropExecutor name) := by
  unfold dropExecutor
  split
  · exact .refl session
  · exact .of_eq rfl (Nat.le_refl _)

theorem thins_drop (session : Session) (sort : Owning) (name : String) :
    session.Thins (session.drop sort name) := by
  cases sort with
  | context => exact session.thins_dropContext name
  | node => exact session.thins_dropNode name
  | publisher => exact session.thins_dropPublisher name
  | subscription => exact session.thins_dropSubscription name

structure Enlists (before after : Session) : Prop where
  numbers : after.subscriptions.next = before.subscriptions.next + 1
  lists : ∃ home, ∀ node held, after.nodes.get? node = some held →
    ∃ old, before.nodes.get? node = some old ∧
      (held.subscriptions = old.subscriptions ∨
        node = home ∧ held.subscriptions = old.subscriptions ++ [before.subscriptions.next])

structure Relists (before after : Session) : Prop where
  numbers : before.subscriptions.next ≤ after.subscriptions.next
  known : ∀ node index, index < before.subscriptions.next → after.Lists node index → before.Lists node index

theorem Relists.refl (session : Session) : session.Relists session :=
  ⟨Nat.le_refl _, fun _ _ _ => id⟩

theorem Relists.trans (early : before.Relists between) (late : between.Relists after) :
    before.Relists after := by
  refine ⟨early.numbers.trans late.numbers, fun node index old lists => ?_⟩
  exact early.known node index old (late.known node index (Nat.lt_of_lt_of_le old early.numbers) lists)

theorem Thins.known (thins : before.Thins after) {node index : Nat} (lists : after.Lists node index) :
    before.Lists node index := by
  obtain ⟨held, found, member⟩ := lists
  rcases thins.lists node held found with none | ⟨old, there, fewer⟩
  · rw [none] at member
    cases member
  · exact ⟨old, there, fewer.subset member⟩

theorem Thins.relists (thins : before.Thins after) : before.Relists after :=
  ⟨thins.numbers, fun _ _ _ => thins.known⟩

/-- What is listed after a subscription was made is that subscription, or was listed before. -/
theorem Enlists.known (enlists : before.Enlists after) {node index : Nat} (lists : after.Lists node index) :
    index = before.subscriptions.next ∨ before.Lists node index := by
  obtain ⟨held, found, member⟩ := lists
  obtain ⟨home, changed⟩ := enlists.lists
  obtain ⟨old, there, same | ⟨-, added⟩⟩ := changed node held found
  · exact .inr ⟨old, there, same ▸ member⟩
  · rw [added] at member
    rcases List.mem_append.1 member with before | new
    · exact .inr ⟨old, there, before⟩
    · exact .inl (List.mem_singleton.1 new)

theorem Enlists.relists (enlists : before.Enlists after) : before.Relists after := by
  refine ⟨by rw [enlists.numbers]; exact Nat.le_succ _, fun node index old lists => ?_⟩
  rcases enlists.known lists with new | listed
  · exact absurd new (Nat.ne_of_lt old)
  · exact listed

/-- Every subscription is listed once at most, by one node at most. -/
structure Enlisted (session : Session) : Prop where
  once : ∀ node held, session.nodes.get? node = some held → held.subscriptions.Nodup
  made : ∀ node index, session.Lists node index → index < session.subscriptions.next
  home : ∀ first second index, session.Lists first index → session.Lists second index → first = second

def Ordered (session : Session) : Prop :=
  ∀ node held, session.nodes.get? node = some held → held.subscriptions.Pairwise (· < ·)

def Apart (session : Session) : Prop :=
  ∀ first second held other, session.subscriptions.get? first = some held →
    session.subscriptions.get? second = some other → held.handle = other.handle → first = second

theorem enlisted_empty : empty.Enlisted where
  once := by intro node held found; cases found
  made := by rintro node index ⟨held, found, -⟩; cases found
  home := by rintro first second index ⟨held, found, -⟩; cases found

theorem Enlisted.thins (enlisted : before.Enlisted) (thins : before.Thins after) : after.Enlisted where
  once := by
    intro node held found
    rcases thins.lists node held found with none | ⟨old, there, fewer⟩
    · rw [none]
      exact List.nodup_nil
    · exact (enlisted.once node old there).sublist fewer
  made := by
    intro node index lists
    exact Nat.lt_of_lt_of_le (enlisted.made node index (thins.known lists)) thins.numbers
  home := by
    intro first second index here there
    exact enlisted.home first second index (thins.known here) (thins.known there)

theorem Ordered.thins (ordered : before.Ordered) (thins : before.Thins after) : after.Ordered := by
  intro node held found
  rcases thins.lists node held found with none | ⟨old, there, fewer⟩
  · rw [none]
    exact List.Pairwise.nil
  · exact (ordered node old there).sublist fewer

theorem Ordered.enlists (ordered : before.Ordered) (enlisted : before.Enlisted) (enlists : before.Enlists after) :
    after.Ordered := by
  intro node held found
  obtain ⟨_, changed⟩ := enlists.lists
  obtain ⟨old, there, same | ⟨-, added⟩⟩ := changed node held found
  · rw [same]
    exact ordered node old there
  · rw [added, List.pairwise_append]
    refine ⟨ordered node old there, List.pairwise_singleton _ _, fun index listed new member => ?_⟩
    rw [List.mem_singleton.1 member]
    exact enlisted.made node index ⟨old, there, listed⟩

theorem Enlisted.enlists (enlisted : before.Enlisted) (enlists : before.Enlists after) :
    after.Enlisted where
  once := by
    intro node held found
    obtain ⟨home, changed⟩ := enlists.lists
    obtain ⟨old, there, same | ⟨-, added⟩⟩ := changed node held found
    · rw [same]
      exact enlisted.once node old there
    · rw [added]
      refine (enlisted.once node old there).append (List.nodup_singleton _) ?_
      intro index listed new
      have early := enlisted.made node index ⟨old, there, listed⟩
      rw [List.mem_singleton.1 new] at early
      exact Nat.lt_irrefl _ early
  made := by
    intro node index lists
    rw [enlists.numbers]
    rcases enlists.known lists with new | listed
    · omega
    · have early := enlisted.made node index listed
      omega
  home := by
    intro first second index here there
    by_cases new : index = before.subscriptions.next
    · -- A new number is where it was put.
      obtain ⟨home, changed⟩ := enlists.lists
      have put : ∀ node, after.Lists node index → node = home := by
        rintro node ⟨held, found, member⟩
        obtain ⟨old, present, same | ⟨atHome, -⟩⟩ := changed node held found
        · rw [same, new] at member
          exact absurd (enlisted.made node _ ⟨old, present, member⟩) (Nat.lt_irrefl _)
        · exact atHome
      rw [put first here, put second there]
    · exact enlisted.home first second index ((enlists.known here).resolve_left new)
        ((enlists.known there).resolve_left new)

theorem Apart.fades (apart : before.Apart) (fades : before.Fades after) : after.Apart := by
  intro first second held other here there same
  obtain ⟨old, early, its⟩ := fades.subscriptions first held here
  obtain ⟨elder, late, theirs⟩ := fades.subscriptions second other there
  exact apart first second old elder early late
    ((congrArg Prod.fst its).trans (same.trans (congrArg Prod.fst theirs).symm))

theorem thins_nameContext (session : Session) (name : String) (handle : Nat) :
    session.Thins (session.nameContext name handle) :=
  (session.thins_dropContext name).trans (.of_eq rfl (Nat.le_refl _))

theorem thins_nameNode (session : Session) (name : String) (node : Nat) :
    session.Thins (session.nameNode name node) :=
  (session.thins_dropNode name).trans (.of_eq rfl (Nat.le_refl _))

theorem thins_namePublisher (session : Session) (name : String) (publisher : PublisherObject) :
    session.Thins (session.namePublisher name publisher) :=
  (session.thins_dropPublisher name).trans (.of_eq rfl (Nat.le_refl _))

theorem thins_nameSubscription (session : Session) (name : String) (subscription : Nat) :
    session.Thins (session.nameSubscription name subscription) :=
  (session.thins_dropSubscription name).trans (.of_eq rfl (Nat.le_refl _))

theorem thins_nameExecutor (session : Session) (name : String) (executor : Executor) :
    session.Thins (session.nameExecutor name executor) :=
  (session.thins_dropExecutor name).trans (.of_eq rfl (Nat.le_refl _))

theorem thins_insertNode (session : Session) (made : NodeObject) (none : made.subscriptions = []) :
    session.Thins { session with nodes := (session.nodes.insert made).2 } := by
  refine ⟨Nat.le_refl _, fun node held found => ?_⟩
  rcases Arena.of_get?_insert found with new | there
  · exact .inl (new ▸ none)
  · exact .inr ⟨held, there, List.Sublist.refl _⟩

theorem enlists_subscriptionMade (session : Session) (name : String) (topic : Bytes) (kind : MessageKind)
    (registered : Bool) (script : Script) (index node : Nat) (state : SubscriptionState)
    (middleware : Middleware) :
    ∃ middle, session.Enlists middle ∧ middle.Thins
      (session.subscriptionMade name topic kind registered script index node state middleware) := by
  have named (known : Session) (sort : Owning) (made subscription : Nat) :
      known.Thins ((known.nameSubscription name subscription).noteMade sort name made) :=
    (known.thins_nameSubscription name subscription).trans (.of_eq rfl (Nat.le_refl _))
  cases registered with
  | false =>
      refine ⟨_, ⟨rfl, 0, ?_⟩, named _ _ _ _⟩
      intro other held found
      exact ⟨held, found, .inl rfl⟩
  | true =>
      refine ⟨_, ⟨rfl, index, ?_⟩, named _ _ _ _⟩
      intro other held found
      have modified := session.nodes.get?_modify index other
        (fun old => { old with subscriptions := old.subscriptions ++ [session.subscriptions.next] })
      rw [show (session.nodes.modify index _).get? other = some held from found] at modified
      by_cases same : other = index
      · rw [if_pos same] at modified
        obtain ⟨old, there, rfl⟩ := Option.map_eq_some_iff.1 modified.symm
        exact ⟨old, same ▸ there, .inr ⟨same, rfl⟩⟩
      · rw [if_neg same] at modified
        exact ⟨held, modified.symm, .inl rfl⟩

theorem thins_retainHandle (session : Session) (handle : Nat) :
    session.Thins (session.retainHandle handle) :=
  .of_eq rfl (Nat.le_refl _)

theorem thins_noteMade (session : Session) (sort : Owning) (name : String) (handle : Nat) :
    session.Thins (session.noteMade sort name handle) :=
  .of_eq rfl (Nat.le_refl _)

theorem thins_makeHandle (session : Session) (middleware : Middleware) (kind : Bytes)
    (resource : Resource) (parent : Option Nat) :
    session.Thins (({ session with middleware } : Session).makeHandle kind resource parent).2 :=
  .of_eq rfl (Nat.le_refl _)

theorem Makes.lists {creation : Creation} (makes : before.Makes creation after) :
    before.Thins after ∨ ∃ middle, before.Enlists middle ∧ middle.Thins after := by
  cases makes with
  | @context name arguments context middleware clean made =>
      have handled := before.thins_makeHandle middleware (Bytes.ofString "context")
        (.context (some context)) none
      exact .inl ((handled.trans (thins_nameContext _ name _)).trans (thins_noteMade _ _ _ _))
  | @node name context handle nodeName space state middleware found cleanName cleanSpace made =>
      have handled := before.thins_makeHandle middleware (Run.quotedKind "node" nodeName)
        (.node (some state)) (some handle)
      have inserted := thins_insertNode ((({ before with middleware } : Session).makeHandle
        (Run.quotedKind "node" nodeName) (.node (some state)) (some handle)).2.retainHandle handle)
        { handle := before.forest.handles.next, context := handle, subscriptions := [], owners := 1 } rfl
      exact .inl ((((handled.trans (thins_retainHandle _ handle)).trans inserted).trans
        (thins_nameNode _ name _)).trans (thins_noteMade _ _ _ _))
  | @publisher name node index object kind topic qos state middleware found clean made =>
      have handled := before.thins_makeHandle middleware (Run.quotedKind "publisher" topic)
        (.publisher (some state)) (some object.handle)
      exact .inl ((handled.trans (thins_namePublisher _ name _)).trans (thins_noteMade _ _ _ _))
  | subscription name registered orderly found clean made =>
      exact .inr (before.enlists_subscriptionMade _ _ _ _ _ _ _ _ _)

theorem Makes.handle_or_new {creation : Creation} (makes : before.Makes creation after) {index : Nat}
    {held : SubscriptionObject} (found : after.subscriptions.get? index = some held) :
    (∃ old, before.subscriptions.get? index = some old ∧ old.handle = held.handle) ∨
      index = before.subscriptions.next ∧ held.handle = before.forest.handles.next := by
  have old {middle : Session} (same : middle.subscriptions = before.subscriptions)
      (shrinks : middle.Shrinks after) :
      ∃ old, before.subscriptions.get? index = some old ∧ old.handle = held.handle := by
    obtain ⟨earlier, there, key⟩ := shrinks.subscriptions index held found
    exact ⟨earlier, same ▸ there, congrArg Prod.fst key⟩
  cases makes with
  | context name clean made =>
      obtain ⟨earlier, there, key⟩ := (shrinks_dropContext _ name).subscriptions index held found
      exact .inl ⟨earlier, there, congrArg Prod.fst key⟩
  | node name present cleanName cleanSpace made =>
      obtain ⟨earlier, there, key⟩ := (shrinks_dropNode _ name).subscriptions index held found
      exact .inl ⟨earlier, there, congrArg Prod.fst key⟩
  | publisher name present clean made =>
      obtain ⟨earlier, there, key⟩ := (shrinks_dropPublisher _ name).subscriptions index held found
      exact .inl ⟨earlier, there, congrArg Prod.fst key⟩
  | @subscription name node place object kind topic qos registered script state middleware orderly
      present clean made =>
      have inserted : ∃ earlier,
          (before.subscriptions.insert
            { name, handle := before.forest.handles.next, kind, script, busy := false, owners := 1 }).2.get?
              index = some earlier ∧ earlier.handle = held.handle := by
        cases registered with
        | false =>
            obtain ⟨earlier, there, key⟩ :=
              (shrinks_dropSubscription _ name).subscriptions index held found
            exact ⟨earlier, there, congrArg Prod.fst key⟩
        | true =>
            obtain ⟨earlier, there, key⟩ :=
              (shrinks_dropSubscription _ name).subscriptions index held found
            exact ⟨earlier, there, congrArg Prod.fst key⟩
      obtain ⟨earlier, there, key⟩ := inserted
      rw [Arena.get?_insert] at there
      by_cases new : index = before.subscriptions.next
      · rw [if_pos new, Option.some_inj] at there
        exact .inr ⟨new, key.symm.trans (congrArg SubscriptionObject.handle there).symm⟩
      · rw [if_neg new] at there
        exact .inl ⟨earlier, there, key⟩

theorem Apart.makes {creation : Creation} (apart : before.Apart) (owned : before.Owned handles nodes subscriptions)
    (makes : before.Makes creation after) : after.Apart := by
  have early {index : Nat} {old : SubscriptionObject}
      (there : before.subscriptions.get? index = some old) : old.handle < before.forest.handles.next := by
    obtain ⟨held, found⟩ := owned.exists_of_subscription there
    exact before.forest.handles.lt_next_of_get? found
  intro first second held other here there same
  rcases makes.handle_or_new here with ⟨old, found, key⟩ | ⟨atNext, new⟩
  · rcases makes.handle_or_new there with ⟨elder, present, its⟩ | ⟨-, new⟩
    · exact apart first second old elder found present (key.trans (same.trans its.symm))
    · have below := early found
      rw [key, same, new] at below
      exact absurd below (Nat.lt_irrefl _)
  · rcases makes.handle_or_new there with ⟨elder, present, its⟩ | ⟨also, -⟩
    · have below := early present
      rw [its, ← same, new] at below
      exact absurd below (Nat.lt_irrefl _)
    · rw [atNext, also]

end Session

namespace Scene

variable {scene later : Scene}

/-- A move makes no list longer, but for a subscription that is made and listed. -/
theorem Move.lists (move : scene.Move later) :
    scene.session.Thins later.session ∨
      ∃ middle, scene.session.Enlists middle ∧ middle.Thins later.session := by
  cases move with
  | made makes => exact makes.lists
  | @contextShared name source handle found =>
      exact .inl (((scene.session.thins_retainHandle handle).trans
        (Session.thins_nameContext _ name _)).trans (Session.thins_noteMade _ _ _ _))
  | @contextTaken name node index object found =>
      exact .inl ((scene.session.thins_retainHandle object.context).trans (Session.thins_nameContext _ name _))
  | @nodeShared name source index object found =>
      have retained : scene.session.Thins (scene.session.retainNode index) :=
        scene.session.thins_modifyNode index (fun _ _ => List.Sublist.refl _)
      exact .inl (retained.trans (Session.thins_nameNode _ name index))
  | @subscriptionShared name source index object found =>
      have retained : scene.session.Thins (scene.session.retainSubscription index) := .of_eq rfl (Nat.le_refl _)
      exact .inl (retained.trans (Session.thins_nameSubscription _ name index))
  | @publisherShared name source publisher found =>
      exact .inl ((scene.session.thins_retainHandle publisher.handle).trans
        (Session.thins_namePublisher _ name _))
  | @executorMade name context handle threads found =>
      exact .inl ((scene.session.thins_retainHandle handle).trans (Session.thins_nameExecutor _ name _))
  | dropped sort name => exact .inl (scene.session.thins_drop sort name)
  | executorDropped name => exact .inl (scene.session.thins_dropExecutor name)
  | subscriptionsPruned found =>
      refine .inl (scene.session.thins_modifyNode _ (fun old there => ?_))
      cases found.symm.trans there
      exact List.filter_sublist
  | @nodesKept items present =>
      have retained (session : Session) (index : Nat) : session.Thins (session.retainNode index) :=
        session.thins_modifyNode index (fun _ _ => List.Sublist.refl _)
      exact .inl (Session.thins_foldl items retained scene.session)
  | @nodesLeft items _ kept =>
      exact .inl (Session.thins_foldl items Session.thins_releaseNode scene.session)
  | @subscriptionsKept items present =>
      have retained (session : Session) (index : Nat) : session.Thins (session.retainSubscription index) :=
        .of_eq rfl (Nat.le_refl _)
      exact .inl (Session.thins_foldl items retained scene.session)
  | @subscriptionsLeft items _ kept =>
      exact .inl (Session.thins_foldl items Session.thins_releaseSubscription scene.session)
  | _ => exact .inl (.of_eq rfl (Nat.le_refl _))

theorem Move.relists (move : scene.Move later) : scene.session.Relists later.session := by
  rcases move.lists with thins | ⟨middle, enlists, thins⟩
  · exact thins.relists
  · exact enlists.relists.trans thins.relists

theorem Moves.relists (moves : scene.Moves later) : scene.session.Relists later.session := by
  induction moves with
  | refl => exact .refl _
  | tail _ move ih => exact ih.trans move.relists

/-- Wherever moves lead, every subscription is on one list at most, and once. -/
theorem Reached.enlisted (reached : scene.Reached) : scene.session.Enlisted := by
  refine reached.holds (fun scene => scene.session.Enlisted) Session.enlisted_empty ?_
  intro before after _ move enlisted
  rcases move.lists with thins | ⟨middle, enlists, thins⟩
  · exact enlisted.thins thins
  · exact (enlisted.enlists enlists).thins thins

theorem Reached.ordered (reached : scene.Reached) : scene.session.Ordered := by
  refine reached.holds (fun scene => scene.session.Ordered) (fun _ _ found => nomatch found) ?_
  intro before after there move ordered
  rcases move.lists with thins | ⟨middle, enlists, thins⟩
  · exact ordered.thins thins
  · exact (ordered.enlists there.enlisted enlists).thins thins

theorem Reached.apart (reached : scene.Reached) : scene.session.Apart := by
  refine reached.holds (fun scene => scene.session.Apart) ?_ ?_
  · intro first second held other found
    cases found
  · intro before after there move apart
    rcases move.effect with shrinks | ⟨_, makes⟩ | ⟨_, ends⟩
    · exact apart.fades shrinks.toFades
    · exact apart.makes there.owned makes
    · exact apart.fades ends.fades

end Scene

end PubSub
