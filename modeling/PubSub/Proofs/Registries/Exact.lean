import Mathlib.Data.List.Sort
import PubSub.Proofs.Client.Accounts
import PubSub.Proofs.Registries.Chronicles

/-!
What nodes know of their subscriptions.  What is left on a list, of all that was registered with its node, is what still
has an owner, in the order in which it was made; whoever reads the list takes away nothing else.
-/

namespace PubSub

namespace Session

variable {before after : Session}

theorem MakesSubscription.index_lt {registered : Bool} {index : Nat}
    (makes : before.MakesSubscription registered index after) : index < before.nodes.next := by
  cases makes with
  | made name orderly found clean made => exact before.nodes.lt_next_of_get? (get?_of_namedNode? found)

theorem MakesSubscription.numbers {registered : Bool} {index : Nat}
    (makes : before.MakesSubscription registered index after) :
    after.subscriptions.next = before.subscriptions.next + 1 ∧ before.nodes.next ≤ after.nodes.next := by
  obtain ⟨middle, next, nodes, keeps⟩ := makes.lists
  refine ⟨keeps.numbers.trans next, Nat.le_trans ?_ keeps.nodes⟩
  rw [nodes]
  cases registered with
  | false => exact Nat.le_refl _
  | true => exact Nat.le_refl _

/-- The lists after a subscription was made have it where it was registered, and what they had. -/
theorem MakesSubscription.listed {registered : Bool} {index : Nat}
    (makes : before.MakesSubscription registered index after) {node : Nat} {held : NodeObject}
    (found : after.nodes.get? node = some held) :
    (∃ old, before.nodes.get? node = some old ∧ ∀ other, other ∈ held.subscriptions ↔
      other ∈ old.subscriptions ∨ registered = true ∧ node = index ∧ other = before.subscriptions.next) ∨
      before.nodes.next ≤ node ∧ held.subscriptions = [] := by
  obtain ⟨middle, next, nodes, keeps⟩ := makes.lists
  cases registered with
  | false =>
      rw [if_neg Bool.false_ne_true] at nodes
      rcases keeps.lists node held found with ⟨old, there, same⟩ | new
      · rw [nodes] at there
        refine .inl ⟨old, there, fun other => ?_⟩
        simp [same]
      · exact .inr (nodes ▸ new)
  | true =>
      rw [if_pos rfl] at nodes
      rcases keeps.lists node held found with ⟨old, there, same⟩ | ⟨new, bare⟩
      · have modified := before.nodes.get?_modify index node
          (fun old => { old with subscriptions := old.subscriptions ++ [before.subscriptions.next] })
        rw [← nodes, there] at modified
        by_cases here : node = index
        · rw [if_pos here] at modified
          obtain ⟨earlier, present, equal⟩ := Option.map_eq_some_iff.1 modified.symm
          refine .inl ⟨earlier, here ▸ present, fun other => ?_⟩
          rw [← same, ← equal]
          simp [here]
        · rw [if_neg here] at modified
          refine .inl ⟨old, modified.symm, fun other => ?_⟩
          simp [same, here]
      · rw [nodes] at new
        exact .inr ⟨new, bare⟩

end Session

namespace Scene

variable {first scene later : Scene} {log more : List Registration}

theorem Move.present (move : scene.Move later) {index : Nat} (early : index < scene.session.subscriptions.next)
    (there : later.session.subscriptions.contains index = true) :
    scene.session.subscriptions.contains index = true := by
  obtain ⟨held, found⟩ := Option.isSome_iff_exists.1 there
  have old : ∃ old, scene.session.subscriptions.get? index = some old := by
    rcases move.effect with shrinks | ⟨_, makes⟩ | ⟨_, ends⟩
    · obtain ⟨old, present, _⟩ := shrinks.subscriptions index held found
      exact ⟨old, present⟩
    · rcases makes.handle_or_new found with ⟨old, present, _⟩ | ⟨new, _⟩
      · exact ⟨old, present⟩
      · exact absurd new (Nat.ne_of_lt early)
    · obtain ⟨old, present, _⟩ := ends.fades.subscriptions index held found
      exact ⟨old, present⟩
  exact Option.isSome_iff_exists.2 old

theorem lt_next_of_contains {session : Session} {index : Nat} (there : session.subscriptions.contains index = true) :
    index < session.subscriptions.next := by
  obtain ⟨held, found⟩ := Option.isSome_iff_exists.1 there
  exact session.subscriptions.lt_next_of_get? found

/-- What is on the lists, of what was registered so far. -/
structure Rosters (scene : Scene) (log : List Registration) : Prop where
  made : ∀ entry ∈ log, entry.subscription < scene.session.subscriptions.next ∧
    entry.node < scene.session.nodes.next
  created : (log.map Registration.subscription).Pairwise (· < ·)
  listed : ∀ node held, scene.session.nodes.get? node = some held →
    ∀ index, scene.session.subscriptions.contains index = true →
      (index ∈ held.subscriptions ↔ { node, subscription := index } ∈ log)

theorem rosters_start : start.Rosters [] where
  made := by intro entry member; cases member
  created := List.Pairwise.nil
  listed := by intro node held found; cases found

theorem Rosters.keepsLists (rosters : scene.Rosters log) (keeps : scene.session.KeepsLists later.session)
    (present : ∀ index, later.session.subscriptions.contains index = true →
      scene.session.subscriptions.contains index = true) : later.Rosters log where
  made := by
    intro entry member
    obtain ⟨early, known⟩ := rosters.made entry member
    exact ⟨keeps.numbers ▸ early, Nat.lt_of_lt_of_le known keeps.nodes⟩
  created := rosters.created
  listed := by
    intro node held found index there
    rcases keeps.lists node held found with ⟨old, before, same⟩ | ⟨new, bare⟩
    · rw [← same]
      exact rosters.listed node old before index (present index there)
    · rw [bare]
      refine ⟨nofun, fun member => ?_⟩
      exact absurd (rosters.made _ member).2 (Nat.not_lt_of_le new)

theorem Rosters.prunes (rosters : scene.Rosters log) (prunes : scene.Prunes later) : later.Rosters log := by
  obtain ⟨place, node, present, rfl⟩ := prunes
  refine ⟨rosters.made, rosters.created, fun other held found index there => ?_⟩
  have modified := scene.session.nodes.get?_modify place other
    (fun old => { old with subscriptions := scene.session.liveSubscriptions node })
  rw [show (scene.session.nodes.modify place _).get? other = some held from found] at modified
  by_cases here : other = place
  · rw [if_pos here, present] at modified
    cases modified
    rw [here, ← rosters.listed place node present index there]
    exact List.mem_filter.trans (and_iff_left there)
  · rw [if_neg here] at modified
    exact rosters.listed other held modified.symm index there

theorem mem_registrations {registered : Bool} {place : Nat} {entry : Registration} :
    entry ∈ scene.registrations registered place ↔
      registered = true ∧ entry.node = place ∧ entry.subscription = scene.session.subscriptions.next := by
  unfold registrations
  cases registered with
  | false => simp
  | true =>
      obtain ⟨node, subscription⟩ := entry
      simp

theorem Rosters.makes {registered : Bool} {place : Nat} {after : Session} (rosters : scene.Rosters log)
    (enlisted : scene.session.Enlisted) (makes : scene.session.MakesSubscription registered place after) :
    (scene.withSession after).Rosters (log ++ scene.registrations registered place) where
  made := by
    intro entry member
    obtain ⟨next, nodes⟩ := makes.numbers
    rw [session_withSession, next]
    rcases List.mem_append.1 member with old | new
    · obtain ⟨early, known⟩ := rosters.made entry old
      exact ⟨Nat.lt_succ_of_lt early, Nat.lt_of_lt_of_le known nodes⟩
    · obtain ⟨-, node, subscription⟩ := mem_registrations.1 new
      rw [node, subscription]
      exact ⟨Nat.lt_succ_self _, Nat.lt_of_lt_of_le makes.index_lt nodes⟩
  created := by
    rw [List.map_append, List.pairwise_append]
    refine ⟨rosters.created, ?_, fun index old other new => ?_⟩
    · unfold registrations
      cases registered with
      | false => exact List.Pairwise.nil
      | true => exact List.pairwise_singleton _ _
    · obtain ⟨entry, member, rfl⟩ := List.mem_map.1 old
      obtain ⟨_, added, rfl⟩ := List.mem_map.1 new
      rw [(mem_registrations.1 added).2.2]
      exact (rosters.made entry member).1
  listed := by
    intro node held found index there
    rw [List.mem_append, mem_registrations]
    rcases makes.listed found with ⟨old, before, listed⟩ | ⟨new, bare⟩
    · rw [listed]
      refine or_congr_left ?_
      by_cases next : index = scene.session.subscriptions.next
      · -- The new number is on no list yet, and nothing was registered under it.
        subst index
        refine ⟨fun member => ?_, fun member => ?_⟩
        · exact absurd (enlisted.made node _ ⟨old, before, member⟩) (Nat.lt_irrefl _)
        · exact absurd (rosters.made _ member).1 (Nat.lt_irrefl _)
      · have early := lt_next_of_contains there
        rw [session_withSession, makes.numbers.1] at early
        obtain ⟨_, created⟩ := makes.makes
        have known := Move.present (.made created) (Nat.lt_of_le_of_ne (Nat.le_of_lt_succ early) next) there
        exact rosters.listed node old before index known
    · have known := makes.index_lt
      rw [bare]
      refine ⟨nofun, ?_⟩
      rintro (old | ⟨-, rfl, -⟩)
      · exact absurd (rosters.made _ old).2 (Nat.not_lt_of_le new)
      · exact absurd known (Nat.not_lt_of_le new)

theorem Chronicle.rosters (chronicle : start.Chronicle log scene) : scene.Rosters log := by
  induction chronicle with
  | refl => exact rosters_start
  | @moved log scene later chronicle move numbers ih =>
      rcases move.keepsLists with keeps | prunes | ⟨_, _, _, makes, rfl⟩
      · refine ih.keepsLists keeps (fun index there => ?_)
        exact move.present (numbers ▸ lt_next_of_contains there) there
      · exact ih.prunes prunes
      · exact absurd (makes.numbers.1.symm.trans numbers) (Nat.succ_ne_self _)
  | made chronicle makes ih => exact ih.makes chronicle.enlisted.1 makes
  | reordered _ _ ih => exact ⟨ih.made, ih.created, ih.listed⟩

/-- What was registered with a node, in order. -/
def registeredWith (log : List Registration) (node : Nat) : List Nat :=
  (log.filter (fun entry => entry.node = node)).map Registration.subscription

/-- Whether a subscription has an owner: a name, or one of those who share it. -/
def owns (scene : Scene) (subscription : Nat) : Bool :=
  0 < scene.session.subscriptionHolders subscription + scene.subscriptions.count subscription

theorem mem_registeredWith {node index : Nat} :
    index ∈ registeredWith log node ↔ { node, subscription := index } ∈ log := by
  unfold registeredWith
  simp only [List.mem_map, List.mem_filter, decide_eq_true_eq]
  constructor
  · rintro ⟨⟨_, _⟩, ⟨member, rfl⟩, rfl⟩
    exact member
  · exact fun member => ⟨_, ⟨member, rfl⟩, rfl⟩

theorem registeredWith_append (log more : List Registration) (node : Nat) :
    registeredWith (log ++ more) node = registeredWith log node ++ registeredWith more node := by
  unfold registeredWith
  rw [List.filter_append, List.map_append]

theorem Rosters.created_with (rosters : scene.Rosters log) (node : Nat) :
    (registeredWith log node).Pairwise (· < ·) :=
  rosters.created.sublist (List.filter_sublist.map Registration.subscription)

theorem Chronicle.owns_iff (chronicle : start.Chronicle log scene) (index : Nat) :
    scene.owns index = true ↔ scene.session.subscriptions.contains index = true := by
  unfold owns
  rw [decide_eq_true_eq, chronicle.owned.subscriptions.held_iff]
  exact Option.isSome_iff_exists.symm

/-- What is left on the list of a node is what was registered with it and has an owner. -/
theorem Chronicle.liveSubscriptions (chronicle : start.Chronicle log scene) {node : Nat} {held : NodeObject}
    (found : scene.session.nodes.get? node = some held) :
    scene.session.liveSubscriptions held = (registeredWith log node).filter scene.owns := by
  have ordered := chronicle.enlisted.2 node held found
  have created := chronicle.rosters.created_with node
  -- Both sides ascend, so that they are the same list if they have the same members.
  refine (ordered.sublist List.filter_sublist).eq_of_mem_iff (created.sublist List.filter_sublist) (fun index => ?_)
  rw [List.mem_filter, List.mem_filter, chronicle.owns_iff, mem_registeredWith]
  exact and_congr_left (fun there => chronicle.rosters.listed node held found index there)

theorem Chronicle.present (chronicle : first.Chronicle log scene) :
    first.session.subscriptions.next ≤ scene.session.subscriptions.next ∧
      ∀ index, index < first.session.subscriptions.next →
        scene.session.subscriptions.contains index = true → first.session.subscriptions.contains index = true := by
  refine chronicle.holds (fun scene => first.session.subscriptions.next ≤ scene.session.subscriptions.next ∧
    ∀ index, index < first.session.subscriptions.next →
      scene.session.subscriptions.contains index = true → first.session.subscriptions.contains index = true)
    ⟨Nat.le_refl _, fun _ _ => id⟩ ?_ (fun _ _ _ => id)
  rintro before after move ⟨next, known⟩
  refine ⟨next.trans move.relists.numbers, fun index early there => ?_⟩
  exact known index early (move.present (Nat.lt_of_lt_of_le early next) there)

theorem Chronicle.fresh (chronicle : first.Chronicle log scene) :
    ∀ entry ∈ log, first.session.subscriptions.next ≤ entry.subscription ∧
      entry.subscription < scene.session.subscriptions.next := by
  induction chronicle with
  | refl => exact fun _ member => nomatch member
  | moved _ move numbers ih => exact fun entry member => numbers ▸ ih entry member
  | made chronicle makes ih =>
      intro entry member
      rw [session_withSession, makes.numbers.1]
      rcases List.mem_append.1 member with old | new
      · obtain ⟨late, early⟩ := ih entry old
        exact ⟨late, Nat.lt_succ_of_lt early⟩
      · rw [(mem_registrations.1 new).2.2]
        exact ⟨chronicle.present.1, Nat.lt_succ_self _⟩
  | reordered _ _ ih => exact ih

theorem Chronicle.filter_owns (chronicle : start.Chronicle log scene) (rest : scene.Chronicle more later) (node : Nat) :
    ((registeredWith log node).filter scene.owns).filter later.owns = (registeredWith log node).filter later.owns := by
  rw [List.filter_filter]
  refine List.filter_congr (fun index member => ?_)
  cases owned : later.owns index with
  | false => exact Bool.false_and _
  | true =>
      have there := ((chronicle.trans rest).owns_iff index).1 owned
      have early := (chronicle.rosters.made _ (mem_registeredWith.1 member)).1
      rw [(chronicle.owns_iff index).2 (rest.present.2 index early there)]
      rfl

end Scene

namespace Session

def pruned (session : Session) (node : Nat) (live : List Nat) : Session :=
  { session with nodes := session.nodes.modify node (fun old => { old with subscriptions := live }) }

def calling (session : Session) (index : Nat) : Bytes :=
  (session.subscriptions.get? index).elim [] (fun held => session.handleKind held.handle)

end Session

namespace Run

variable {session : Session} {node : Nat} {held : NodeObject}

theorem run_pruneSubscriptions (found : session.nodes.get? node = some held) :
    (pruneSubscriptions node).run session =
      (.ok (session.liveSubscriptions held), session.pruned node (session.liveSubscriptions held)) := by
  unfold pruneSubscriptions
  rw [run_changeGet, found]
  rfl

theorem run_live {name : String} (found : session.namedNode? name = some (node, held)) :
    (live name).run session =
      (.ok (.live ((session.liveSubscriptions held).map session.calling)),
        session.pruned node (session.liveSubscriptions held)) := by
  have called : (session.liveSubscriptions held).filterMap (fun index =>
      (session.subscriptions.get? index).map (fun held => session.handleKind held.handle)) =
        (session.liveSubscriptions held).map session.calling := by
    rw [List.filterMap_eq_map_iff_forall_eq_some]
    intro index member
    obtain ⟨subscription, present⟩ := Option.isSome_iff_exists.1 (List.mem_filter.1 member).2
    unfold Session.calling
    rw [show session.subscriptions.get? index = some subscription from present]
    rfl
  unfold live findNode
  rw [run_find_bind found, run_bind, run_pruneSubscriptions (Session.get?_of_namedNode? found), ← called]
  rfl

end Run

namespace Scene

variable {scene later : Scene} {log more : List Registration}

/-- A subscription is made on the node that was asked for, and is registered if it is to be; or nothing is made. -/
def Registers (scene : Scene) (target : String) (registered : Bool) (ended : Except Stop Answer × Session) : Prop :=
  match ended.1 with
  | .ok _ => ∃ index object, scene.session.namedNode? target = some (index, object) ∧
      scene.Chronicle (scene.registrations registered index) (scene.withSession ended.2)
  | .error _ => scene.Chronicle [] (scene.withSession ended.2)

theorem Registers.of_isOk {target : String} {registered : Bool} {ended : Except Stop Answer × Session}
    (registers : scene.Registers target registered ended) (done : ended.1.isOk = true) :
    ∃ index object, scene.session.namedNode? target = some (index, object) ∧
      scene.Chronicle (scene.registrations registered index) (scene.withSession ended.2) := by
  unfold Registers at registers
  cases result : ended.1 with
  | ok answer =>
      rw [result] at registers
      exact registers
  | error stop =>
      rw [result] at done
      cases done

theorem registers_makeSubscription (scene : Scene) (name target : String) (kind : MessageKind) (topic : Bytes)
    (qos : Qos) (registered : Bool) {script : Script} (orderly : orderlyScript script = true) :
    scene.Registers target registered
      ((Run.makeSubscription name target kind topic qos registered script).run scene.session) := by
  cases found : scene.session.namedNode? target with
  | none =>
      unfold Run.makeSubscription Run.findNode
      rw [Run.run_find_bind_none found]
      exact .refl
  | some entry =>
      obtain ⟨index, object⟩ := entry
      rw [Run.run_makeSubscription found]
      split
      · exact .refl
      · next clean =>
          have clean : topic.hasNul = false := by simpa using clean
          generalize asked : (Request.initSubscription (Session.nodeSlot (scene.session.forest.get? object.handle)) kind
            topic qos).outcome scene.session.middleware = outcome
          obtain ⟨result, middleware⟩ := outcome
          cases result with
          | ok state =>
              exact ⟨index, object, found, Chronicle.refl.made (.made name orderly found clean asked)⟩
          | error fault => exact Chronicle.refl.moved (.refused _ asked) rfl

/-- What reading the lists of nodes comes to, and what is registered with them from then on. -/
structure RegistersExactly (scene : Scene) (log : List Registration) : Prop where
  inOrder : ∀ node, (registeredWith log node).Pairwise (· < ·)
  listed : ∀ node held, scene.session.nodes.get? node = some held →
    (Run.pruneSubscriptions node).run scene.session =
      (.ok ((registeredWith log node).filter scene.owns),
        scene.session.pruned node ((registeredWith log node).filter scene.owns))
  told : ∀ name node held, scene.session.namedNode? name = some (node, held) →
    (Run.live name).run scene.session =
      (.ok (.live (((registeredWith log node).filter scene.owns).map scene.session.calling)),
        scene.session.pruned node ((registeredWith log node).filter scene.owns))
  reads : ∀ node held, scene.session.nodes.get? node = some held →
    scene.Chronicle [] (scene.withSession (scene.session.pruned node ((registeredWith log node).filter scene.owns)))
  later : ∀ more later node held, scene.Chronicle more later → later.session.nodes.get? node = some held →
    (Run.pruneSubscriptions node).run later.session =
      (.ok (((registeredWith log node).filter scene.owns).filter later.owns ++
          (registeredWith more node).filter later.owns),
        later.session.pruned node (((registeredWith log node).filter scene.owns).filter later.owns ++
          (registeredWith more node).filter later.owns))
  made : ∀ name target kind topic qos registered script, orderlyScript script = true →
    scene.Registers target registered
      ((Run.makeSubscription name target kind topic qos registered script).run scene.session)
  performed : scene.Reached → ∀ limit depth action, action.orderly = true →
    ∃ more, scene.Chronicle more (scene.withSession
      ((Run.perform (Run.callbackWithin limit depth) limit action).run scene.session).2)
  fresh : ∀ more later, scene.Chronicle more later → ∀ entry ∈ more,
    scene.session.subscriptions.next ≤ entry.subscription ∧ entry.subscription < later.session.subscriptions.next

theorem registers_exactly (chronicle : start.Chronicle log scene) : scene.RegistersExactly log where
  inOrder := chronicle.rosters.created_with
  listed := by
    intro node held found
    rw [Run.run_pruneSubscriptions found, chronicle.liveSubscriptions found]
  told := by
    intro name node held found
    rw [Run.run_live found, chronicle.liveSubscriptions (Session.get?_of_namedNode? found)]
  reads := by
    intro node held found
    rw [← chronicle.liveSubscriptions found]
    exact Chronicle.refl.moved (.subscriptionsPruned found) rfl
  later := by
    intro more later node held rest found
    rw [Run.run_pruneSubscriptions found, (chronicle.trans rest).liveSubscriptions found, registeredWith_append,
      List.filter_append, chronicle.filter_owns rest]
  made := fun name target kind topic qos registered _ =>
    scene.registers_makeSubscription name target kind topic qos registered
  performed := fun reached limit depth _ orderly => (reached.goes_perform limit depth orderly).moves.chronicled
  fresh := fun _ _ rest => rest.fresh

end Scene

namespace Session

def hosting : Session :=
  Session.empty.run [
    .makeContext "context" [],
    .makeNode "node" "context" (Bytes.ofString "node") (Bytes.ofString "/")]

def joined (session : Session) (name : String) (registered : Bool) : Session :=
  ((Run.makeSubscription name "node" .int64 (Bytes.ofString "t") Qos.standard registered []).run session).2

/-- Of three subscriptions the node knows the first, which is gone, and the third. -/
def roster : Session :=
  (((hosting.joined "first" true).joined "second" false).joined "third" true).drop .subscription "first"

end Session

namespace Scene

/-- The list has two subscriptions, and who reads it gets the one that is left. -/
theorem registers_exactly_roster :
    start.Chronicle [{ node := 0, subscription := 0 }, { node := 0, subscription := 2 }]
      (start.withSession Session.roster) ∧
    (start.withSession Session.roster).RegistersExactly
      [{ node := 0, subscription := 0 }, { node := 0, subscription := 2 }] ∧
    ((Run.pruneSubscriptions 0).run Session.roster).1 = .ok [2] := by
  have joins (session : Session) (name : String) (registered : Bool)
      (made : ((Run.makeSubscription name "node" .int64 (Bytes.ofString "t") Qos.standard registered []).run
        session).1.isOk = true)
      (known : (session.namedNode? "node").map Prod.fst = some 0) :
      (start.withSession session).Chronicle ((start.withSession session).registrations registered 0)
        (start.withSession (session.joined name registered)) := by
    have registers := (start.withSession session).registers_makeSubscription name "node" .int64 (Bytes.ofString "t")
      Qos.standard registered (rfl : orderlyScript [] = true)
    obtain ⟨index, object, found, chronicle⟩ := registers.of_isOk made
    rw [session_withSession] at found
    rw [found] at known
    cases known
    exact chronicle
  have hosted : start.Chronicle [] (start.withSession Session.hosting) := by
    obtain ⟨log, chronicle⟩ := (goes_run [
      .makeContext "context" [],
      .makeNode "node" "context" (Bytes.ofString "node") (Bytes.ofString "/")] rfl).moves.chronicled
    have none : (start.withSession Session.hosting).session.subscriptions.next = 0 := by decide +kernel
    cases log with
    | nil => exact chronicle
    | cons entry rest =>
        have early := (chronicle.fresh entry List.mem_cons_self).2
        exact absurd (none ▸ early) (Nat.not_lt_zero _)
  have first := joins Session.hosting "first" true (by decide +kernel) (by decide +kernel)
  have second := joins (Session.hosting.joined "first" true) "second" false (by decide +kernel) (by decide +kernel)
  have third := joins ((Session.hosting.joined "first" true).joined "second" false) "third" true
    (by decide +kernel) (by decide +kernel)
  have numbers : Session.hosting.subscriptions.next = 0 ∧
    ((Session.hosting.joined "first" true).joined "second" false).subscriptions.next = 2 := by decide +kernel
  have chronicle : start.Chronicle [{ node := 0, subscription := 0 }, { node := 0, subscription := 2 }]
      (start.withSession Session.roster) := by
    unfold registrations at first second third
    rw [session_withSession, numbers.1] at first
    rw [session_withSession, numbers.2] at third
    refine (((hosted.trans first).trans second).trans third).moved (.dropped .subscription "first") ?_
    exact (Session.keepsLists_drop _ .subscription "first").numbers
  exact ⟨chronicle, registers_exactly chronicle, by decide +kernel⟩

end Scene

end PubSub
