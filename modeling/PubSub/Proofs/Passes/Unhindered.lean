import PubSub.Proofs.Passes.Rounds

/-!
Subscriptions with nothing in their way.  Wherever a client can come, a subscription is attended if its context runs,
no copy of what waits for it is refused, and its callback is not running and only listens; and so a pass is ready if
that is so for all that it visits and each node was added once.  A callback only listens if its script does nothing
but to throw.
-/

namespace PubSub

namespace Session

/-- Nothing is in the way of a subscription when it is visited. -/
structure Unhindered (session : Session) (callback : Callback) (listener : Listener) (index : Nat)
    (held : SubscriptionObject) : Prop where
  runs : ∀ context, session.contextOf? held.handle = some context → session.isShutDown context = false
  copies : ∀ sample ∈ session.waiting held, session.refusesCopy held.kind
    (session.middleware.transport.store.content held.kind sample) = false
  idle : held.busy = false
  listens : Listens callback listener index held

variable {session : Session} {callback : Callback} {listener : Listener} {index : Nat}
  {held : SubscriptionObject} {handles nodes subscriptions : List Nat}

theorem attended_of_unhindered (linked : session.Linked) (owned : session.Owned handles nodes subscriptions)
    (found : session.subscriptions.get? index = some held)
    (unhindered : session.Unhindered callback listener index held) : session.Attended callback listener index := by
  obtain ⟨state, context, endpoint, slot, kind, stands, numbers, there⟩ := linked.subscriptionAt owned found
  refine ⟨held, state, found, unhindered.idle, slot, kind,
    ⟨endpoint, there, numbers.runs_iff.1 (unhindered.runs context stands)⟩, ?_, unhindered.listens⟩
  intro sample waits refused
  have accepted := unhindered.copies sample waits
  rw [refusesCopy_iff.2 refused] at accepted
  cases accepted

/-- An executor to which each node was added once visits each subscription once. -/
theorem nodup_visited (enlisted : session.Enlisted) {name : String} {executor : Executor}
    (found : session.executors.get? name = some executor) (distinct : executor.nodes.Nodup) :
    (session.visited name).Nodup := by
  have lists : ∀ node index, index ∈ (session.listed node).getD [] → session.Lists node index := by
    intro node index member
    obtain ⟨home, _, there, among, _⟩ := exists_of_mem_listed member
    exact ⟨home, there, among⟩
  rw [visited_of_found found, List.nodup_flatMap]
  constructor
  · intro node _
    cases there : session.nodes.get? node with
    | none =>
        rw [listed_of_gone there]
        exact List.nodup_nil
    | some held =>
        rw [listed_of_found there]
        exact (enlisted.once node held there).filter _
  · apply (distinct.filter _).imp
    intro first second other index here also
    exact other (enlisted.home first second index (lists first index here) (lists second index also))

end Session

namespace Scene

variable {scene : Scene} {callback : Callback} {listener : Listener} {name : String} {executor : Executor}

theorem Reached.allOwned (reached : scene.Reached) : scene.session.AllOwned :=
  ⟨reached.owned.subscriptions.positive, reached.owned.nodes.positive⟩

theorem fit_of_goes (goes : start.Goes scene) : scene.session.Fit := by
  obtain ⟨log, course⟩ := goes
  have reached : scene.Reached := course.moves
  refine ⟨reached.sound, course.logged.proper, ?_⟩
  intro first second here there state other found present slot also same
  by_contra different
  have apart : here.handle ≠ there.handle :=
    fun equal => different (reached.apart first second here there found present equal)
  exact Session.endpoint_ne reached.owned apart slot also same

/-- Where nothing is in the way of what a pass visits, and each node was added once, a pass is ready. -/
theorem ready_of_goes (goes : start.Goes scene) (found : scene.session.executors.get? name = some executor)
    (distinct : executor.nodes.Nodup)
    (unhindered : ∀ index ∈ scene.session.visited name, ∀ held,
      scene.session.subscriptions.get? index = some held →
        scene.session.Unhindered callback listener index held) :
    Run.Ready callback listener name scene.session := by
  have reached : scene.Reached := goes.moves
  refine ⟨⟨executor, found⟩, fit_of_goes goes, reached.allOwned, fun index member => ?_,
    Session.nodup_visited reached.enlisted found distinct⟩
  obtain ⟨node, _, listed⟩ := List.mem_flatMap.1 member
  obtain ⟨_, held, _, _, present⟩ := Session.exists_of_mem_listed listed
  exact Session.attended_of_unhindered reached.linked reached.owned present (unhindered index member held present)

end Scene

/-- What comes of a script that does nothing but to throw: the first step whose guard allows the message throws. -/
def Script.verdict (script : Script) (message : Payload) : Except Raised Unit :=
  match script.find? (fun step => step.1.allows message) with
  | some (_, .throwUser text) => .error (.user text)
  | _ => .ok ()

/-- A callback that ran and used nothing. -/
def Memory.noting (memory : Memory) (subscription : String) (message : Payload) : Memory :=
  { calls := memory.calls ++ [{ subscription, message, answers := [] }]
    finishedCalls := memory.finishedCalls + 1 }

def Session.scripted (session : Session) : Listener := fun index message memory =>
  match session.subscriptions.get? index with
  | none => (.ok (), memory)
  | some held => (held.script.verdict message, memory.noting held.name message)

namespace Run

theorem run_runScript_of_throws {script : Script} (throws : ∀ step ∈ script, step.2.isThrow = true)
    (callback : Callback) (limit : Nat) (message : Payload) (place : Nat) (session : Session) :
    (runScript (perform callback limit) message place script).run session =
      ((script.verdict message).mapError Stop.raised, session) := by
  induction script with
  | nil => rfl
  | cons step rest ih =>
      obtain ⟨guard, action⟩ := step
      cases action with
      | throwUser text =>
          unfold runScript Script.verdict
          cases allowed : guard.allows message with
          | false =>
              rw [List.find?_cons_of_neg (by rw [allowed]; exact Bool.false_ne_true)]
              exact ih (fun step member => throws step (List.mem_cons_of_mem _ member))
          | true =>
              have leaves : guard.leaves (.throwUser text) = true := Bool.or_true _
              rw [List.find?_cons_of_pos (by rw [allowed]), leaves]
              rfl
      | _ => cases throws _ List.mem_cons_self

theorem listens_callbackWithin {session : Session} {index : Nat} {held : SubscriptionObject}
    (found : session.subscriptions.get? index = some held)
    (throws : ∀ step ∈ held.script, step.2.isThrow = true) (limit depth : Nat) :
    Listens (callbackWithin limit (depth + 1)) session.scripted index held := by
  intro owners message later
  unfold callbackWithin runCallback noteCall Session.scripted
  rw [run_bind, run_changeGet, found]
  dsimp only
  rw [run_ensuring, run_runScript_of_throws throws]
  rfl

end Run

namespace Session

def isClear (session : Session) (held : SubscriptionObject) : Bool :=
  (session.contextOf? held.handle).all (fun context => !session.isShutDown context) &&
    (session.waiting held).all (fun sample => !session.refusesCopy held.kind
      (session.middleware.transport.store.content held.kind sample)) &&
    !held.busy && held.script.all (fun step => step.2.isThrow)

theorem unhindered_of_isClear {session : Session} {index : Nat} {held : SubscriptionObject}
    (found : session.subscriptions.get? index = some held) (clear : session.isClear held = true) (limit depth : Nat) :
    session.Unhindered (Run.callbackWithin limit (depth + 1)) session.scripted index held := by
  unfold isClear at clear
  simp only [Bool.and_eq_true, Option.all_eq_true, List.all_eq_true, Bool.not_eq_true'] at clear
  obtain ⟨⟨⟨runs, copies⟩, idle⟩, throws⟩ := clear
  exact ⟨runs, copies, idle, Run.listens_callbackWithin found throws limit depth⟩

end Session

end PubSub
