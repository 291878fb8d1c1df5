import PubSub.Proofs.Workers.Reports

/-!
How a loop ends.  A loop makes passes while its flag is up and its context runs, as long as each of them dispatches
something.  It is over in a session where it may not go on, or where a pass failed; its flag is down afterwards.
-/

namespace PubSub

namespace Session

/-- Whether the loop of an executor goes on: its flag is up, and its context runs. -/
def spins (session : Session) (name : String) : Bool :=
  (session.executors.get? name).any (fun executor =>
    executor.pool.running && session.contextIsValid executor.context)

/-- Whether what a pass raised is put down to the end of a context: a take failed, and the context does not run. -/
def excuses (session : Session) (context : Nat) (raised : Raised) : Bool :=
  raised.isTakeFailure && !session.contextIsValid context

end Session

namespace Run

variable {callback : Callback} {name : String} {limit : Nat} {session begun after failed : Session}
  {executor : Executor} {context : Nat} {raised : Raised}

/-- The sessions in which the passes of a loop begin, of which there are at most so many. -/
def passes (callback : Callback) (name : String) : Nat → Session → List Session
  | 0, _ => []
  | remaining + 1, session =>
      if session.spins name then
        session ::
          match (pass callback name).run session with
          | (.ok (_ + 1), after) => passes callback name remaining after
          | _ => []
      else []

/-- In some pass of a loop something is raised, while the executor is on a context. -/
def FailsWith (callback : Callback) (name : String) (limit : Nat) (session : Session) (context : Nat)
    (raised : Raised) (failed : Session) : Prop :=
  ∃ begun ∈ passes callback name limit session, ∃ executor, begun.executors.get? name = some executor ∧
    executor.context = context ∧ (pass callback name).run begun = (.error (.raised raised), failed)

theorem run_shouldRun (found : session.executors.get? name = some executor) :
    (shouldRun name).run session = (.ok (session.spins name), session) := by
  unfold shouldRun findExecutor Session.spins
  rw [run_find_bind found, found]
  rfl

/-- What is made of a failure: nothing where it is put down to the end of the context. -/
def verdict (value : Value) (context : Nat) (raised : Raised) (failed : Session) : Except Stop Value :=
  if failed.excuses context raised then .ok value else .error (.raised raised)

theorem run_round (found : session.executors.get? name = some executor) :
    (round callback name).run session =
      if session.spins name then
        match (pass callback name).run session with
        | (.ok dispatched, after) => (.ok (some dispatched), after)
        | (.error (.raised raised), failed) => (verdict none executor.context raised failed, failed)
        | (.error .stuck, after) => (.error .stuck, after)
      else (.ok none, session) := by
  unfold round findExecutor
  rw [run_find_bind found, run_bind, run_shouldRun found]
  cases session.spins name with
  | false => rfl
  | true =>
      dsimp only
      rw [if_pos rfl, if_pos rfl, run_bind, run_attempt]
      rcases (pass callback name).run session with ⟨(raised | _) | dispatched, after⟩
      · dsimp only
        rw [run_bind, run_view]
        unfold verdict Session.excuses
        dsimp only
        cases raised.isTakeFailure && !after.contextIsValid executor.context <;> rfl
      · rfl
      · rfl

theorem run_rounds_succ (found : session.executors.get? name = some executor) (remaining : Nat) :
    (rounds callback name (remaining + 1)).run session =
      if session.spins name then
        match (pass callback name).run session with
        | (.ok 0, after) => (.error .stuck, after)
        | (.ok (_ + 1), after) => (rounds callback name remaining).run after
        | (.error (.raised raised), failed) => (verdict () executor.context raised failed, failed)
        | (.error .stuck, after) => (.error .stuck, after)
      else (.ok (), session) := by
  rw [rounds, run_bind, run_round found]
  cases session.spins name with
  | false => rfl
  | true =>
      rw [if_pos rfl, if_pos rfl]
      rcases (pass callback name).run session with ⟨(raised | _) | _ | dispatched, failed⟩
      · dsimp only
        unfold verdict
        cases failed.excuses executor.context raised <;> rfl
      all_goals rfl

theorem run_rounds_gone (gone : session.executors.get? name = none) (remaining : Nat) :
    (rounds callback name (remaining + 1)).run session = (.error (.raised .unknownName), session) := by
  have lost : (round callback name).run session = (.error (.raised .unknownName), session) := by
    unfold round findExecutor
    exact run_find_bind_none gone _
  rw [rounds, run_bind, lost]

theorem mem_passes_succ {remaining : Nat} :
    begun ∈ passes callback name (remaining + 1) session ↔
      session.spins name = true ∧ (begun = session ∨ ∃ dispatched after,
        (pass callback name).run session = (.ok (dispatched + 1), after) ∧
          begun ∈ passes callback name remaining after) := by
  rw [passes]
  cases session.spins name with
  | false => simp only [Bool.false_eq_true, if_false, List.not_mem_nil, false_and]
  | true =>
      rw [if_pos rfl, List.mem_cons, and_iff_right rfl]
      apply or_congr_right
      constructor
      · intro member
        split at member
        case h_1 dispatched after passed => exact ⟨dispatched, after, passed, member⟩
        case h_2 => cases member
      · rintro ⟨dispatched, after, passed, member⟩
        rw [passed]
        exact member

theorem exists_of_spins (goesOn : session.spins name = true) :
    ∃ executor, session.executors.get? name = some executor ∧ executor.pool.running = true ∧
      session.contextIsValid executor.context = true := by
  unfold Session.spins at goesOn
  rw [Option.any_eq_true] at goesOn
  obtain ⟨executor, found, both⟩ := goesOn
  rw [Bool.and_eq_true] at both
  exact ⟨executor, found, both⟩

theorem down_or_invalid (found : session.executors.get? name = some executor) (quits : session.spins name = false) :
    executor.pool.running = false ∨ session.contextIsValid executor.context = false := by
  unfold Session.spins at quits
  rw [found, Option.any_some, Bool.and_eq_false_iff] at quits
  exact quits

theorem run_rounds_of_fails (fails : FailsWith callback name limit session context raised failed) :
    (rounds callback name limit).run session = (verdict () context raised failed, failed) := by
  -- By induction on the bound: the pass that fails is the first one, or one of those that follow it.
  obtain ⟨begun, member, executor, found, rfl, ends⟩ := fails
  induction limit generalizing session with
  | zero => cases member
  | succ remaining ih =>
      obtain ⟨goesOn, rfl | ⟨dispatched, after, passed, later⟩⟩ := mem_passes_succ.1 member
      · rw [run_rounds_succ found, if_pos goesOn, ends]
      · obtain ⟨first, there, _⟩ := exists_of_spins goesOn
        rw [run_rounds_succ there, if_pos goesOn, passed]
        exact ih later

/-- How a loop ends, and in which session. -/
inductive Ends (callback : Callback) (name : String) (limit : Nat) (session : Session) :
    Except Stop Unit × Session → Prop
  | finished {executor : Executor} {last : Session} (found : last.executors.get? name = some executor)
      (down : last.spins name = false) : Ends callback name limit session (.ok (), last)
  | gone {last : Session} (gone : last.executors.get? name = none) :
      Ends callback name limit session (.error (.raised .unknownName), last)
  | failed {context : Nat} {raised : Raised} {failed : Session}
      (fails : FailsWith callback name limit session context raised failed) :
      Ends callback name limit session (verdict () context raised failed, failed)

theorem Ends.later {remaining dispatched : Nat} (goesOn : session.spins name = true)
    (passed : (pass callback name).run session = (.ok (dispatched + 1), after))
    {ended : Except Stop Unit × Session} (ends : Ends callback name remaining after ended) :
    Ends callback name (remaining + 1) session ended := by
  cases ends with
  | finished found down => exact .finished found down
  | gone gone => exact .gone gone
  | failed fails =>
      obtain ⟨begun, member, fails⟩ := fails
      exact .failed ⟨begun, mem_passes_succ.2 ⟨goesOn, .inr ⟨dispatched, after, passed, member⟩⟩, fails⟩

/-- A loop that is not stuck ends in one of these ways. -/
theorem ends_rounds (ended : ((rounds callback name limit).run session).1 ≠ .error .stuck) :
    Ends callback name limit session ((rounds callback name limit).run session) := by
  induction limit generalizing session with
  | zero => exact absurd rfl ended
  | succ remaining ih =>
      cases found : session.executors.get? name with
      | none =>
          rw [run_rounds_gone found]
          exact .gone found
      | some executor =>
          rw [run_rounds_succ found] at ended ⊢
          cases goesOn : session.spins name with
          | false => exact .finished found goesOn
          | true =>
              rw [goesOn, if_pos rfl] at ended
              rw [if_pos rfl]
              have first : session ∈ passes callback name (remaining + 1) session :=
                mem_passes_succ.2 ⟨goesOn, .inl rfl⟩
              rcases outcome : (pass callback name).run session with ⟨(raised | _) | _ | dispatched, after⟩ <;>
                rw [outcome] at ended
              · exact .failed ⟨session, first, executor, found, rfl, outcome⟩
              · exact absurd rfl ended
              · exact absurd rfl ended
              · exact .later goesOn outcome (ih ended)

/-- A loop whose flag stays up ends without raising anything only where the context of its executor does not run. -/
theorem Ends.invalid {value : Unit} {last : Session} (ends : Ends callback name limit session (.ok value, last))
    (found : last.executors.get? name = some executor) (up : executor.pool.running = true)
    (own : ∀ context raised failed, FailsWith callback name limit session context raised failed →
      context = executor.context) : last.contextIsValid executor.context = false := by
  generalize outcome : ((.ok value : Except Stop Unit), last) = ended at ends
  cases ends with
  | finished there down =>
      cases outcome
      exact (down_or_invalid found down).resolve_left (ne_of_eq_of_ne up Bool.noConfusion)
  | gone gone =>
      cases outcome
  | @failed context raised failed fails =>
      rw [Prod.mk.injEq] at outcome
      obtain ⟨verdict, rfl⟩ := outcome
      obtain rfl := own context raised last fails
      unfold Run.verdict at verdict
      split at verdict
      case isTrue excused =>
          unfold Session.excuses at excused
          rw [Bool.and_eq_true, Bool.not_eq_true'] at excused
          exact excused.2
      case isFalse => cases verdict

theorem run_isRunning (found : session.executors.get? name = some executor) :
    (isRunning name).run session = (.ok (.running executor.pool.running), session) := by
  unfold isRunning findExecutor
  rw [run_find_bind found, run_pure]

theorem run_isRunning_gone (gone : session.executors.get? name = none) :
    (isRunning name).run session = (.error (.raised .unknownName), session) := by
  unfold isRunning findExecutor
  exact run_find_bind_none gone _

/-- What comes of a spin is what its rounds came to, with the flag taken down. -/
theorem run_spin (found : session.executors.get? name = some executor) :
    (spin callback limit name).run session =
      match (rounds callback name limit).run (session.modifyPool name WorkerPool.start) with
      | (.ok _, last) => (isRunning name).run (last.modifyPool name WorkerPool.askToStop)
      | (.error stop, last) => (.error stop, last.modifyPool name WorkerPool.askToStop) := by
  unfold spin findExecutor
  rw [run_find_bind found, run_bind, run_change]
  dsimp only
  rw [run_bind, run_ensuring]
  rcases (rounds callback name limit).run (session.modifyPool name WorkerPool.start) with ⟨_ | _, last⟩ <;> rfl

theorem down_askToStop (session : Session)
    (found : (session.modifyPool name WorkerPool.askToStop).executors.get? name = some executor) :
    executor.pool.running = false := by
  have there := (session.executors.get?_modify name name _).symm.trans found
  rw [if_pos rfl, Option.map_eq_some_iff] at there
  obtain ⟨before, _, rfl⟩ := there
  rfl

theorem gone_modifyPool {change : WorkerPool Raised → WorkerPool Raised}
    (gone : session.executors.get? name = none) : (session.modifyPool name change).executors.get? name = none := by
  refine (session.executors.get?_modify name name _).trans ?_
  rw [if_pos rfl, gone]
  rfl

theorem run_isRunning_askToStop (session : Session) :
    (isRunning name).run (session.modifyPool name WorkerPool.askToStop) =
      (match session.executors.get? name with
        | some _ => .ok (.running false)
        | none => .error (.raised .unknownName),
        session.modifyPool name WorkerPool.askToStop) := by
  cases found : session.executors.get? name with
  | none => exact run_isRunning_gone (gone_modifyPool found)
  | some executor => exact run_isRunning (session.get?_modifyPool found WorkerPool.askToStop)

theorem after_spin (found : session.executors.get? name = some executor) :
    ((spin callback limit name).run session).2 =
      ((rounds callback name limit).run (session.modifyPool name WorkerPool.start)).2.modifyPool name
        WorkerPool.askToStop := by
  rw [run_spin found]
  rcases (rounds callback name limit).run (session.modifyPool name WorkerPool.start) with ⟨stop | _, last⟩
  · rfl
  · exact congrArg Prod.snd (run_isRunning_askToStop last)

theorem stuck_spin_iff (found : session.executors.get? name = some executor) :
    ((spin callback limit name).run session).1 = .error .stuck ↔
      ((rounds callback name limit).run (session.modifyPool name WorkerPool.start)).1 = .error .stuck := by
  rw [run_spin found]
  rcases (rounds callback name limit).run (session.modifyPool name WorkerPool.start) with ⟨stop | _, last⟩
  · dsimp only
    rw [Except.error.injEq, Except.error.injEq]
  · dsimp only
    rw [run_isRunning_askToStop]
    cases last.executors.get? name <;>
      exact ⟨fun impossible => (nomatch impossible), fun impossible => (nomatch impossible)⟩

/-- How a spin ends, and in which session. -/
inductive SpinEnds (callback : Callback) (limit : Nat) (name : String) (session : Session) :
    Except Stop Answer × Session → Prop
  | finished {executor : Executor} {last : Session} (found : last.executors.get? name = some executor)
      (down : last.spins name = false) :
      SpinEnds callback limit name session (.ok (.running false), last.modifyPool name WorkerPool.askToStop)
  | gone {last : Session} (gone : last.executors.get? name = none) :
      SpinEnds callback limit name session
        (.error (.raised .unknownName), last.modifyPool name WorkerPool.askToStop)
  | excused {context : Nat} {raised : Raised} {failed : Session} {executor : Executor}
      (fails : FailsWith callback name limit (session.modifyPool name WorkerPool.start) context raised failed)
      (excused : failed.excuses context raised = true) (found : failed.executors.get? name = some executor) :
      SpinEnds callback limit name session (.ok (.running false), failed.modifyPool name WorkerPool.askToStop)
  | failed {context : Nat} {raised : Raised} {failed : Session}
      (fails : FailsWith callback name limit (session.modifyPool name WorkerPool.start) context raised failed)
      (excused : failed.excuses context raised = false) :
      SpinEnds callback limit name session
        (.error (.raised raised), failed.modifyPool name WorkerPool.askToStop)

theorem spinEnds (found : session.executors.get? name = some executor)
    (ended : ((spin callback limit name).run session).1 ≠ .error .stuck) :
    SpinEnds callback limit name session ((spin callback limit name).run session) := by
  have ends := ends_rounds (fun waits => ended ((stuck_spin_iff found).2 waits))
  rw [run_spin found]
  generalize (rounds callback name limit).run (session.modifyPool name WorkerPool.start) = outcome at ends
  cases ends with
  | finished there down =>
      dsimp only
      rw [run_isRunning_askToStop, there]
      exact .finished there down
  | gone gone => exact .gone gone
  | @failed context raised failed fails =>
      unfold verdict
      cases excused : failed.excuses context raised with
      | false => exact .failed fails excused
      | true =>
          rw [if_pos rfl]
          dsimp only
          rw [run_isRunning_askToStop]
          cases there : failed.executors.get? name with
          | none => exact .gone there
          | some executor => exact .excused fails excused there

/--
What holds of a spin whatever its callbacks do.  The flag is down in the end.  What a pass raised is raised, unless it
is put down to the end of the executor's own context; then the spin just ends.  Nothing else is raised, except that an
executor which its callbacks destroyed is no longer known.
-/
structure LeavesClean (callback : Callback) (limit : Nat) (name : String) (session : Session) : Prop where
  down : ∀ executor, ((spin callback limit name).run session).2.executors.get? name = some executor →
    executor.pool.running = false
  answers : ∀ answer, ((spin callback limit name).run session).1 = .ok answer → answer = .running false
  /-- It ends without raising anything if its flag was taken down meanwhile, or the context of the executor is over. -/
  quits : ∀ answer, ((spin callback limit name).run session).1 = .ok answer →
    ∃ last, ((spin callback limit name).run session).2 = last.modifyPool name WorkerPool.askToStop ∧
      ((∃ executor, last.executors.get? name = some executor ∧
          (executor.pool.running = false ∨ last.contextIsValid executor.context = false)) ∨
        ∃ context raised,
          FailsWith callback name limit (session.modifyPool name WorkerPool.start) context raised last ∧
            last.excuses context raised = true)
  propagates : ∀ context raised failed,
    FailsWith callback name limit (session.modifyPool name WorkerPool.start) context raised failed →
      failed.excuses context raised = false →
        (spin callback limit name).run session =
          (.error (.raised raised), failed.modifyPool name WorkerPool.askToStop)
  quiet : ∀ context raised failed,
    FailsWith callback name limit (session.modifyPool name WorkerPool.start) context raised failed →
      failed.excuses context raised = true →
        (spin callback limit name).run session = (isRunning name).run (failed.modifyPool name WorkerPool.askToStop)
  raises : ∀ raised, ((spin callback limit name).run session).1 = .error (.raised raised) →
    (∃ context failed,
      FailsWith callback name limit (session.modifyPool name WorkerPool.start) context raised failed ∧
        failed.excuses context raised = false) ∨
    raised = .unknownName ∧ ((spin callback limit name).run session).2.executors.get? name = none

theorem leavesClean (found : session.executors.get? name = some executor)
    (ended : ((spin callback limit name).run session).1 ≠ .error .stuck) :
    LeavesClean callback limit name session := by
  have ends := spinEnds found ended
  constructor
  · intro later there
    generalize (spin callback limit name).run session = spun at ends there
    cases ends <;> exact down_askToStop _ there
  · intro answer answered
    generalize (spin callback limit name).run session = spun at ends answered
    cases ends <;> cases answered <;> rfl
  · intro answer answered
    generalize (spin callback limit name).run session = spun at ends answered
    cases ends with
    | @finished executor last there down =>
        exact ⟨last, rfl, .inl ⟨executor, there, down_or_invalid there down⟩⟩
    | @excused context raised failed executor fails excused there =>
        exact ⟨failed, rfl, .inr ⟨context, raised, fails, excused⟩⟩
    | gone gone => cases answered
    | failed fails excused => cases answered
  · intro context raised failed fails excused
    rw [run_spin found, run_rounds_of_fails fails, verdict, excused]
    rfl
  · intro context raised failed fails excused
    rw [run_spin found, run_rounds_of_fails fails, verdict, excused]
    rfl
  · intro raised outcome
    generalize (spin callback limit name).run session = spun at ends outcome
    cases ends with
    | finished there down => cases outcome
    | excused fails excused there => cases outcome
    | gone gone =>
        cases outcome
        exact .inr ⟨rfl, gone_modifyPool gone⟩
    | failed fails excused =>
        cases outcome
        exact .inl ⟨_, _, fails, excused⟩

end Run

end PubSub
