import PubSub.Proofs.Loops.Frame

/-!
Gates.  A gate before some actions lets nobody through: who would perform one of them waits for good.  Where a run is
not stuck behind its gates it goes as it goes without any, since it has come to none of these actions.  So a run comes to
an action of some sort if it is stuck with a gate before that sort and is not stuck without.
-/

namespace PubSub

namespace Run

mutual

/-- Performs an action, those of some sort excepted. -/
def performUnless (blocks : Action → Bool) (callback : Callback) (limit : Nat) : Action → Run Answer
  | .work executor untilCalls (some during) destroy =>
      if blocks (.work executor untilCalls (some during) destroy) then stuck
      else work callback limit executor untilCalls (some <$> performAllUnless blocks callback limit during) destroy
  | action => if blocks action then stuck else perform callback limit action

def performAllUnless (blocks : Action → Bool) (callback : Callback) (limit : Nat) :
    List Action → Run (List (Except Raised Answer))
  | [] => return []
  | action :: rest => do
      let answer ← attempt (performUnless blocks callback limit action)
      return answer :: (← performAllUnless blocks callback limit rest)

end

/-- What callbacks do that may be nested to some depth, with a gate before the actions of some sort. -/
def callbackUnless (blocks : Action → Bool) (limit : Nat) : Nat → Callback
  | 0 => fun _ _ => stuck
  | depth + 1 => fun subscription message =>
      runCallback (performUnless blocks (callbackUnless blocks limit depth) limit) subscription message

mutual

theorem performUnless_none (callback : Callback) (limit : Nat) :
    ∀ action : Action, performUnless (fun _ => false) callback limit action = perform callback limit action
  | .work executor untilCalls (some during) destroy => by
      rw [performUnless, performAllUnless_none callback limit during, perform]
      rfl
  | .work executor untilCalls none destroy => rfl
  | .makeContext _ _ => rfl
  | .copyContext _ _ => rfl
  | .contextIsValid _ => rfl
  | .nodeContextIsValid _ => rfl
  | .shutdown _ => rfl
  | .makeNode _ _ _ _ => rfl
  | .nodeInfo _ => rfl
  | .live _ => rfl
  | .makePublisher _ _ _ _ _ => rfl
  | .makeSubscription _ _ _ _ _ _ _ => rfl
  | .copyPublisher _ _ => rfl
  | .publish _ _ => rfl
  | .publishRange _ _ _ => rfl
  | .take _ => rfl
  | .takeAll _ => rfl
  | .dispatch _ => rfl
  | .handleForeign _ _ => rfl
  | .info _ _ => rfl
  | .countSubscriptions _ => rfl
  | .countPublishers _ => rfl
  | .drop _ _ => rfl
  | .dropExecutor _ => rfl
  | .alive => rfl
  | .makeExecutor _ _ _ => rfl
  | .addNode _ _ => rfl
  | .isRunning _ => rfl
  | .stop _ => rfl
  | .spin _ => rfl
  | .spinOnce _ => rfl
  | .finiNativeNode _ => rfl
  | .faults => rfl
  | .counters => rfl
  | .refuseCopies _ => rfl
  | .throwUser _ => rfl
  | .refuse _ _ => rfl

theorem performAllUnless_none (callback : Callback) (limit : Nat) : ∀ actions : List Action,
    performAllUnless (fun _ => false) callback limit actions = performAll callback limit actions
  | [] => rfl
  | action :: rest => by
      rw [performAllUnless, performUnless_none callback limit action, performAllUnless_none callback limit rest,
        performAll]

end

theorem callbackUnless_none (limit depth : Nat) :
    callbackUnless (fun _ => false) limit depth = callbackWithin limit depth := by
  induction depth with
  | zero => rfl
  | succ depth ih =>
      have same := funext (performUnless_none (callbackWithin limit depth) limit)
      rw [callbackUnless, ih, same, callbackWithin]

section

variable {Value Other Sight : Type} {touch : Action → Bool} {sight : Session → Sight}

/--
What is meant by a run behind gates, which are before the actions of one sort or another.  It goes as it goes without
any gate, unless it is stuck.  If it is stuck with gates before two sorts, it is with those before one of them alone.
With gates before the actions that touch it, a sight is left as it was.
-/
structure Gated (touch : Action → Bool) (sight : Session → Sight) (run : (Action → Bool) → Run Value) : Prop where
  same : ∀ blocks session, ((run blocks).run session).1 ≠ .error .stuck →
    (run blocks).run session = (run (fun _ => false)).run session
  either : ∀ first second session,
    ((run (fun action => first action || second action)).run session).1 = .error .stuck →
      ((run first).run session).1 = .error .stuck ∨ ((run second).run session).1 = .error .stuck
  leaves : Leaves sight (run touch)

/-- A run that ends with a value behind some gates ends with the same one behind others, or is stuck there. -/
theorem Gated.goes {run : (Action → Bool) → Run Value} (gated : Gated touch sight run)
    {blocks : Action → Bool} {session after : Session} {value : Value}
    (ended : (run blocks).run session = (.ok value, after)) (others : Action → Bool) :
    ((run others).run session).1 = .error .stuck ∨ (run others).run session = (.ok value, after) := by
  by_cases waits : ((run others).run session).1 = .error .stuck
  · exact .inl waits
  · have here := gated.same blocks session (by rw [ended]; exact fun impossible => nomatch impossible)
    exact .inr ((gated.same others session waits).trans (here.symm.trans ended))

theorem Gated.free {run : Run Value} (leaves : Leaves sight run) : Gated touch sight (fun _ => run) :=
  ⟨fun _ _ _ => rfl, fun _ _ _ waits => .inl waits, leaves⟩

/-- There is always something of which all that is seen stays. -/
theorem Gated.blind {run : (Action → Bool) → Run Value} (gated : Gated touch sight run) :
    Gated touch (fun _ => ()) run :=
  ⟨gated.same, gated.either, fun _ _ => rfl⟩

theorem stuck_bind_iff {first : Run Value} {next : Value → Run Other} {session : Session} :
    ((first >>= next).run session).1 = .error .stuck ↔
      (first.run session).1 = .error .stuck ∨
        ∃ value after, first.run session = (.ok value, after) ∧ ((next value).run after).1 = .error .stuck := by
  rw [run_bind]
  rcases outcome : first.run session with ⟨stop | value, after⟩
  · dsimp only
    rw [or_iff_left (fun ⟨_, _, impossible, _⟩ => nomatch impossible), Except.error.injEq, Except.error.injEq]
  · dsimp only
    rw [or_iff_right (fun impossible => nomatch impossible)]
    constructor
    · exact fun waits => ⟨value, after, rfl, waits⟩
    · intro ⟨other, later, same, waits⟩
      cases same
      exact waits

theorem stuck_attempt_iff {run : Run Value} {session : Session} :
    ((attempt run).run session).1 = .error .stuck ↔ (run.run session).1 = .error .stuck := by
  rw [run_attempt]
  rcases run.run session with ⟨(_ | _) | _, after⟩ <;> simp

theorem gated_bind {first : (Action → Bool) → Run Value} {next : (Action → Bool) → Value → Run Other}
    (gated : Gated touch sight first) (follows : ∀ value, Gated touch sight (fun blocks => next blocks value)) :
    Gated touch sight (fun blocks => first blocks >>= next blocks) where
  same := by
    intro blocks session ends
    have here := gated.same blocks session (fun waits => ends (stuck_bind_iff.2 (.inl waits)))
    rw [run_bind, run_bind, ← here]
    rcases outcome : (first blocks).run session with ⟨stop | value, after⟩
    · rfl
    · apply (follows value).same blocks after
      exact fun waits => ends (stuck_bind_iff.2 (.inr ⟨value, after, outcome, waits⟩))
  either := by
    intro left right session waits
    obtain early | ⟨value, after, ended, late⟩ := stuck_bind_iff.1 waits
    · refine (gated.either left right session early).imp ?_ ?_ <;>
        exact fun stuck => stuck_bind_iff.2 (.inl stuck)
    · have comes : ∀ blocks, ((next blocks value).run after).1 = .error .stuck →
          ((first blocks >>= next blocks).run session).1 = .error .stuck := by
        intro blocks stuck
        refine stuck_bind_iff.2 ((gated.goes ended blocks).imp_right ?_)
        exact fun same => ⟨value, after, same, stuck⟩
      exact ((follows value).either left right after late).imp (comes left) (comes right)
  leaves := leaves_bind gated.leaves (fun value => (follows value).leaves)

theorem gated_map (change : Value → Other) {run : (Action → Bool) → Run Value} (gated : Gated touch sight run) :
    Gated touch sight (fun blocks => change <$> run blocks) := by
  simp only [← bind_pure_comp]
  exact gated_bind gated (fun _ => .free (leaves_pure _))

theorem gated_attempt {run : (Action → Bool) → Run Value} (gated : Gated touch sight run) :
    Gated touch sight (fun blocks => attempt (run blocks)) where
  same := by
    intro blocks session ends
    have here := gated.same blocks session (fun waits => ends (stuck_attempt_iff.2 waits))
    rw [run_attempt, run_attempt, here]
  either := by
    intro left right session waits
    refine (gated.either left right session (stuck_attempt_iff.1 waits)).imp ?_ ?_ <;>
      exact fun stuck => stuck_attempt_iff.2 stuck
  leaves := leaves_attempt gated.leaves

theorem gated_ensuring {run : (Action → Bool) → Run Value} {cleanup : Session → Session}
    (gated : Gated touch sight run) (cleans : ∀ session, sight (cleanup session) = sight session) :
    Gated touch sight (fun blocks => ensuring (run blocks) cleanup) where
  same := by
    intro blocks session ends
    rw [run_ensuring, run_ensuring, gated.same blocks session ends]
  either := fun left right session waits => gated.either left right session waits
  leaves := leaves_ensuring gated.leaves cleans

theorem gated_ite {condition : Prop} [Decidable condition] {yes no : (Action → Bool) → Run Value}
    (left : Gated touch sight yes) (right : Gated touch sight no) :
    Gated touch sight (fun blocks => if condition then yes blocks else no blocks) := by
  by_cases holds : condition
  · simp only [if_pos holds]
    exact left
  · simp only [if_neg holds]
    exact right

theorem gated_sumOver {visit : (Action → Bool) → Nat → Run Nat}
    (gated : ∀ index, Gated touch sight (fun blocks => visit blocks index)) (items : List Nat) :
    Gated touch sight (fun blocks => sumOver (visit blocks) items) := by
  induction items with
  | nil => exact .free (leaves_pure _)
  | cons index rest ih =>
      apply gated_bind (gated index)
      exact fun here => gated_bind ih (fun _ => .free (leaves_pure _))

theorem gated_unless (action : Action) {run : (Action → Bool) → Run Value} (gated : Gated touch (fun _ => ()) run)
    (leaves : touch action = false → Leaves sight (run touch)) :
    Gated touch sight (fun blocks => if blocks action then stuck else run blocks) where
  same := by
    intro blocks session ends
    cases gate : blocks action with
    | true =>
        rw [gate] at ends
        exact absurd rfl ends
    | false =>
        rw [gate] at ends
        exact gated.same blocks session ends
  either := by
    intro left right session waits
    cases early : left action with
    | true => exact .inl rfl
    | false =>
        cases late : right action with
        | true => exact .inr rfl
        | false =>
            have through : ¬(left action || right action) = true := by
              rw [early, late]
              exact Bool.false_ne_true
            dsimp only at waits
            rw [if_neg through] at waits
            exact gated.either left right session waits
  leaves := by
    cases gate : touch action with
    | true => exact leaves_stuck
    | false => exact leaves gate

end

end Run

end PubSub
