import PubSub.Proofs.Client.Course

/-!
Runs that proceed.  From any scene that is reached, a run takes some course, whether it ends with a value or is ended by
something raised; and what it raises is truthful.  Runs that proceed make up larger ones that do.
-/

namespace PubSub

def Settles {Value : Type} (accepts : Value → Prop) : Except Stop Value → Prop
  | .ok value => accepts value
  | .error (.raised raised) => raised.Truthful
  | .error .stuck => True

def Scene.Ends {Value : Type} (scene : Scene) (accepts : Value → Prop)
    (ended : Except Stop Value × Session) : Prop :=
  scene.Goes (scene.withSession ended.2) ∧ Settles accepts ended.1

namespace Run

variable {Value Other : Type} {scene : Scene} {accepts : Value → Prop} {concludes : Other → Prop}

def ProceedsAt (scene : Scene) (accepts : Value → Prop) (run : Run Value) : Prop :=
  scene.Reached → scene.Ends accepts (run.run scene.session)

def Proceeds (accepts : Value → Prop) (run : Run Value) : Prop :=
  ∀ scene, ProceedsAt scene accepts run

/-- What does not tell anything that was raised is accepted in any case. -/
def Anything (_ : Value) : Prop :=
  True

theorem proceeds_pure {value : Value} (accepted : accepts value) : Proceeds accepts (pure value) :=
  fun _ _ => ⟨.refl, accepted⟩

theorem proceeds_raise {raised : Raised} (truthful : raised.Truthful) :
    Proceeds accepts (raise raised : Run Value) :=
  fun _ _ => ⟨.refl, truthful⟩

theorem proceeds_stuck : Proceeds accepts (stuck : Run Value) :=
  fun _ _ => ⟨.refl, trivial⟩

theorem proceeds_view (read : Session → Value) : Proceeds Anything (view read) :=
  fun _ _ => ⟨.refl, trivial⟩

theorem proceeds_raise_bind {raised : Raised} {next : Value → Run Other} (truthful : raised.Truthful) :
    Proceeds concludes (raise raised >>= next) :=
  fun _ _ => ⟨.refl, truthful⟩

theorem proceedsAt_bind {first : Run Value} {next : Value → Run Other}
    (proceeds : ProceedsAt scene accepts first)
    (follows : ∀ value after, first.run scene.session = (.ok value, after) → accepts value →
      ProceedsAt (scene.withSession after) concludes (next value)) :
    ProceedsAt scene concludes (first >>= next) := by
  intro reached
  obtain ⟨goes, settles⟩ := proceeds reached
  rw [run_bind]
  rcases outcome : first.run scene.session with ⟨(raised | _) | value, after⟩
  · rw [outcome] at goes settles
    exact ⟨goes, settles⟩
  · rw [outcome] at goes
    exact ⟨goes, trivial⟩
  · rw [outcome] at goes settles
    obtain ⟨later, ends⟩ := follows value after outcome settles (reached.moves goes.moves)
    exact ⟨goes.trans later, ends⟩

theorem proceeds_bind {first : Run Value} {next : Value → Run Other} (proceeds : Proceeds accepts first)
    (follows : ∀ value, accepts value → Proceeds concludes (next value)) :
    Proceeds concludes (first >>= next) :=
  fun scene => proceedsAt_bind (proceeds scene) (fun value _ _ accepted => follows value accepted _)

theorem proceeds_map {change : Value → Other} {run : Run Value} (proceeds : Proceeds accepts run)
    (accepted : ∀ value, accepts value → concludes (change value)) :
    Proceeds concludes (change <$> run) := by
  rw [← bind_pure_comp]
  exact proceeds_bind proceeds (fun value told => proceeds_pure (accepted value told))

theorem proceedsAt_view_bind {read : Session → Value} {next : Value → Run Other}
    (follows : ProceedsAt scene concludes (next (read scene.session))) :
    ProceedsAt scene concludes (view read >>= next) :=
  follows

theorem proceedsAt_find_bind {lookup : Session → Option Value} {next : Value → Run Other}
    (follows : ∀ value, lookup scene.session = some value → ProceedsAt scene concludes (next value)) :
    ProceedsAt scene concludes (find lookup >>= next) := by
  intro reached
  cases found : lookup scene.session with
  | none =>
      rw [run_find_bind_none found]
      exact ⟨.refl, .other rfl⟩
  | some value =>
      rw [run_find_bind found]
      exact follows value found reached

theorem proceeds_find_bind {lookup : Session → Option Value} {next : Value → Run Other}
    (follows : ∀ value, Proceeds concludes (next value)) : Proceeds concludes (find lookup >>= next) :=
  fun scene => proceedsAt_find_bind (fun value _ => follows value scene)

theorem proceeds_find (lookup : Session → Option Value) : Proceeds Anything (find lookup) := by
  rw [← bind_pure (find lookup)]
  exact proceeds_find_bind (fun _ => proceeds_pure trivial)

theorem proceeds_change {update : Session → Session}
    (goes : ∀ scene : Scene, scene.Reached → scene.Goes (scene.withSession (update scene.session))) :
    Proceeds Anything (change update) :=
  fun scene reached => ⟨goes scene reached, trivial⟩

theorem proceeds_attempt {run : Run Value} (proceeds : Proceeds accepts run) :
    Proceeds (Tells accepts) (attempt run) := by
  intro scene reached
  obtain ⟨goes, settles⟩ := proceeds scene reached
  rw [run_attempt]
  rcases outcome : run.run scene.session with ⟨(raised | _) | value, after⟩ <;>
    rw [outcome] at goes settles <;> exact ⟨goes, settles⟩

/--
What is kept for as long as a run lasts is let go of however the run ends.  Where the run leads, the same is kept as
where it began, so that letting go leads back to what was kept before.
-/
theorem proceedsAt_keeping {body : Run Value} {enter leave : Session → Session} {kept : Scene}
    (enters : scene.Goes kept) (same : kept.session = enter scene.session)
    (leaves : ∀ session, (kept.withSession session).Goes (scene.withSession (leave session)))
    (proceeds : ProceedsAt kept accepts body) :
    ProceedsAt scene accepts (change enter >>= fun _ => ensuring body leave) := by
  intro reached
  obtain ⟨goes, settles⟩ := proceeds (reached.moves enters.moves)
  rw [run_change_bind, run_ensuring, ← same]
  exact ⟨(enters.trans goes).trans (leaves _), settles⟩

theorem proceeds_ensuring {run : Run Value} {cleanup : Session → Session}
    (proceeds : Proceeds accepts run)
    (cleans : ∀ scene : Scene, scene.Goes (scene.withSession (cleanup scene.session))) :
    Proceeds accepts (ensuring run cleanup) := by
  intro scene reached
  obtain ⟨goes, settles⟩ := proceeds scene reached
  rw [run_ensuring]
  exact ⟨goes.trans (cleans (scene.withSession _)), settles⟩

theorem proceeds_ite {condition : Prop} [Decidable condition] {yes no : Run Value}
    (left : Proceeds accepts yes) (right : Proceeds accepts no) :
    Proceeds accepts (if condition then yes else no) := by
  by_cases holds : condition
  · rw [if_pos holds]
    exact left
  · rw [if_neg holds]
    exact right

theorem proceeds_forM {Item : Type} (items : List Item) {visit : Item → Run PUnit}
    (proceeds : ∀ item, Proceeds Anything (visit item)) : Proceeds Anything (items.forM visit) := by
  induction items with
  | nil => exact proceeds_pure trivial
  | cons item rest ih => exact proceeds_bind (proceeds item) (fun _ _ => ih)

/-- A request that is refused raises what is truthful; one that is granted goes on. -/
theorem ends_goOn (request : Request Value) (quiet : request.publishes = false) {attempted : Bytes}
    (worded : request.WordedAs attempted) {next : Value → Middleware → Except Stop Other × Session}
    (granted : ∀ value middleware,
      request.outcome scene.session.middleware = (.ok value, middleware) →
        scene.Ends concludes (next value middleware)) :
    scene.Ends concludes
      (goOn scene.session request.kind attempted next (request.outcome scene.session.middleware)) := by
  rcases outcome : request.outcome scene.session.middleware with ⟨fault | value, middleware⟩
  · have failed := congrArg Prod.fst outcome
    rw [← outcome, goOn_eq_ofFault request attempted failed]
    exact ⟨.refused quiet (Prod.ext failed rfl), .refused request worded failed⟩
  · exact granted value middleware outcome

theorem ends_request (request : Request Value) (quiet : request.publishes = false) {attempted : Bytes}
    (worded : request.WordedAs attempted) (uses : request.makes = false) :
    scene.Ends Anything
      (goOn scene.session request.kind attempted
        (fun value middleware => (.ok value, { scene.session with middleware }))
        (request.outcome scene.session.middleware)) :=
  ends_goOn request quiet worded (fun _ _ granted => ⟨.answered quiet uses granted, trivial⟩)

end Run

end PubSub
