import PubSub.Proofs.Client.Reshares

/-!
Courses: moves together with the messages that are published in them.  A publish is taken as a whole, from the encoding
of its message to the release of what was encoded, and goes into a log; no other move makes a sample.
-/

namespace PubSub

/--
The publish of a message that is encoded for a publisher.  The sample is the next one, if the message is sent.
-/
def Session.publication (session : Session) (publisher : PublisherObject) (datum : Datum)
    (message : Payload) : Publication :=
  { kind := publisher.kind
    message
    sample :=
      match ((Run.send publisher datum).run session).1 with
      | .ok _ => some session.middleware.transport.store.samples.next
      | .error _ => none }

section

variable {session after : Session} {publisher : PublisherObject} {datum : Datum}

theorem Session.sample_of_sent (sent : (Run.send publisher datum).run session = (.ok (), after))
    (message : Payload) : (session.publication publisher datum message).sample =
      some session.middleware.transport.store.samples.next := by
  unfold publication
  rw [sent]

theorem Session.sample_of_refused {stop : Stop}
    (refused : (Run.send publisher datum).run session = (.error stop, after)) (message : Payload) :
    (session.publication publisher datum message).sample = none := by
  unfold publication
  rw [refused]

end

namespace Scene

/-- A move in which no message is encoded, and no sample is made. -/
structure Silent (scene later : Scene) : Prop where
  move : scene.Move later
  next : later.session.middleware.transport.store.samples.next =
    scene.session.middleware.transport.store.samples.next
  encoded : later.encoded = scene.encoded

/-- What leads from a scene to another, with the publishes on the way. -/
inductive Course (first : Scene) : List Publication → Scene → Prop
  | refl : Course first [] first
  | silent {log : List Publication} {scene later : Scene} (course : Course first log scene)
      (silent : scene.Silent later) : Course first log later
  | published {log : List Publication} {scene : Scene} {name : String} {publisher : PublisherObject}
      {datum : Datum} {payload message : Payload} (course : Course first log scene)
      (found : scene.session.publisherNames.get? name = some publisher)
      (fits : datum.payload publisher.kind = .ok payload)
      (bounded : publisher.kind.accept payload = .ok message) :
      Course first (log ++ [scene.session.publication publisher datum message])
        (scene.withSession ((Run.send publisher datum).run scene.session).2)

def Goes (scene later : Scene) : Prop :=
  ∃ log, scene.Course log later

variable {first scene later : Scene} {log more : List Publication}

theorem Course.trans (early : first.Course log scene) (late : scene.Course more later) :
    first.Course (log ++ more) later := by
  induction late with
  | refl =>
      rw [List.append_nil]
      exact early
  | silent _ silent ih => exact ih.silent silent
  | published _ found fits bounded ih =>
      rw [← List.append_assoc]
      exact ih.published found fits bounded

theorem moves_send {publisher : PublisherObject} {datum : Datum} {payload message : Payload}
    (fits : datum.payload publisher.kind = .ok payload)
    (bounded : publisher.kind.accept payload = .ok message) :
    scene.Moves (scene.withSession ((Run.send publisher datum).run scene.session).2) := by
  have encodes : scene.Move _ := .messageEncoded publisher.kind
  rcases Run.run_send_cases fits bounded scene.session with ⟨middleware, sent, ends⟩ | ⟨_, _, refused, ends⟩
  · rw [ends]
    exact ((Relation.ReflTransGen.single encodes).tail (.answered _ rfl sent)).tail (.messageReleased rfl)
  · rw [ends]
    exact ((Relation.ReflTransGen.single encodes).tail (.refused _ refused)).tail (.messageReleased rfl)

theorem Course.moves (course : first.Course log scene) : first.Moves scene := by
  induction course with
  | refl => exact .refl
  | silent _ silent ih => exact ih.tail silent.move
  | published _ found fits bounded ih => exact ih.trans (moves_send fits bounded)

theorem Goes.refl : scene.Goes scene :=
  ⟨[], .refl⟩

theorem Goes.trans (early : first.Goes scene) (late : scene.Goes later) : first.Goes later := by
  obtain ⟨log, course⟩ := early
  obtain ⟨more, rest⟩ := late
  exact ⟨log ++ more, course.trans rest⟩

theorem Goes.silent (move : scene.Move later)
    (next : later.session.middleware.transport.store.samples.next =
      scene.session.middleware.transport.store.samples.next)
    (encoded : later.encoded = scene.encoded) : scene.Goes later :=
  ⟨[], Course.refl.silent ⟨move, next, encoded⟩⟩

theorem Goes.reshares (move : scene.Move later) (reshares : scene.session.Reshares later.session)
    (encoded : later.encoded = scene.encoded) : scene.Goes later :=
  .silent move reshares.store.next encoded

theorem Goes.made {after : Session} {creation : Creation} (makes : scene.session.Makes creation after) :
    scene.Goes (scene.withSession after) :=
  .reshares (.made makes) makes.reshares rfl

theorem Goes.answered {Value : Type} {request : Request Value} {value : Value} {middleware : Middleware}
    (quiet : request.publishes = false) (uses : request.makes = false)
    (granted : request.outcome scene.session.middleware = (.ok value, middleware)) :
    scene.Goes (scene.withSession { scene.session with middleware }) :=
  .reshares (.answered request uses granted) (request.reshares quiet granted) rfl

theorem Goes.refused {Value : Type} {request : Request Value} {fault : Fault} {middleware : Middleware}
    (quiet : request.publishes = false)
    (failed : request.outcome scene.session.middleware = (.error fault, middleware)) :
    scene.Goes (scene.withSession { scene.session with middleware := middleware.resetReason }) :=
  .reshares (.refused request failed)
    ((request.reshares quiet failed).trans (.of_transport rfl)) rfl

theorem Goes.moves (goes : scene.Goes later) : scene.Moves later := by
  obtain ⟨_, course⟩ := goes
  exact course.moves

end Scene

end PubSub
