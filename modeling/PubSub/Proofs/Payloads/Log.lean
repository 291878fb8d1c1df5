import PubSub.Proofs.Payloads.Samples

/-!
The log of a run of calls: every publish that there was a message for, in order, with the sample that was made of it if
it was granted.  What a sample holds is the message of its entry.
-/

namespace PubSub

namespace Workspace

variable {workspace after : Workspace} {log : List Publication}

/-- The publish that a call comes to, where the datum is a message of the kind of its buffer. -/
def publication? (workspace : Workspace) (action : Action) : Option Publication :=
  match action with
  | .publish publisher (some datum) =>
      let kind := (kindOf workspace.publisherKinds publisher).getD .int64
      match datum.payload kind with
      | .ok message =>
          some
            { kind
              message
              sample :=
                if (workspace.step action).1 = .status .ok then
                  some workspace.middleware.transport.store.samples.next
                else none }
      | .error _ => none
  | _ => none

/-- The publishes of a run, in order. -/
def publications (workspace : Workspace) (actions : List Action) : List Publication :=
  workspace.gather publication? actions

/-- What every call keeps of samples and of the buffers that messages are filled in. -/
structure Logged (workspace : Workspace) (log : List Publication) : Prop where
  traced : workspace.middleware.transport.store.Traced log
  proper : workspace.middleware.transport.store.Proper
  /-- Messages for a publisher that is there are filled in a buffer of its kind. -/
  buffered : ∀ name state, workspace.publishers.get? name = some state →
    workspace.publisherKinds.get? name = some state.kind

theorem logged_empty : Logged .empty [] :=
  ⟨SampleStore.traced_empty, fun _ _ found => (nomatch found), fun _ _ found => nomatch found⟩

theorem Effect.publisherBuffered {action : Action} {answer : Answer}
    (effect : workspace.Effect action answer after)
    (buffered : ∀ name state, workspace.publishers.get? name = some state →
      workspace.publisherKinds.get? name = some state.kind) :
    ∀ name state, after.publishers.get? name = some state →
      after.publisherKinds.get? name = some state.kind := by
  cases effect with
  | @publisherMade made node kind topic qos owner changed topicName free there runs noted =>
      intro name state found
      dsimp only at found ⊢
      rw [Table.get?_set] at found ⊢
      by_cases same : name = made
      · rw [if_pos same, Option.some.injEq] at found
        rw [if_pos same, ← found]
        rfl
      · rw [if_neg same] at found ⊢
        exact buffered name state found
  | @publisherReleased gone node released known =>
      intro name state found
      exact buffered name state (Table.get?_of_erase found)
  | _ => exact buffered

/-- What a publish comes to, where the datum is a message of the kind of its buffer. -/
theorem step_publish {publisher : Option String} {datum : Datum} {kind : MessageKind} {message : Payload}
    (known : (kindOf workspace.publisherKinds publisher).getD .int64 = kind)
    (fits : datum.payload kind = .ok message) :
    workspace.step (.publish publisher (some datum)) =
      let outcome := (workspace.middleware.withLedger (workspace.middleware.ledger.noteInit kind)).publish
        (slot workspace.publishers publisher) (some (kind.fresh.fill message))
      (.status (statusOf outcome.1),
        workspace.withMiddleware (outcome.2.withLedger (outcome.2.ledger.noteFini kind))) := by
  unfold step publishFilled
  dsimp only
  rw [known, fits]

theorem publication?_publish {publisher : Option String} {datum : Datum} {kind : MessageKind}
    {message : Payload} (known : (kindOf workspace.publisherKinds publisher).getD .int64 = kind)
    (fits : datum.payload kind = .ok message) :
    workspace.publication? (.publish publisher (some datum)) =
      some
        { kind
          message
          sample :=
            if (workspace.step (.publish publisher (some datum))).1 = .status .ok then
              some workspace.middleware.transport.store.samples.next
            else none } := by
  unfold publication?
  dsimp only
  rw [known, fits]

theorem publication?_of_unfit {publisher : Option String} {datum : Datum} {expected : Expected}
    (unfit : datum.payload ((kindOf workspace.publisherKinds publisher).getD .int64) = .error expected) :
    workspace.publication? (.publish publisher (some datum)) = none := by
  unfold publication?
  dsimp only
  rw [unfit]

theorem step_sent_or_unsent
    (buffered : ∀ name state, workspace.publishers.get? name = some state →
      workspace.publisherKinds.get? name = some state.kind) (action : Action) :
    workspace.middleware.transport.store.Unsent (workspace.step action).2.middleware.transport.store ∧
        (∀ publication ∈ (workspace.publication? action).toList, publication.sample = none) ∨
      ∃ kind message,
        workspace.publication? action =
          some { kind, message, sample := some workspace.middleware.transport.store.samples.next } ∧
        workspace.middleware.transport.store.Sent
          (workspace.step action).2.middleware.transport.store kind message := by
  cases sends : action.isPublish with
  | false =>
      refine .inl ⟨(workspace.step_effect action).unsent sends, ?_⟩
      cases action with
      | publish publisher data => cases sends
      | _ => exact nofun
  | true =>
      cases action with
      | publish publisher data =>
          cases data with
          | none =>
              have empty : ∀ layout : Layout, none = some layout → layout.Whole := nofun
              rcases workspace.middleware.publish_sent_or_unsent (slot workspace.publishers publisher)
                  empty with ⟨_, unsent⟩ | ⟨_, _, _, absent, _⟩
              · exact .inl ⟨unsent, nofun⟩
              · cases absent
          | some datum =>
              generalize known : (kindOf workspace.publisherKinds publisher).getD .int64 = kind
              cases fits : datum.payload kind with
              | error expected =>
                  subst known
                  refine .inl ⟨.of_eq ?_, ?_⟩
                  · unfold step publishFilled
                    dsimp only
                    rw [fits]
                    rfl
                  · rw [publication?_of_unfit fits]
                    exact nofun
              | ok message =>
                  obtain ⟨whole, reads⟩ := Datum.payload_fill fits
                  have filled : ∀ layout, some (kind.fresh.fill message) = some layout → layout.Whole := by
                    rintro layout ⟨⟩
                    exact whole
                  have publishes := step_publish known fits
                  have answered := congrArg Prod.fst publishes
                  have left := congrArg
                    (fun outcome => outcome.2.middleware.transport.store) publishes
                  dsimp only at answered left
                  rcases (workspace.middleware.withLedger
                      (workspace.middleware.ledger.noteInit kind)).publish_sent_or_unsent
                        (slot workspace.publishers publisher) filled with
                    ⟨⟨fault, refused⟩, unsent⟩ | ⟨state, layout, there, same, granted, sent⟩
                  · rw [refused] at answered
                    refine .inl ⟨?_, ?_⟩
                    · rw [left]
                      exact ⟨unsent.next, unsent.later⟩
                    · rw [publication?_publish known fits, answered]
                      rintro publication listed
                      rw [Option.toList_some, List.mem_singleton] at listed
                      rw [listed]
                      exact if_neg (fun told => fault.status_ne_ok (Answer.status.inj told))
                  · cases same
                    obtain ⟨name, rfl, found⟩ := slot_eq_some there
                    have its : kind = state.kind := by
                      rw [← known]
                      exact congrArg (fun kind => kind.getD .int64) (buffered name state found)
                    rw [granted, show statusOf (.ok ()) = Status.ok from rfl] at answered
                    refine .inr ⟨kind, message, ?_, ?_⟩
                    · rw [publication?_publish known fits, if_pos answered]
                    · rw [left]
                      rw [reads, ← its] at sent
                      exact ⟨sent.next, sent.admits, sent.made, sent.others⟩
      | _ => cases sends

theorem Logged.step (logged : Logged workspace log) (action : Action) :
    Logged (workspace.step action).2 (log ++ (workspace.publication? action).toList) := by
  have buffered := (workspace.step_effect action).publisherBuffered logged.buffered
  rcases step_sent_or_unsent logged.buffered action with ⟨unsent, refused⟩ | ⟨kind, message, told, sent⟩
  · exact ⟨logged.traced.unsent unsent refused, logged.proper.unsent unsent, buffered⟩
  · rw [told]
    exact ⟨logged.traced.sent sent, logged.proper.sent sent, buffered⟩

theorem Logged.run (logged : Logged workspace log) (actions : List Action) :
    Logged (workspace.run actions) (log ++ workspace.publications actions) := by
  induction actions generalizing workspace log with
  | nil =>
      rw [show workspace.publications [] = [] from rfl, List.append_nil]
      exact logged
  | cons action rest ih =>
      have later := ih (logged.step action)
      rw [List.append_assoc] at later
      exact later

end Workspace

end PubSub
