import Mathlib.Data.List.Basic
import PubSub.Client.Pass

/-!
Callbacks that only listen.  What a message does to a listener depends on nothing but what was remembered before, and
it does nothing but to be remembered, or to have something raised.  Messages that are told one after the other are
heard up to the first for which something is raised, that one included.
-/

namespace PubSub

/-- What callbacks leave behind: the record of those that ran, and how many of them finished. -/
structure Memory where
  calls : List CallbackRun
  finishedCalls : Nat

abbrev Listener := Nat → Payload → Memory → Except Raised Unit × Memory

namespace Session

def memory (session : Session) : Memory :=
  { calls := session.calls
    finishedCalls := session.finishedCalls }

def withMemory (session : Session) (memory : Memory) : Session :=
  { session with
    calls := memory.calls
    finishedCalls := memory.finishedCalls }

/-- What waits for a subscription, oldest first. -/
def pending (session : Session) (index : Nat) : List Payload :=
  match session.subscriptions.get? index with
  | none => []
  | some held => (session.waiting held).filterMap session.middleware.transport.store.payload?

theorem pending_of_found {session : Session} {index : Nat} {held : SubscriptionObject}
    (found : session.subscriptions.get? index = some held) :
    session.pending index = (session.waiting held).filterMap session.middleware.transport.store.payload? := by
  unfold pending
  rw [found]

theorem pending_of_gone {session : Session} {index : Nat} (gone : session.subscriptions.get? index = none) :
    session.pending index = [] := by
  unfold pending
  rw [gone]

/-- The messages at one place of the queues of some subscriptions, in the order of these; the front is at place zero. -/
def row (session : Session) (indices : List Nat) (place : Nat) : List (Nat × Payload) :=
  indices.filterMap (fun index => (session.pending index)[place]?.map (fun message => (index, message)))

theorem row_append (session : Session) (first second : List Nat) (place : Nat) :
    session.row (first ++ second) place = session.row first place ++ session.row second place :=
  List.filterMap_append

theorem row_singleton (session : Session) (index place : Nat) :
    session.row [index] place = ((session.pending index)[place]?.map (fun message => (index, message))).toList := by
  unfold row
  cases here : (session.pending index)[place]? <;> simp [here]

theorem fst_row_sublist (session : Session) (indices : List Nat) (place : Nat) :
    ((session.row indices place).map Prod.fst).Sublist indices := by
  induction indices with
  | nil => exact List.Sublist.slnil
  | cons index rest ih =>
      unfold row at ih ⊢
      cases here : (session.pending index)[place]? with
      | none =>
          rw [List.filterMap_cons_none (by rw [here]; rfl)]
          exact ih.cons index
      | some message =>
          rw [List.filterMap_cons_some (by rw [here]; rfl), List.map_cons]
          exact ih.cons_cons index

theorem row_congr {before after : Session} {indices : List Nat} (place : Nat)
    (same : ∀ index ∈ indices, after.pending index = before.pending index) :
    after.row indices place = before.row indices place :=
  List.filterMap_congr (fun index member => by rw [same index member])

end Session

structure Heard where
  messages : List (Nat × Payload)
  raised : Option Raised
  memory : Memory

/-- Tells messages one after the other, until something is raised. -/
def hear (listener : Listener) : List (Nat × Payload) → Memory → Heard
  | [], memory =>
      { messages := []
        raised := none
        memory }
  | (index, message) :: rest, memory =>
      match listener index message memory with
      | (.ok _, after) =>
          let later := hear listener rest after
          { later with messages := (index, message) :: later.messages }
      | (.error raised, after) =>
          { messages := [(index, message)]
            raised := some raised
            memory := after }

/-- How a run ends that tells messages: with the number of those that were heard, or by what was raised. -/
def Heard.ended (heard : Heard) : Except Stop Nat :=
  match heard.raised with
  | none => .ok heard.messages.length
  | some raised => .error (.raised raised)

section

variable {listener : Listener} {memory after : Memory} {index : Nat} {message : Payload}
  {first messages : List (Nat × Payload)} {raised : Raised}

theorem hear_cons_ok (told : listener index message memory = (.ok (), after)) (rest : List (Nat × Payload)) :
    hear listener ((index, message) :: rest) memory =
      { hear listener rest after with messages := (index, message) :: (hear listener rest after).messages } := by
  rw [hear, told]

theorem hear_cons_error (told : listener index message memory = (.error raised, after))
    (rest : List (Nat × Payload)) :
    hear listener ((index, message) :: rest) memory =
      { messages := [(index, message)]
        raised := some raised
        memory := after } := by
  rw [hear, told]

theorem hear_singleton (listener : Listener) (index : Nat) (message : Payload) (memory : Memory) :
    (hear listener [(index, message)] memory).messages = [(index, message)] ∧
      (hear listener [(index, message)] memory).memory = (listener index message memory).2 ∧
      (hear listener [(index, message)] memory).ended =
        ((listener index message memory).1.mapError Stop.raised).map (fun _ => 1) := by
  rcases told : listener index message memory with ⟨raised | _, after⟩
  · rw [hear_cons_error told]
    exact ⟨rfl, rfl, rfl⟩
  · rw [hear_cons_ok told]
    exact ⟨rfl, rfl, rfl⟩

theorem messages_of_none (silent : (hear listener messages memory).raised = none) :
    (hear listener messages memory).messages = messages := by
  induction messages generalizing memory with
  | nil => rfl
  | cons entry rest ih =>
      obtain ⟨index, message⟩ := entry
      rcases told : listener index message memory with ⟨raised | _, after⟩
      · rw [hear_cons_error told] at silent
        cases silent
      · rw [hear_cons_ok told] at silent ⊢
        exact congrArg ((index, message) :: ·) (ih silent)

theorem messages_initial (listener : Listener) (messages : List (Nat × Payload)) (memory : Memory) :
    (hear listener messages memory).messages <+: messages := by
  induction messages generalizing memory with
  | nil => exact List.prefix_refl _
  | cons entry rest ih =>
      obtain ⟨index, message⟩ := entry
      rcases told : listener index message memory with ⟨raised | _, after⟩
      · rw [hear_cons_error told]
        exact List.prefix_cons_inj _ |>.2 List.nil_prefix
      · rw [hear_cons_ok told]
        exact List.prefix_cons_inj _ |>.2 (ih after)

/-- Where nothing is raised, what comes after is heard with what is remembered by then. -/
theorem hear_append_of_none (silent : (hear listener first memory).raised = none)
    (second : List (Nat × Payload)) :
    hear listener (first ++ second) memory =
      let late := hear listener second (hear listener first memory).memory
      { late with messages := first ++ late.messages } := by
  induction first generalizing memory with
  | nil => rfl
  | cons entry rest ih =>
      obtain ⟨index, message⟩ := entry
      rcases told : listener index message memory with ⟨raised | _, after⟩
      · rw [hear_cons_error told] at silent
        cases silent
      · rw [hear_cons_ok told] at silent
        rw [List.cons_append, hear_cons_ok told, hear_cons_ok told, ih silent]
        rfl

theorem hear_append_of_some (stopped : (hear listener first memory).raised = some raised)
    (second : List (Nat × Payload)) :
    hear listener (first ++ second) memory = hear listener first memory := by
  induction first generalizing memory with
  | nil => cases stopped
  | cons entry rest ih =>
      obtain ⟨index, message⟩ := entry
      rcases told : listener index message memory with ⟨failed | _, after⟩
      · rw [List.cons_append, hear_cons_error told, hear_cons_error told]
      · rw [hear_cons_ok told] at stopped
        rw [List.cons_append, hear_cons_ok told, hear_cons_ok told, ih stopped]

theorem exists_last_of_some (stopped : (hear listener messages memory).raised = some raised) :
    ∃ before index message after, messages = before ++ (index, message) :: after ∧
      (hear listener messages memory).messages = before ++ [(index, message)] ∧
      (hear listener before memory).raised = none ∧
      listener index message (hear listener before memory).memory =
        (.error raised, (hear listener messages memory).memory) := by
  induction messages generalizing memory with
  | nil => cases stopped
  | cons entry rest ih =>
      obtain ⟨index, message⟩ := entry
      rcases told : listener index message memory with ⟨failed | _, later⟩
      · rw [hear_cons_error told] at stopped ⊢
        cases stopped
        exact ⟨[], index, message, rest, rfl, rfl, rfl, told⟩
      · rw [hear_cons_ok told] at stopped ⊢
        obtain ⟨before, place, last, after, split, heard, silent, raises⟩ := ih stopped
        refine ⟨(index, message) :: before, place, last, after, ?_, ?_, ?_, ?_⟩
        · rw [split, List.cons_append]
        · rw [heard, List.cons_append]
        · rw [hear_cons_ok told]
          exact silent
        · rw [hear_cons_ok told]
          exact raises

end

end PubSub
