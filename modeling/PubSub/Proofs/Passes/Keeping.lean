import Mathlib.Logic.Function.Iterate
import PubSub.Client.Session
import PubSub.Proofs.Owned

/-!
Keeping and letting go.  Whoever keeps objects adds one owner to each of them, and takes it away again; where each of
them has an owner besides, they all stay, with the owners that they had.
-/

namespace PubSub

structure Counter (Value : Type) where
  owners : Value → Nat
  put : Value → Nat → Value
  owners_put : ∀ value number, owners (put value number) = number
  put_put : ∀ value first second, put (put value first) second = put value second
  put_owners : ∀ value, put value (owners value) = value

namespace Counter

variable {Value : Type} (counter : Counter Value)

def gain (value : Value) : Value :=
  counter.put value (counter.owners value + 1)

def lose (value : Value) : Value :=
  counter.put value (counter.owners value - 1)

theorem iterate_gain (value : Value) (times : Nat) :
    counter.gain^[times] value = counter.put value (counter.owners value + times) := by
  induction times with
  | zero => exact (counter.put_owners value).symm
  | succ times ih => rw [Function.iterate_succ_apply', ih, gain, counter.owners_put, counter.put_put, Nat.add_assoc]

theorem iterate_lose (value : Value) (times : Nat) :
    counter.lose^[times] value = counter.put value (counter.owners value - times) := by
  induction times with
  | zero => exact (counter.put_owners value).symm
  | succ times ih => rw [Function.iterate_succ_apply', ih, lose, counter.owners_put, counter.put_put, Nat.sub_sub]

end Counter

namespace Arena

variable {Value : Type} {arena : Arena Value} {index : Nat}

theorem get?_foldl_modify (step : Value → Value) (items : List Nat) (arena : Arena Value) (index : Nat) :
    (items.foldl (fun current item => current.modify item step) arena).get? index =
      (arena.get? index).map (step^[items.count index]) := by
  induction items generalizing arena with
  | nil => exact Option.map_id_apply.symm
  | cons item rest ih =>
      rw [List.foldl_cons, ih, get?_modify]
      by_cases same : index = item
      · rw [if_pos same, same, List.count_cons_self, Option.map_map]
        rfl
      · rw [if_neg same, List.count_cons_of_ne (Ne.symm same)]

theorem modify_congr {value : Value} {change other : Value → Value} (found : arena.get? index = some value)
    (same : change value = other value) : arena.modify index change = arena.modify index other := by
  have cells : arena.cells.modify index change = arena.cells.modify index other := by
    unfold Table.modify
    rw [show arena.cells.get? index = some value from found]
    dsimp only
    rw [same]
  unfold modify
  simp only [cells]

def gain (arena : Arena Value) (counter : Counter Value) (items : List Nat) : Arena Value :=
  items.foldl (fun current item => current.modify item counter.gain) arena

def lose (arena : Arena Value) (counter : Counter Value) (items : List Nat) : Arena Value :=
  items.foldl (fun current item => current.modify item counter.lose) arena

variable (arena) (counter : Counter Value) (items : List Nat)

theorem get?_gain (index : Nat) : (arena.gain counter items).get? index =
    (arena.get? index).map (fun value => counter.put value (counter.owners value + items.count index)) := by
  rw [gain, get?_foldl_modify]
  exact congrArg (fun change => (arena.get? index).map change) (funext (counter.iterate_gain · _))

theorem get?_lose (index : Nat) : (arena.lose counter items).get? index =
    (arena.get? index).map (fun value => counter.put value (counter.owners value - items.count index)) := by
  rw [lose, get?_foldl_modify]
  exact congrArg (fun change => (arena.get? index).map change) (funext (counter.iterate_lose · _))

def Spare : Prop :=
  ∀ item ∈ items, ∃ value, arena.get? item = some value ∧ items.count item < counter.owners value

variable {arena counter items}

theorem Spare.head {item : Nat} {rest : List Nat} (spare : arena.Spare counter (item :: rest)) :
    ∃ value, arena.get? item = some value ∧ 1 < counter.owners value := by
  obtain ⟨value, found, more⟩ := spare item List.mem_cons_self
  rw [List.count_cons_self] at more
  exact ⟨value, found, by omega⟩

theorem Spare.tail {item : Nat} {rest : List Nat} (spare : arena.Spare counter (item :: rest)) :
    (arena.modify item counter.lose).Spare counter rest := by
  intro other member
  obtain ⟨value, found, more⟩ := spare other (List.mem_cons_of_mem _ member)
  rw [get?_modify]
  by_cases same : other = item
  · subst same
    rw [List.count_cons_self] at more
    rw [if_pos rfl, found]
    refine ⟨_, rfl, ?_⟩
    rw [Counter.lose, counter.owners_put]
    omega
  · rw [List.count_cons_of_ne (Ne.symm same)] at more
    rw [if_neg same]
    exact ⟨value, found, more⟩

variable {later : Arena Value}

theorem owners_of_gain
    (same : ∀ index, (later.get? index).map counter.owners =
      ((arena.gain counter items).get? index).map counter.owners) (index : Nat) :
    (later.get? index).map counter.owners =
      (arena.get? index).map (fun value => counter.owners value + items.count index) := by
  rw [same, get?_gain, Option.map_map]
  exact congrArg (fun change => (arena.get? index).map change)
    (funext (fun value => counter.owners_put value _))

theorem owners_lose_of_gain
    (same : ∀ index, (later.get? index).map counter.owners =
      ((arena.gain counter items).get? index).map counter.owners) (index : Nat) :
    ((later.lose counter items).get? index).map counter.owners = (arena.get? index).map counter.owners := by
  have now := congrArg (Option.map (fun owners => owners - items.count index)) (owners_of_gain same index)
  rw [Option.map_map, Option.map_map] at now
  rw [get?_lose, Option.map_map]
  calc
    _ = (later.get? index).map (fun value => counter.owners value - items.count index) :=
        congrArg (fun change => (later.get? index).map change) (funext (fun value => counter.owners_put value _))
    _ = _ := now
    _ = _ :=
        congrArg (fun change => (arena.get? index).map change)
          (funext (fun value => Nat.add_sub_cancel _ _))

theorem get?_lose_of_gain (same : ∀ index, later.get? index = (arena.gain counter items).get? index) (index : Nat) :
    (later.lose counter items).get? index = arena.get? index := by
  rw [get?_lose, same, get?_gain]
  cases arena.get? index with
  | none => rfl
  | some value =>
      simp only [Option.map_some, counter.owners_put, counter.put_put, Nat.add_sub_cancel, counter.put_owners]

theorem spare_of_gain (owned : ∀ item ∈ items, ∃ value, arena.get? item = some value ∧ 0 < counter.owners value)
    (same : ∀ index, (later.get? index).map counter.owners =
      ((arena.gain counter items).get? index).map counter.owners) : later.Spare counter items := by
  intro item member
  obtain ⟨value, found, positive⟩ := owned item member
  have now := owners_of_gain same item
  rw [found, Option.map_some, Option.map_eq_some_iff] at now
  obtain ⟨current, there, owners⟩ := now
  exact ⟨current, there, by omega⟩

end Arena

def SubscriptionObject.counter : Counter SubscriptionObject where
  owners := SubscriptionObject.owners
  put held number := { held with owners := number }
  owners_put _ _ := rfl
  put_put _ _ _ := rfl
  put_owners _ := rfl

def NodeObject.counter : Counter NodeObject where
  owners := NodeObject.owners
  put held number := { held with owners := number }
  owners_put _ _ := rfl
  put_put _ _ _ := rfl
  put_owners _ := rfl

namespace Session

def withNodes (session : Session) (nodes : Arena NodeObject) : Session :=
  { session with nodes }

def withSubscriptions (session : Session) (subscriptions : Arena SubscriptionObject) : Session :=
  { session with subscriptions }

theorem foldl_retainSubscription (items : List Nat) (session : Session) :
    items.foldl retainSubscription session =
      session.withSubscriptions (session.subscriptions.gain SubscriptionObject.counter items) := by
  induction items generalizing session with
  | nil => rfl
  | cons item rest ih => exact ih (session.retainSubscription item)

theorem foldl_retainNode (items : List Nat) (session : Session) :
    items.foldl retainNode session =
      session.withNodes (session.nodes.gain NodeObject.counter items) := by
  induction items generalizing session with
  | nil => rfl
  | cons item rest ih => exact ih (session.retainNode item)

theorem foldl_releaseSubscription {items : List Nat} {session : Session}
    (spare : session.subscriptions.Spare SubscriptionObject.counter items) :
    items.foldl releaseSubscription session =
      session.withSubscriptions (session.subscriptions.lose SubscriptionObject.counter items) := by
  induction items generalizing session with
  | nil => rfl
  | cons item rest ih =>
      obtain ⟨held, found, more⟩ := spare.head
      have here : session.releaseSubscription item = session.withSubscriptions
          (session.subscriptions.modify item SubscriptionObject.counter.lose) := by
        have lost : session.subscriptions.modify item
            (fun _ => { held with owners := held.owners - 1 }) =
              session.subscriptions.modify item SubscriptionObject.counter.lose :=
          Arena.modify_congr found rfl
        unfold releaseSubscription
        rw [found]
        dsimp only
        rw [if_pos (show 1 < held.owners from more), lost]
        rfl
      rw [List.foldl_cons, here]
      exact ih spare.tail

theorem foldl_releaseNode {items : List Nat} {session : Session}
    (spare : session.nodes.Spare NodeObject.counter items) :
    items.foldl releaseNode session =
      session.withNodes (session.nodes.lose NodeObject.counter items) := by
  induction items generalizing session with
  | nil => rfl
  | cons item rest ih =>
      obtain ⟨held, found, more⟩ := spare.head
      have here : session.releaseNode item =
          session.withNodes (session.nodes.modify item NodeObject.counter.lose) := by
        have lost : session.nodes.modify item (fun _ => { held with owners := held.owners - 1 }) =
            session.nodes.modify item NodeObject.counter.lose :=
          Arena.modify_congr found rfl
        unfold releaseNode
        rw [found]
        dsimp only
        rw [if_pos (show 1 < held.owners from more), lost]
        rfl
      rw [List.foldl_cons, here]
      exact ih spare.tail

end Session

end PubSub
