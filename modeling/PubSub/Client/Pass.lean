import PubSub.Client.Messaging

/-!
Dispatch passes.  A pass visits the nodes of an executor in the order in which they were added, and the
subscriptions of a node in the order in which they were created; each visit takes at most one message and
hands it to the callback.

A pass keeps the nodes that were there when it began, and the subscriptions of a node that were there when
it came to that node, until it is done with them.
-/

namespace PubSub.Run

variable {Value : Type}

/-- The nodes of an executor that still exist; those that are gone leave its list. -/
def pruneNodes (name : String) : Run (List Nat) :=
  changeGet (fun session =>
    match session.executors.get? name with
    | none => ([], session)
    | some executor =>
        let live := session.liveNodes executor
        (live, session.modifyExecutor name (fun old => { old with nodes := live })))

def keepingNodes (nodes : List Nat) (body : Run Value) : Run Value := do
  change (fun session => nodes.foldl Session.retainNode session)
  ensuring body (fun session => nodes.foldl Session.releaseNode session)

def sumOver (visit : Nat → Run Nat) : List Nat → Run Nat
  | [] => return 0
  | index :: rest => do
      let here ← visit index
      let others ← sumOver visit rest
      return here + others

/-- Visits a subscription: one callback ran if a message waited, and none otherwise. -/
def visitSubscription (callback : Callback) (index : Nat) : Run Nat := do
  match ← view (fun session => session.subscriptions.get? index) with
  | none => return 0
  | some subscription =>
      let taken ← deliverFront callback index subscription
      return if taken then 1 else 0

def visitNode (callback : Callback) (node : Nat) : Run Nat := do
  let subscriptions ← pruneSubscriptions node
  keepingSubscriptions subscriptions (sumOver (visitSubscription callback) subscriptions)

/-- One pass of an executor; gives the number of callbacks that ran. -/
def pass (callback : Callback) (name : String) : Run Nat := do
  let _ ← findExecutor name
  let nodes ← pruneNodes name
  keepingNodes nodes (sumOver (visitNode callback) nodes)

def spinOnce (callback : Callback) (name : String) : Run Answer :=
  Answer.dispatched <$> pass callback name

end PubSub.Run
