import PubSub.Client.Loop

/-!
Scripts and actions.  A callback performs the steps of its subscription's script, and any of them may be
an action that runs further callbacks, so that actions and callbacks are defined by the depth to which
callbacks are nested.
-/

namespace PubSub

namespace Run

def noteCall (subscription : SubscriptionObject) (message : Payload) : Run Nat :=
  changeGet (fun session =>
    (session.calls.length,
      { session with
        calls :=
          session.calls ++ [{ subscription := subscription.name, message, answers := [] }] }))

def noteAnswer (place : Nat) (answer : Except Raised Answer) : Run Unit :=
  change (fun session =>
    { session with
      calls :=
        session.calls.modify place (fun run => { run with answers := run.answers ++ [answer] }) })

def runScript (perform : Action → Run Answer) (message : Payload) (place : Nat) :
    Script → Run Unit
  | [] => return ()
  | (guard, action) :: rest => do
      if guard.allows message then
        if guard.leaves action then
          let _ ← perform (action.within message)
        else
          noteAnswer place (← attempt (perform (action.within message)))
      runScript perform message place rest

/-- Runs the callback of a subscription, which then counts as finished, however it ended. -/
def runCallback (perform : Action → Run Answer) : Callback := fun subscription message => do
  let place ← noteCall subscription message
  ensuring (runScript perform message place subscription.script)
    (fun session => { session with finishedCalls := session.finishedCalls + 1 })

mutual

def perform (callback : Callback) (limit : Nat) : Action → Run Answer
  | .makeContext name arguments => makeContext name arguments
  | .copyContext name source => copyContext name source
  | .contextIsValid context => contextIsValid context
  | .nodeContextIsValid node => nodeContextIsValid node
  | .shutdown context => shutdown context
  | .makeNode name context nodeName space => makeNode name context nodeName space
  | .nodeInfo node => nodeInfo node
  | .live node => live node
  | .makePublisher name node kind topic qos => makePublisher name node kind topic qos
  | .makeSubscription name node kind topic qos registered script =>
      makeSubscription name node kind topic qos registered script
  | .copyPublisher name source => copyPublisher name source
  | .publish publisher draft => publish publisher draft
  | .publishRange publisher first last => publishRange publisher first last
  | .take subscription => take subscription
  | .takeAll subscription => takeAll subscription
  | .dispatch subscription => dispatch callback subscription
  | .handleForeign subscription kind => handleForeign callback subscription kind
  | .info sort name => info sort name
  | .countSubscriptions publisher => countSubscriptions publisher
  | .countPublishers subscription => countPublishers subscription
  | .drop sort name => do
      change (fun session => session.drop sort name)
      return .done
  | .dropExecutor executor => do
      change (fun session => session.dropExecutor executor)
      return .done
  | .alive => Answer.alive <$> view Session.alive
  | .makeExecutor name context threads => makeExecutor name context threads
  | .addNode executor node => addNode executor node
  | .isRunning executor => isRunning executor
  | .stop executor => stop executor
  | .spin executor => spin callback limit executor
  | .spinOnce executor => spinOnce callback executor
  | .work executor untilCalls none destroy =>
      work callback limit executor untilCalls (return none) destroy
  | .work executor untilCalls (some during) destroy =>
      work callback limit executor untilCalls (some <$> performAll callback limit during) destroy
  | .finiNativeNode node => finiNativeNode node
  | .faults => Answer.faults <$> view Session.faults
  | .counters => view (fun session => Answer.counters (session.middleware.ledger.calls .counted))
  | .refuseCopies count => do
      noteLedger (fun ledger => { ledger with refusals := count })
      return .done
  | .throwUser message => raise (.user message)
  | .refuse needed message => do
      needed.forM (fun (sort, name) => requireName sort name)
      raise (.unreadable message)

def performAll (callback : Callback) (limit : Nat) : List Action → Run (List (Except Raised Answer))
  | [] => return []
  | action :: rest => do
      let answer ← attempt (perform callback limit action)
      return answer :: (← performAll callback limit rest)

end

/-- What callbacks do that may be nested to some depth. -/
def callbackWithin (limit : Nat) : Nat → Callback
  | 0 => fun _ _ => stuck
  | depth + 1 => fun subscription message =>
      runCallback (perform (callbackWithin limit depth) limit) subscription message

end Run

namespace Session

/-- A bound on the rounds of a loop, beyond which it counts as endless. -/
def roundLimit : Nat := 1000000

/-- A bound on the depth to which callbacks nest, beyond which they count as endless. -/
def depthLimit : Nat := 10000

def sortCalls (calls : List CallbackRun) : List CallbackRun :=
  calls.mergeSort (fun first second =>
    let firstKey := Bytes.ofString first.subscription
    let secondKey := Bytes.ofString second.subscription
    firstKey < secondKey ||
      (firstKey == secondKey && !(second.message.legible < first.message.legible)))

structure Report where
  result : Except Stop Answer
  calls : List CallbackRun

def step (session : Session) (action : Action) (sorted : Bool) : Report × Session :=
  let callback := Run.callbackWithin roundLimit depthLimit
  match (Run.perform callback roundLimit action).run { session with calls := [] } with
  | (result, after) =>
      let calls := if sorted then sortCalls after.calls else after.calls
      ({ result, calls }, after)

def run (session : Session) (actions : List Action) : Session :=
  actions.foldl (fun current action => (current.step action false).2) session

end Session

end PubSub
