import PubSub.Middleware.Context

/-!
Nodes: a name and a namespace in a context, which the process arguments may replace.
-/

namespace PubSub.Middleware

def absoluteNamespace (space : Bytes) : Bytes :=
  if space.head? = some Name.slash then space else Name.slash :: space

/-- The name and namespace a node gets: those of the arguments, where they apply, before its own. -/
def effectiveOwner (arguments : Arguments) (useArguments : Bool) (name space : Bytes) : Name.Owner :=
  if useArguments then
    { name := arguments.nodeName.getD name
      space := absoluteNamespace (arguments.nodeNamespace.getD space) }
  else
    { name
      space := absoluteNamespace space }

/-- What speaks against a node of this name and namespace; the name comes first. -/
def ownerFault? (owner : Name.Owner) : Option Fault :=
  let ofName := Name.checkNodeName owner.name
  let ofSpace := Name.checkNamespace owner.space
  if ofName.verdict ≠ .valid then some (.invalidNodeName owner.name ofName)
  else if ofSpace.verdict ≠ .valid then some (.invalidNamespace owner.space ofSpace)
  else none

/--
Initialises a node.  The options say whether the process arguments may replace its name and namespace and
remap its topics.
-/
def initNode (middleware : Middleware) (slot : Option (Slot NodeState)) (name space : Option Bytes)
    (context : Option (Slot Nat)) (options : Option Bool) : Outcome NodeState :=
  match slot, name, space, context, options with
  | some slot, some name, some space, some context, some useArguments =>
      if slot.isSome then middleware.fail .nodeAlreadyInitialized
      else
        match context with
        | none => middleware.fail .contextNotValid
        | some context =>
            if middleware.transport.isValid context then
              let owner :=
                effectiveOwner (middleware.transport.arguments context) useArguments name.beforeNul
                  space.beforeNul
              match ownerFault? owner with
              | some fault => middleware.fail fault
              | none => (.ok { owner, useArguments, context }, middleware)
            else middleware.fail .contextNotValid
  | _, _, _, _, _ => middleware.fail .missingNodeArgument

def finiNode (middleware : Middleware) (slot : Option (Slot NodeState)) : Outcome Unit :=
  match slot with
  | none => middleware.fail .missingNode
  | some _ => (.ok (), middleware)

def validNode? (middleware : Middleware) (slot : Option (Slot NodeState)) : Option NodeState :=
  match slot with
  | some (some node) => if middleware.transport.isValid node.context then some node else none
  | _ => none

/--
The full name of a topic that a node uses.  Rules whose sources do not expand are passed over, and doing
so forgets the reason of any failure before.
-/
def resolveTopic (middleware : Middleware) (node : NodeState) (topic : Bytes) : Outcome Bytes :=
  let rules :=
    if node.useArguments then (middleware.transport.arguments node.context).remaps else []
  let resolution := node.owner.resolve rules topic
  let passed := if resolution.passedIdle then middleware.resetReason else middleware
  match resolution.result with
  | .ok full => (.ok full, passed)
  | .error fault => passed.fail fault

end PubSub.Middleware
