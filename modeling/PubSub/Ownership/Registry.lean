import PubSub.Ownership.Forest

/-!
A registry of handles under names.  Its resources are numbers, each with a finalizer of its own that logs
the resource, may leave a reason behind, and may fail; failures are counted as faults, and the reason of a
fault is taken away with its report.
-/

namespace PubSub

structure Tracked where
  value : Int64
  result : Int
  reason : Option Bytes
  deriving DecidableEq, Repr

structure Finalized where
  kind : Bytes
  value : Option Int64
  deriving DecidableEq, Repr

structure Diagnostics where
  log : List Finalized
  faults : Nat
  reason : Bytes
  deriving DecidableEq, Repr, Inhabited

namespace Diagnostics

def empty : Diagnostics :=
  { log := []
    faults := 0
    reason := [] }

def report (diagnostics : Diagnostics) : Diagnostics :=
  { diagnostics with
    faults := diagnostics.faults + 1
    reason := [] }

/-- Runs a finalizer: it logs, may leave a reason, and is reported where its result is not zero. -/
def finalize (diagnostics : Diagnostics) (finalized : Finalized) (result : Int)
    (reason : Option Bytes) : Diagnostics :=
  let logged :=
    { diagnostics with
      log := diagnostics.log ++ [finalized]
      reason := reason.getD diagnostics.reason }
  if result = 0 then logged else logged.report

end Diagnostics

def Tracked.finalize (handle : Handle Tracked) (_parent : Option (Handle Tracked))
    (diagnostics : Diagnostics) : Diagnostics :=
  diagnostics.finalize { kind := handle.kind, value := some handle.resource.value }
    handle.resource.result handle.resource.reason

structure Registry where
  forest : Forest Tracked
  names : Table String Nat
  diagnostics : Diagnostics
  deriving Inhabited

namespace Registry

def empty : Registry :=
  { forest := .empty
    names := .empty
    diagnostics := .empty }

inductive Action where
  | make (name : String) (kind : Bytes) (tracked : Tracked) (parent : Option String)
  | makeRefused (kind : Bytes) (result : Int) (reason : Option Bytes)
  | alias (name source : String)
  | add (name : String) (number : Int64)
  | read (name : String)
  | failInside (name : String)
  | drop (name : String)
  | setReason (reason : Bytes)
  | report
  deriving DecidableEq, Repr

inductive Answer where
  | done
  | made (kind : Bytes)
  | value (number : Int64)
  | refused
  | failedInside
  | unknownName
  deriving DecidableEq, Repr

def release (registry : Registry) (handle : Nat) : Registry :=
  let (forest, diagnostics) :=
    registry.forest.release Tracked.finalize handle registry.diagnostics
  { registry with forest, diagnostics }

def place (registry : Registry) (name : String) (handle : Nat) : Registry :=
  let placed := { registry with names := registry.names.set name handle }
  match registry.names.get? name with
  | some previous => placed.release previous
  | none => placed

def drop (registry : Registry) (name : String) : Registry :=
  match registry.names.get? name with
  | some handle => { registry with names := registry.names.erase name }.release handle
  | none => registry

/-- Makes a handle under a name.  The previous one goes after the new one exists. -/
def make (registry : Registry) (name : String) (kind : Bytes) (tracked : Tracked)
    (parent : Option Nat) : Registry :=
  let (handle, forest) := registry.forest.make kind tracked parent
  { registry with forest }.place name handle

def setValue (registry : Registry) (handle : Nat) (value : Int64) : Registry :=
  { registry with
    forest := registry.forest.modify handle (fun tracked => { tracked with value }) }

def find? (registry : Registry) (name : String) : Option (Nat × Int64) :=
  match registry.names.get? name with
  | none => none
  | some handle => (registry.forest.get? handle).map (fun held => (handle, held.resource.value))

def step (registry : Registry) (action : Action) : Answer × Registry :=
  match action with
  | .make name kind tracked none => (.made kind, registry.make name kind tracked none)
  | .make name kind tracked (some parent) =>
      match registry.names.get? parent with
      | none => (.unknownName, registry)
      | some above => (.made kind, registry.make name kind tracked (some above))
  | .makeRefused kind result reason =>
      (.refused,
        { registry with
          diagnostics :=
            registry.diagnostics.finalize { kind, value := none } result reason })
  | .alias name source =>
      match registry.names.get? source with
      | none => (.unknownName, registry)
      | some handle =>
          (.done, { registry with forest := registry.forest.retain handle }.place name handle)
  | .add name number =>
      match registry.find? name with
      | none => (.unknownName, registry)
      | some (handle, value) =>
          (.value (value + number), registry.setValue handle (value + number))
  | .read name =>
      match registry.find? name with
      | none => (.unknownName, registry)
      | some (_, value) => (.value value, registry)
  | .failInside name =>
      match registry.find? name with
      | none => (.unknownName, registry)
      | some (handle, _) => (.failedInside, registry.setValue handle (-1))
  | .drop name => (.done, registry.drop name)
  | .setReason reason =>
      (.done, { registry with diagnostics := { registry.diagnostics with reason } })
  | .report => (.done, { registry with diagnostics := registry.diagnostics.report })

def run (registry : Registry) (actions : List Action) : Registry :=
  actions.foldl (fun current action => (current.step action).2) registry

def clearLog (registry : Registry) : Registry :=
  { registry with diagnostics := { registry.diagnostics with log := [] } }

def close (registry : Registry) : Registry :=
  (registry.names.keys.mergeSort (fun left right => decide (left ≤ right))).foldl drop registry

end Registry

end PubSub
