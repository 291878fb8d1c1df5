import PubSub.Bytes
import PubSub.Table

/-!
Shared ownership of resources.  A handle owns one resource and is itself owned by everyone who shares it;
a child's handle owns its parent's.  When the last owner lets go, the resource is finalized, and only then
does the handle let go of its parent: children are finalized before their parents.
-/

namespace PubSub

/-- A handle: what it is called, its resource, its parent, and how many own it. -/
structure Handle (Resource : Type) where
  kind : Bytes
  resource : Resource
  parent : Option Nat
  owners : Nat
  deriving DecidableEq, Repr

/--
All handles that exist, and those that were finalized, in order and as they then were.  A parent has a
smaller number than its children.
-/
structure Forest (Resource : Type) where
  handles : Arena (Handle Resource)
  finalized : List (Nat × Handle Resource)
  deriving Repr

namespace Forest

variable {Resource State : Type}

def empty : Forest Resource :=
  { handles := .empty
    finalized := [] }

instance : Inhabited (Forest Resource) := ⟨empty⟩

def get? (forest : Forest Resource) (handle : Nat) : Option (Handle Resource) :=
  forest.handles.get? handle

def contains (forest : Forest Resource) (handle : Nat) : Bool :=
  forest.handles.contains handle

def retain (forest : Forest Resource) (handle : Nat) : Forest Resource :=
  { forest with
    handles :=
      forest.handles.modify handle (fun held => { held with owners := held.owners + 1 }) }

/-- Makes a handle with one owner; it becomes an owner of its parent. -/
def make (forest : Forest Resource) (kind : Bytes) (resource : Resource) (parent : Option Nat) :
    Nat × Forest Resource :=
  let shared :=
    match parent with
    | some above => forest.retain above
    | none => forest
  let (handle, handles) := shared.handles.insert { kind, resource, parent, owners := 1 }
  (handle, { shared with handles })

def modify (forest : Forest Resource) (handle : Nat) (change : Resource → Resource) :
    Forest Resource :=
  { forest with
    handles :=
      forest.handles.modify handle (fun held => { held with resource := change held.resource }) }

/--
Removes an owner.  With the last one the handle is finalized, given its parent's handle as it then is, and
lets go of its parent.
-/
def release (finalize : Handle Resource → Option (Handle Resource) → State → State)
    (handle : Nat) (forest : Forest Resource) (state : State) : Forest Resource × State :=
  match forest.get? handle with
  | none => (forest, state)
  | some held =>
      if 1 < held.owners then
        ({ forest with
            handles :=
              forest.handles.modify handle (fun _ => { held with owners := held.owners - 1 }) },
          state)
      else
        let finalized := finalize held (held.parent.bind forest.get?) state
        let left : Forest Resource :=
          { handles := forest.handles.erase handle
            finalized := forest.finalized ++ [(handle, held)] }
        match held.parent with
        | none => (left, finalized)
        | some parent =>
            if _older : parent < handle then release finalize parent left finalized
            else (left, finalized)
termination_by handle

end Forest

end PubSub
