import PubSub.Message.Ledger

/-!
Message buffers: storage for one native message, made and released through the kind of message it was
made for.  Moving a buffer takes its storage and leaves the kind behind; an emptied buffer releases
nothing.
-/

namespace PubSub

/-- A kind of message and, unless it was moved away, storage for one. -/
structure MessageBuffer where
  kind : MessageKind
  storage : Option Layout
  deriving DecidableEq, Repr, Inhabited

namespace MessageBuffer

inductive Misuse where
  | missingTypeSupport
  | otherKind
  deriving DecidableEq, Repr

def Misuse.message : Misuse → Bytes
  | missingTypeSupport => Bytes.ofString "type support must not be null"
  | otherKind => Bytes.ofString "message buffer holds a different message type"

def make (ledger : Ledger) (kind : MessageKind) : MessageBuffer × Ledger :=
  ({ kind, storage := some kind.fresh }, ledger.noteInit kind)

def release (ledger : Ledger) (buffer : MessageBuffer) : Ledger :=
  if buffer.storage.isSome then ledger.noteFini buffer.kind else ledger

def emptied (buffer : MessageBuffer) : MessageBuffer :=
  { buffer with storage := none }

/-- The storage, seen as a message of a kind.  Only the kind is compared. -/
def view (buffer : MessageBuffer) (kind : MessageKind) : Except Misuse (Option Layout) :=
  if buffer.kind = kind then .ok buffer.storage else .error .otherKind

def fill (buffer : MessageBuffer) (payload : Payload) : MessageBuffer :=
  { buffer with storage := buffer.storage.map (fun layout => layout.fill payload) }

structure Bench where
  ledger : Ledger
  buffers : Table String MessageBuffer
  deriving Inhabited

def Bench.empty : Bench :=
  { ledger := .empty
    buffers := .empty }

inductive Action where
  | make (name : String) (kind : Option MessageKind)
  | fill (name : String) (payload : Payload)
  | view (name : String) (kind : MessageKind)
  | moveInto (name source : String)
  | moveAssign (name source : String)
  | drop (name : String)
  deriving DecidableEq, Repr

inductive Answer where
  | done
  | viewed (storage : Option Layout)
  | misused (misuse : Misuse)
  | unknownName
  deriving DecidableEq, Repr

def Bench.place (bench : Bench) (name : String) (buffer : MessageBuffer) : Bench :=
  { ledger :=
      match bench.buffers.get? name with
      | some previous => previous.release bench.ledger
      | none => bench.ledger
    buffers := bench.buffers.set name buffer }

def Bench.drop (bench : Bench) (name : String) : Bench :=
  match bench.buffers.get? name with
  | some buffer =>
      { ledger := buffer.release bench.ledger
        buffers := bench.buffers.erase name }
  | none => bench

/--
Performs one operation.  A buffer moved into itself is left alone; otherwise the source is emptied before
the target's previous contents are released.
-/
def Bench.step (bench : Bench) (action : Action) : Answer × Bench :=
  match action with
  | .make _ none => (.misused .missingTypeSupport, bench)
  | .make name (some kind) =>
      let (buffer, ledger) := MessageBuffer.make bench.ledger kind
      (.done, { bench with ledger := ledger }.place name buffer)
  | .fill name payload =>
      match bench.buffers.get? name with
      | none => (.unknownName, bench)
      | some buffer =>
          (.done, { bench with buffers := bench.buffers.set name (buffer.fill payload) })
  | .view name kind =>
      match bench.buffers.get? name with
      | none => (.unknownName, bench)
      | some buffer =>
          match buffer.view kind with
          | .ok storage => (.viewed storage, bench)
          | .error misuse => (.misused misuse, bench)
  | .moveInto name source =>
      match bench.buffers.get? source with
      | none => (.unknownName, bench)
      | some buffer =>
          if name = source then (.done, bench)
          else
            let left := { bench with buffers := bench.buffers.set source buffer.emptied }
            (.done, left.place name buffer)
  | .moveAssign name source =>
      match bench.buffers.get? name, bench.buffers.get? source with
      | some _, some buffer =>
          if name = source then (.done, bench)
          else
            let left := { bench with buffers := bench.buffers.set source buffer.emptied }
            (.done, left.place name buffer)
      | _, _ => (.unknownName, bench)
  | .drop name => (.done, bench.drop name)

end MessageBuffer

end PubSub
