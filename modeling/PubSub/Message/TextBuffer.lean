import PubSub.Bytes
import PubSub.Table

/-!
Text storage of native messages: a block of bytes of which the first `size` are the text and the next is
zero.  A buffer without a block is zeroed; it reads as the empty text.  Blocks are reused where they are
large enough and are replaced by ones that just fit where they are not.
-/

namespace PubSub

structure TextBuffer where
  block : Option Bytes
  size : Nat
  deriving DecidableEq, Repr, Inhabited

namespace TextBuffer

def zeroed : TextBuffer :=
  { block := none
    size := 0 }

def fresh : TextBuffer :=
  { block := some [0]
    size := 0 }

def capacity (buffer : TextBuffer) : Nat :=
  match buffer.block with
  | none => 0
  | some block => block.length

def data? (buffer : TextBuffer) : Option Bytes :=
  buffer.block.map (fun block => block.take buffer.size)

def contents (buffer : TextBuffer) : Bytes :=
  buffer.data?.getD []

def terminated (buffer : TextBuffer) : Bool :=
  match buffer.block with
  | none => false
  | some block => block[buffer.size]? = some 0

/-- Puts a text and a zero byte at the front of a block, or into a new one that just fits. -/
def store (buffer : TextBuffer) (text : Bytes) : TextBuffer :=
  { block :=
      match buffer.block with
      | none => some (text ++ [0])
      | some block => some (text ++ 0 :: block.drop (text.length + 1))
    size := text.length }

/-- Stores the first bytes of a text.  Without a text only a count of zero is accepted. -/
def assignFirst (buffer : TextBuffer) (value : Option Bytes) (count : Nat) : Bool × TextBuffer :=
  match value with
  | none => if count = 0 then (true, buffer.store []) else (false, buffer)
  | some text =>
      (true, buffer.store (text.take count ++ List.replicate (count - text.length) 0))

/-- Stores a text up to its first zero byte. -/
def assign (buffer : TextBuffer) (value : Option Bytes) : Bool × TextBuffer :=
  match value with
  | none => (false, buffer)
  | some text => (true, buffer.store text.beforeNul)

def copyFrom (buffer source : TextBuffer) : Bool × TextBuffer :=
  buffer.assignFirst source.data? source.size

/-- The buffers of a run, by name; a name not used before stands for a zeroed buffer. -/
abbrev Shelf := Table String TextBuffer

def Shelf.buffer (shelf : Shelf) (name : String) : TextBuffer :=
  (shelf.get? name).getD zeroed

inductive Action where
  | init (target : Option String)
  | release (target : Option String)
  | assign (target : Option String) (value : Option Bytes)
  | assignFirst (target : Option String) (value : Option Bytes) (count : Nat)
  | copy (target source : Option String)
  deriving DecidableEq, Repr

def Action.target : Action → Option String
  | init target => target
  | release target => target
  | assign target _ => target
  | assignFirst target _ _ => target
  | copy target _ => target

/--
Performs one operation and says whether it succeeded.  A null buffer is refused, and so is a null source
of a copy; a buffer copied onto itself is left alone.
-/
def Shelf.step (shelf : Shelf) (action : Action) : Bool × Shelf :=
  match action.target with
  | none => (false, shelf)
  | some name =>
      let buffer := shelf.buffer name
      let (done, changed) :=
        match action with
        | .init _ => (true, fresh)
        | .release _ => (true, zeroed)
        | .assign _ value => buffer.assign value
        | .assignFirst _ value count => buffer.assignFirst value count
        | .copy _ none => (false, buffer)
        | .copy _ (some source) =>
            if source = name then (true, buffer) else buffer.copyFrom (shelf.buffer source)
      (done, shelf.set name changed)

end TextBuffer

end PubSub
