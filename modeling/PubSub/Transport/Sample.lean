import PubSub.Message.Ledger

/-!
Samples: published messages, each held once and shared by everyone who keeps it.  A sample counts its
shares; the last one to go releases the message.
-/

namespace PubSub

structure Sample where
  kind : MessageKind
  content : Layout
  shares : Nat
  deriving DecidableEq, Repr, Inhabited

structure SampleStore where
  ledger : Ledger
  samples : Arena Sample
  deriving Repr, Inhabited

namespace SampleStore

def empty : SampleStore :=
  { ledger := .empty
    samples := .empty }

/--
Copies a message into a sample of its own, which starts with one share.  If the copy is refused, there is
no sample and what was made for it is released.
-/
def create (store : SampleStore) (kind : MessageKind) (message : Layout) :
    Option Nat × SampleStore :=
  match (store.ledger.noteInit kind).copy kind message kind.fresh with
  | (none, ledger) => (none, { store with ledger := ledger.noteFini kind })
  | (some content, ledger) =>
      let (sample, samples) := store.samples.insert { kind, content, shares := 1 }
      (some sample, { ledger, samples })

def retain (store : SampleStore) (sample : Nat) : SampleStore :=
  { store with
    samples :=
      store.samples.modify sample (fun held => { held with shares := held.shares + 1 }) }

/-- Gives a share up; the message is released with the last one. -/
def release (store : SampleStore) (sample : Nat) : SampleStore :=
  match store.samples.get? sample with
  | none => store
  | some held =>
      if held.shares ≤ 1 then
        { ledger := store.ledger.noteFini held.kind
          samples := store.samples.erase sample }
      else
        { store with
          samples := store.samples.modify sample (fun _ => { held with shares := held.shares - 1 }) }

def releaseAll (store : SampleStore) (samples : List Nat) : SampleStore :=
  samples.foldl release store

def payload? (store : SampleStore) (sample : Nat) : Option Payload :=
  (store.samples.get? sample).map (fun held => held.content.payload)

end SampleStore

end PubSub
