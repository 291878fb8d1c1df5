import PubSub.Message.Kind

/-!
The ledger of a run: how often each kind of message was made, released and copied, and how many of the
coming copies of counted messages are to be refused.
-/

namespace PubSub

structure Calls where
  init : Nat
  fini : Nat
  copy : Nat
  acquired : Nat
  released : Nat
  deriving DecidableEq, Repr, Inhabited

def Calls.none : Calls :=
  { init := 0
    fini := 0
    copy := 0
    acquired := 0
    released := 0 }

structure Ledger where
  kinds : Table MessageKind Calls
  refusals : Nat
  deriving Repr, Inhabited

namespace Ledger

def empty : Ledger :=
  { kinds := .empty
    refusals := 0 }

def calls (ledger : Ledger) (kind : MessageKind) : Calls :=
  (ledger.kinds.get? kind).getD .none

def note (ledger : Ledger) (kind : MessageKind) (change : Calls → Calls) : Ledger :=
  { ledger with kinds := ledger.kinds.set kind (change (ledger.calls kind)) }

def noteInit (ledger : Ledger) (kind : MessageKind) : Ledger :=
  ledger.note kind (fun calls => { calls with init := calls.init + 1 })

def noteFini (ledger : Ledger) (kind : MessageKind) : Ledger :=
  ledger.note kind (fun calls => { calls with fini := calls.fini + 1 })

def noteCopy (ledger : Ledger) (kind : MessageKind) : Ledger :=
  ledger.note kind (fun calls => { calls with copy := calls.copy + 1 })

def noteAcquired (ledger : Ledger) (kind : MessageKind) : Ledger :=
  ledger.note kind (fun calls => { calls with acquired := calls.acquired + 1 })

def noteReleased (ledger : Ledger) (kind : MessageKind) : Ledger :=
  ledger.note kind (fun calls => { calls with released := calls.released + 1 })

/-- Copies a message over another; a refused copy counts as well. -/
def copy (ledger : Ledger) (kind : MessageKind) (source destination : Layout) :
    Option Layout × Ledger :=
  let noted := ledger.noteCopy kind
  if kind = .counted ∧ 0 < ledger.refusals then
    (none, { noted with refusals := ledger.refusals - 1 })
  else (kind.copy source destination, noted)

def live (ledger : Ledger) (kind : MessageKind) : Int :=
  (ledger.calls kind).init - (ledger.calls kind).fini

theorem calls_note (ledger : Ledger) (kind other : MessageKind) (change : Calls → Calls) :
    (ledger.note kind change).calls other =
      if other = kind then change (ledger.calls kind) else ledger.calls other := by
  unfold note calls
  rw [Table.get?_set]
  by_cases same : other = kind <;> simp [same]

end Ledger

end PubSub
