import Std.Data.ExtTreeMap
import RemoteAccount.State.Change

/-!
# The ledger

A ledger holds the store of the chain and the stream of its events. It also keeps a journal of the
changes it has taken, one entry for each, so that one can tell a ledger that nobody has touched from
one on which a change has happened to have no effect.

* `Store` is a finite map from byte strings to byte strings, in the order of the keys.
* `Ledger.apply` takes a change.
-/

namespace RemoteAccount

/-- The values of keys, in the order of the keys. -/
abbrev Store := Std.ExtTreeMap Bytes Bytes

def Store.write (store : Store) (key : Bytes) : Option Bytes → Store
  | some value => store.insert key value
  | none => store.erase key

/-- **What is read after a write**: the value written, at its key, and elsewhere what was there. -/
theorem Store.getElem?_write (store : Store) (key : Bytes) (value : Option Bytes) (k : Bytes) :
    (store.write key value)[k]? = if key = k then value else store[k]? := by
  cases value <;> simp [Store.write, Std.ExtTreeMap.getElem?_insert, Std.ExtTreeMap.getElem?_erase]

/-- The state of a chain. -/
structure Ledger where
  store : Store
  events : Array Event
  /-- The changes taken so far. -/
  journal : Array Change

namespace Ledger

def empty : Ledger := ⟨∅, #[], #[]⟩

def apply (ledger : Ledger) (change : Change) : Ledger :=
  match change with
  | .write key value =>
    { ledger with store := ledger.store.write key value, journal := ledger.journal.push change }
  | .emit events =>
    { ledger with events := ledger.events ++ events, journal := ledger.journal.push change }

def get (ledger : Ledger) (key : Bytes) : Option Bytes :=
  ledger.store[key]?

@[simp] theorem journal_apply (ledger : Ledger) (change : Change) :
    (ledger.apply change).journal = ledger.journal.push change := by
  cases change <;> rfl

end Ledger

end RemoteAccount
