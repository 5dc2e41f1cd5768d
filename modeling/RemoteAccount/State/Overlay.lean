import Std.Data.ExtTreeMap
import RemoteAccount.State.Change

/-!
# Overlays

An overlay gathers changes without making them: for every key that was written the last value it was
given, or that it was deleted, and all events in their order. A deletion is kept as such, since it
has to hide a value underneath.

`Overlay.changes` is what an overlay amounts to: all of its events at once, even if there are none,
and then one write for each of its keys, in the order of the keys. The order of the writes is fixed
so that all validators make the same changes in the same order.

Like a ledger, an overlay keeps a journal of the changes it has been given, one entry for each, so
that an overlay to which nothing has happened can be told from one on which a change has had no
effect. Nothing is read from the journal, and it does not reach the parent.
-/

namespace RemoteAccount

/-- Changes that have been gathered and not yet been made. -/
structure Overlay where
  /-- The last value given to each key that was written, `none` for a deletion. -/
  writes : Std.ExtTreeMap Bytes (Option Bytes)
  events : Array Event
  /-- The changes gathered so far, in the order in which they came. -/
  journal : Array Change

namespace Overlay

def empty : Overlay := ⟨∅, #[], #[]⟩

def apply (overlay : Overlay) (change : Change) : Overlay :=
  match change with
  | .write key value =>
    { overlay with
      writes := overlay.writes.insert key value, journal := overlay.journal.push change }
  | .emit events =>
    { overlay with events := overlay.events ++ events, journal := overlay.journal.push change }

/-- How many keys would be written. -/
def pending (overlay : Overlay) : Nat :=
  overlay.writes.size

/-- The changes that were gathered, the events first and then the writes in the order of their
keys. -/
def changes (overlay : Overlay) : List Change :=
  .emit overlay.events.toList :: overlay.writes.toList.map fun (key, value) => .write key value

@[simp] theorem journal_apply (overlay : Overlay) (change : Change) :
    (overlay.apply change).journal = overlay.journal.push change := by
  cases change <;> rfl

end Overlay

end RemoteAccount
