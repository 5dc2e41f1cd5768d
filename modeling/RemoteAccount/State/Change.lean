import RemoteAccount.Bytes.Basic
import RemoteAccount.Event

/-!
# Changes of a state

Everything that can happen to a state is one of two things: a key gets a value or loses it, and
events are emitted. Both a ledger and a branch over it take changes, and what a branch has gathered
reaches its parent as a list of changes again.
-/

namespace RemoteAccount

/-- One change of a state. -/
inductive Change
  /-- The key gets this value; with `none` it has a value no longer. -/
  | write (key : Bytes) (value : Option Bytes)
  /-- The events are emitted, in this order. There may be none. -/
  | emit (events : List Event)
  deriving DecidableEq

end RemoteAccount
