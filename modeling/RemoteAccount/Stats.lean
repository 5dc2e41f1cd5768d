import RemoteAccount.Error.Host

/-!
# Statistics

A host counts the packets that it receives and how they come out. Every packet is either executed or
failed, and of those that failed some were not authorized and some could not be decoded.
-/

namespace RemoteAccount

/-- How many packets have come out how. -/
structure Stats where
  received : Nat
  executed : Nat
  failed : Nat
  unauthorized : Nat
  undecodable : Nat
  deriving DecidableEq

namespace Stats

def empty : Stats := ⟨0, 0, 0, 0, 0⟩

/-- Count one more packet. -/
def record (stats : Stats) (outcome : Except HostError Bytes) : Stats :=
  let ⟨received, executed, failed, unauthorized, undecodable⟩ := stats
  match outcome with
  | .ok _ => ⟨received + 1, executed + 1, failed, unauthorized, undecodable⟩
  | .error (.unauthorized _ _) =>
    ⟨received + 1, executed, failed + 1, unauthorized + 1, undecodable⟩
  | .error .decode => ⟨received + 1, executed, failed + 1, unauthorized, undecodable + 1⟩
  | .error _ => ⟨received + 1, executed, failed + 1, unauthorized, undecodable⟩

end Stats

end RemoteAccount
