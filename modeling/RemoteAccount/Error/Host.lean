import RemoteAccount.Error.Operation
import RemoteAccount.Error.Refusal

/-!
# What a host answers instead of a result

The causes stand here in the order of their codes. The code is all that a controller gets to see of
an error, so it depends on the kind of the cause alone (`HostError.code`); the message is for the
chain that runs the host.

`encode` is the one cause that comes up after the batch has been committed
(`HostError.isPostCommit`): every other leaves the ledger as it was.
-/

namespace RemoteAccount

/-- Why a packet is not answered with a result. -/
inductive HostError
  | decode
  | unsupportedType (tag : String)
  | channelNotFound (portId channel : String)
  | accountNotFound (connection portId : String)
  | unauthorized (index : Nat) (reason : Refusal)
  | noRoute (index : Nat) (typeUrl : String)
  | invalidOperation (index : Nat) (cause : OperationError)
  | operationFailed (index : Nat) (cause : OperationError)
  | encode (detail : String)
  | hostDisabled
  deriving DecidableEq

namespace HostError

/-- The number that stands for the kind of the cause. -/
def code : HostError → Nat
  | .decode => 2
  | .unsupportedType _ => 3
  | .channelNotFound _ _ => 4
  | .accountNotFound _ _ => 5
  | .unauthorized _ _ => 6
  | .noRoute _ _ => 7
  | .invalidOperation _ _ => 8
  | .operationFailed _ _ => 9
  | .encode _ => 10
  | .hostDisabled => 11

/-- The place in the batch of the message that is to blame. -/
def failingIndex? : HostError → Option Nat
  | .unauthorized index _ | .noRoute index _ | .invalidOperation index _
  | .operationFailed index _ => some index
  | _ => none

/-- Has the batch been committed all the same? -/
def isPostCommit : HostError → Bool
  | .encode _ => true
  | _ => false

def message : HostError → String
  | .decode => "cannot decode interchain account packet data"
  | .unsupportedType tag => "unsupported interchain account packet type: " ++ tag
  | .channelNotFound portId channel =>
    "channel not found: port " ++ portId ++ ", channel " ++ channel
  | .accountNotFound connection portId =>
    "failed to retrieve interchain account on connection " ++ connection ++ ", port " ++ portId
  | .unauthorized index reason =>
    "unauthorized operation " ++ toString index ++ ": " ++ reason.message
  | .noRoute index typeUrl => "no route for operation " ++ toString index ++ ": " ++ typeUrl
  | .invalidOperation index cause =>
    "operation " ++ toString index ++ " failed validation: " ++ cause.message
  | .operationFailed index cause =>
    "operation " ++ toString index ++ " failed: " ++ cause.message
  | .encode detail => "failed to encode execution result: " ++ detail
  | .hostDisabled => "host submodule is disabled"

end HostError

end RemoteAccount
