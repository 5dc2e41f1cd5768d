/-!
# Why a controller is refused

A controller may send a message only if its type is on the allow-list of the host and everyone who
must have signed it is the account that the controller owns.
-/

namespace RemoteAccount

/-- Why a message is not authorized. -/
inductive Refusal
  | disallowedType (typeUrl : String)
  | signerMismatch (expected got : String)
  deriving DecidableEq

def Refusal.message : Refusal → String
  | .disallowedType typeUrl => "message type not allowed: " ++ typeUrl
  | .signerMismatch expected got =>
    "unexpected signer address: expected " ++ expected ++ ", got " ++ got

end RemoteAccount
