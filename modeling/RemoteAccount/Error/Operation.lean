import RemoteAccount.Amount

/-!
# What can be wrong with a message

A message is refused before it runs when its parts do not make sense, and it fails while it runs
when the store does not allow what it asks for. Either way the cause is an `OperationError`.
-/

namespace RemoteAccount

/-- Why a message is not carried out. -/
inductive OperationError
  | invalid (detail : String)
  | invalidAddress (detail : String)
  | invalidCoins (detail : String)
  | insufficientFunds (denom : String) (required available : Amount)
  /-- A handler was given a message of a type that is not its own. -/
  | unexpectedMessage (typeUrl : String)
  | failed (detail : String)
  deriving DecidableEq

def OperationError.message : OperationError → String
  | .invalid detail => "invalid operation: " ++ detail
  | .invalidAddress detail => "invalid address: " ++ detail
  | .invalidCoins detail => "invalid coins: " ++ detail
  | .insufficientFunds denom required available =>
    "insufficient funds: " ++ denom ++ " required " ++ toString required ++ ", available "
      ++ toString available
  | .unexpectedMessage typeUrl => "unexpected message type: " ++ typeUrl
  | .failed detail => detail

end RemoteAccount
