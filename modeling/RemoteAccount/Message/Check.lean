import RemoteAccount.Error.Operation
import RemoteAccount.Message.Basic

/-!
# Which messages make sense

Some messages can be refused without looking at the store. A transfer names both of its accounts
and holds coins, all of them valid; a put names a key. `Message.check` gives the first thing that is
wrong. A key of blanks is a key, while an account of blanks is none.
-/

namespace RemoteAccount

/-- The first thing that is wrong with a transfer. -/
def Transfer.check (t : Transfer) : Except OperationError Unit := do
  if Text.isBlankText t.sender then
    throw (.invalidAddress "empty sender")
  if Text.isBlankText t.recipient then
    throw (.invalidAddress "empty recipient")
  if t.coins.isEmpty then
    throw (.invalidCoins "no coins")
  match t.coins.find? (!·.isValid) with
  | some coin => throw (.invalidCoins coin.display)
  | none => return ()

def Put.check (p : Put) : Except OperationError Unit :=
  if p.key.isEmpty then throw (.invalid "empty key") else return ()

def Message.check : Message → Except OperationError Unit
  | .send body => body.check
  | .put body => body.check
  | .orphan _ => return ()
  | .vote _ => return ()

end RemoteAccount
