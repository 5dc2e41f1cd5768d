import RemoteAccount.Json.Form
import RemoteAccount.Text.Blank
import RemoteAccount.Wire.Lawful

/-!
# Coins

A coin is an amount of one denomination. It is valid when its denomination is not blank and its
amount is not zero. It is shown as the amount followed by the denomination, without a blank.
-/

namespace RemoteAccount

/-- An amount of one denomination. -/
structure Coin where
  denom : String
  amount : Amount
  deriving DecidableEq

namespace Coin

/-- Can the coin be transferred? -/
def isValid (coin : Coin) : Bool :=
  !Text.isBlankText coin.denom && 0 < coin.amount.val

def display (coin : Coin) : String :=
  toString coin.amount ++ coin.denom

end Coin

instance : JsonForm Coin where
  toJson coin := Json.ofFields
    [("denom", JsonForm.toJson coin.denom), ("amount", JsonForm.toJson coin.amount)]
  ofJson? json := do
    let [some denom, some amount] ← Json.fields? .skipped ["denom", "amount"] json | none
    return ⟨← JsonForm.ofJson? denom, ← JsonForm.ofJson? amount⟩

instance : WireForm Coin :=
  .map (fun coin => (coin.denom, coin.amount)) fun (denom, amount) => ⟨denom, amount⟩

instance : LawfulWireForm Coin :=
  .map (fun _ => rfl) fun _ => rfl

end RemoteAccount
