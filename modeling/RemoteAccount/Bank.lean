import RemoteAccount.Handler

/-!
# The bank

The balance of an address in a denomination is a value of the store, sixteen bytes with the most
significant first, under the key `balances/<address>/<denom>`. An absent value is a balance of zero;
a value of another length is corrupt, and nobody can pay from it or be paid into it.

`Bank.send` carries out a transfer coin by coin. Each coin is taken from the sender before it is
given to the recipient, and the recipient's balance is read only then, so that a transfer to oneself
leaves the balance as it was.
-/

namespace RemoteAccount.Bank

/-- Where the balance of an address in a denomination is stored. -/
def key (address denom : String) : Bytes :=
  Bytes.ofText ("balances/" ++ address ++ "/" ++ denom)

def stored (amount : Amount) : Bytes :=
  Numeral.big 16 amount.val

/-- The balance that a stored value stands for. -/
def balanceOf? : Option Bytes → Option Amount
  | none => some .zero
  | some value => if value.length = 16 then Amount.ofNat? (Numeral.ofBig value) else none

@[simp] theorem balanceOf?_stored (amount : Amount) :
    balanceOf? (some (stored amount)) = some amount := by
  have hlength : (stored amount).length = 16 := Numeral.length_big 16 amount.val
  have hval : Numeral.ofBig (stored amount) = amount.val := Numeral.ofBig_big amount.val_lt
  rw [balanceOf?, if_pos hlength, hval]
  exact Amount.ofNat?_eq_some_iff.2 rfl

/-- The balance of an address, counting a corrupt one as zero. -/
def balance (s : State) (address denom : String) : Amount :=
  (balanceOf? (s.get (key address denom))).getD .zero

/-- The state in which an address has this balance. -/
def setBalance (s : State) (address denom : String) (amount : Amount) : State :=
  s.set (key address denom) (stored amount)

/-! ### Transfers -/

/-- Read a balance, which must not be corrupt. -/
def read (address denom : String) : StoreM Amount := do
  match balanceOf? (← StoreM.get (key address denom)) with
  | some amount => return amount
  | none => throw (.failed ("corrupt balance for " ++ address ++ "/" ++ denom))

def write (address denom : String) (amount : Amount) : StoreM Unit :=
  StoreM.write (key address denom) (some (stored amount))

/-- Move one coin. -/
def sendCoin (sender recipient : String) (coin : Coin) : StoreM Unit := do
  let available ← read sender coin.denom
  -- the sender has paid before the recipient's balance is read
  match available.sub? coin.amount with
  | none => throw (.insufficientFunds coin.denom coin.amount available)
  | some remaining => write sender coin.denom remaining
  match (← read recipient coin.denom).add? coin.amount with
  | none => throw (.failed "balance overflow")
  | some credited => write recipient coin.denom credited

def transferEvent (t : Transfer) : Event :=
  ⟨"transfer", [⟨"recipient", t.recipient⟩, ⟨"sender", t.sender⟩,
    ⟨"amount", ",".intercalate (t.coins.map Coin.display)⟩]⟩

/-- Carry out a transfer, coin by coin. -/
def send (t : Transfer) : StoreM Response := do
  t.coins.forM (sendCoin t.sender t.recipient)
  return ⟨[], [transferEvent t]⟩

end RemoteAccount.Bank
