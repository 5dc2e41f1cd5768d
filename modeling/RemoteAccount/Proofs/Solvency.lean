import RemoteAccount.Proofs.Isolation
import RemoteAccount.Proofs.NetFlow

/-!
# When a transfer succeeds

A transfer is checked coin by coin, each coin against what the coins before it have left. This
module says what that comes to in terms of the state from which the transfer starts.

If no key of the sender is a key of the recipient (`Bank.Apart`), the coins of one denomination
count together (`Bank.total`): the sender needs their total, the recipient needs room for it, and
the two balances have to be readable (`Bank.Covered`). Totals do not know of an order, so neither
does success. A transfer to oneself is another matter. Each coin comes back before the next one is
taken, so each has to be covered by itself, and together they may be more than there is.

Both follow from the net flow of the coins before the one that is looked at. Coins that have been
moved are settled (`Bank.Settles`), which says what is held when the next is looked at:

* `Bank.exists_sendCoin` — what a coin needs in order to be moved;
* `Bank.exists_moved_of_mem` — when coins have been moved, each of them has been moved from a state
  in which those before it are settled;
* `Bank.exists_sendCoins_of_forall` — coins can be moved if each can from such a state, because
  those that cannot stop at one of them (`Bank.exists_stop`);
* `Bank.succeeds_exactly` — what this comes to for transfers.
-/

namespace RemoteAccount

theorem Amount.bound_eq : Amount.bound = 2 ^ 128 := by decide

namespace Bank

variable {s t : State} {sender recipient address denom : String} {coin : Coin}
  {coins before : List Coin} {k : Bytes} {cause : OperationError}

instance : Decidable (Readable s k) :=
  decidable_of_iff (∀ value ∈ s.get k, value.length = 16) Iff.rfl

/-! ### One coin -/

/-- **A coin can be moved** if the two balances can be read, the sender has enough, and the
recipient has room. A sender who is the recipient has made room by paying. -/
theorem exists_sendCoin (hsender : Readable s (key sender coin.denom))
    (hrecipient : Readable s (key recipient coin.denom))
    (henough : coin.amount.val ≤ held s (key sender coin.denom))
    (hroom : key sender coin.denom ≠ key recipient coin.denom →
      held s (key recipient coin.denom) + coin.amount.val < Amount.bound) :
    ∃ t, (sendCoin sender recipient coin).run.run s = (.ok (), t) := by
  obtain ⟨available, havailable⟩ := readable_iff.1 hsender
  rw [held_of_balanceOf? havailable] at henough
  cases hremaining : available.sub? coin.amount with
  | none => exact absurd henough (Nat.not_le_of_lt (Amount.sub?_eq_none_iff.1 hremaining))
  | some remaining =>
    have hremains : remaining.val + coin.amount.val = available.val :=
      Amount.sub?_eq_some_iff.1 hremaining
    have hcredit : ∃ present received : Amount,
        balanceOf? ((setBalance s sender coin.denom remaining).get (key recipient coin.denom))
            = some present ∧
          present.add? coin.amount = some received := by
      by_cases hsame : key sender coin.denom = key recipient coin.denom
      · -- what is read is what remains, and with the coin it is what there was
        rw [← hsame, get_setBalance, if_pos rfl, balanceOf?_stored]
        exact ⟨remaining, available, rfl, Amount.add?_eq_some_iff.2 hremains.symm⟩
      · obtain ⟨present, hpresent⟩ := readable_iff.1 hrecipient
        have hsum := hroom hsame
        rw [held_of_balanceOf? hpresent] at hsum
        rw [get_setBalance_of_ne hsame]
        exact ⟨present, ⟨_, hsum⟩, hpresent, Amount.add?_eq_some_iff.2 rfl⟩
    obtain ⟨present, received, hpresent, hreceived⟩ := hcredit
    rw [run_sendCoin]
    simp only [havailable, hremaining, hpresent, hreceived]
    exact ⟨_, rfl⟩

/-- A coin for which there are not the funds is cited with its amount, and with what there is. -/
theorem insufficientFunds_of_sendCoin {required available : Amount}
    (h : (sendCoin sender recipient coin).run.run s
      = (.error (.insufficientFunds denom required available), t)) :
    denom = coin.denom ∧ required = coin.amount ∧
      available.val = held s (key sender coin.denom) ∧ available.val < required.val := by
  rw [run_sendCoin] at h
  cases hsender : balanceOf? (s.get (key sender coin.denom)) with
  | none =>
    simp only [hsender] at h
    cases h
  | some present =>
    cases hremaining : present.sub? coin.amount with
    | none =>
      simp only [hsender, hremaining] at h
      cases h
      exact ⟨rfl, rfl, (held_of_balanceOf? hsender).symm, Amount.sub?_eq_none_iff.1 hremaining⟩
    | some remaining =>
      -- the recipient's side has other errors
      simp only [hsender, hremaining] at h
      split at h
      · cases h
      · split at h <;> cases h

/-! ### Coins one after the other -/

/-- **Coins that have been moved**, seen at one of them: it has been moved from a state in which
those before it are settled. -/
theorem exists_moved_of_mem
    (h : (coins.forM (sendCoin sender recipient)).run.run s = (.ok (), t)) (hcoin : coin ∈ coins) :
    ∃ before after paid paid', coins = before ++ coin :: after ∧
      Settles sender recipient before s paid ∧ Moved sender recipient coin paid paid' := by
  induction coins generalizing s with
  | nil => cases hcoin
  | cons first coins ih =>
    rw [run_sendCoins_cons] at h
    rcases hfirst : (sendCoin sender recipient first).run.run s with ⟨cause | _, moved⟩ <;>
      rw [hfirst] at h
    · cases h
    · have hmoved : Moved sender recipient first s moved := moved_of_sendCoin hfirst
      -- either nothing has been moved before the coin, or at least the first has
      rcases List.mem_cons.1 hcoin with rfl | hlater
      · exact ⟨[], coins, s, moved, rfl, .nil s, hmoved⟩
      · obtain ⟨before, after, paid, paid', rfl, hsettles, hthen⟩ := ih h hlater
        exact ⟨first :: before, after, paid, paid', rfl, (settles_of_moved hmoved).append hsettles,
          hthen⟩

/-- **Coins that cannot be moved** stop at one of them, which is refused in a state in which those
before it have been moved. -/
theorem exists_stop (h : (coins.forM (sendCoin sender recipient)).run.run s = (.error cause, t)) :
    ∃ before coin after paid, coins = before ++ coin :: after ∧
      (before.forM (sendCoin sender recipient)).run.run s = (.ok (), paid) ∧
      (sendCoin sender recipient coin).run.run paid = (.error cause, t) := by
  induction coins generalizing s with
  | nil => cases h
  | cons first coins ih =>
    rw [run_sendCoins_cons] at h
    rcases hfirst : (sendCoin sender recipient first).run.run s with ⟨cause' | _, moved⟩ <;>
      rw [hfirst] at h
    · cases h
      exact ⟨[], first, coins, s, rfl, rfl, hfirst⟩
    · obtain ⟨before, coin, after, paid, rfl, hbefore, hcoin⟩ := ih h
      refine ⟨first :: before, coin, after, paid, rfl, ?_, hcoin⟩
      rw [run_sendCoins_cons, hfirst]
      exact hbefore

/-- **Coins can be moved** if each of them can, once those before it are settled. -/
theorem exists_sendCoins_of_forall
    (h : ∀ before coin after paid, coins = before ++ coin :: after →
      Settles sender recipient before s paid →
      ∃ t, (sendCoin sender recipient coin).run.run paid = (.ok (), t)) :
    ∃ t, (coins.forM (sendCoin sender recipient)).run.run s = (.ok (), t) := by
  rcases hrun : (coins.forM (sendCoin sender recipient)).run.run s with ⟨cause | _, t⟩
  · obtain ⟨before, coin, after, paid, hsplit, hbefore, hcoin⟩ := exists_stop hrun
    obtain ⟨t', hmoved⟩ := h before coin after paid hsplit (settles_sendCoins hbefore)
    rw [hcoin] at hmoved
    cases hmoved
  · exact ⟨t, rfl⟩

/-- Keys that can be read stay so when coins are settled. -/
theorem Settles.readable_of (h : Settles sender recipient coins s t) (hk : Readable s k) :
    Readable t k := by
  by_cases htouched : Touches sender recipient coins k
  · obtain ⟨value, hvalue, hlength⟩ := h.stored htouched
    intro value' hvalue'
    rw [hvalue] at hvalue'
    cases hvalue'
    exact hlength
  · exact (readable_congr (h.untouched htouched)).2 hk

/-! ### Totals -/

/-- **The total of a denomination**: the amounts of its coins together. -/
def total (coins : List Coin) (denom : String) : Nat :=
  ((coins.filter (·.denom = denom)).map (·.amount.val)).sum

theorem total_perm {coins' : List Coin} (h : coins.Perm coins') (denom : String) :
    total coins denom = total coins' denom :=
  ((h.filter _).map _).sum_nat

theorem key_inj {denom' : String} : key address denom = key address denom' ↔ denom = denom' := by
  constructor
  · intro h
    exact (String.append_right_inj _).1 (Bytes.ofText_injective h)
  · rintro rfl
    rfl

/-- An address has a denomination under one key, to which its coins flow. -/
theorem flow_key (address : String) (coins : List Coin) (denom : String) :
    flow address coins (key address denom) = total coins denom := by
  simp only [flow, total, key_inj]

theorem total_append (coins more : List Coin) (denom : String) :
    total (coins ++ more) denom = total coins denom + total more denom := by
  -- the total is what flows to a key, whose address does not matter
  rw [← flow_key "", flow_append, flow_key, flow_key]

/-- The total takes in a coin and those of its denomination before it. -/
theorem total_add_le {after : List Coin} :
    total before coin.denom + coin.amount.val ≤ total (before ++ coin :: after) coin.denom := by
  have hcoin : total (coin :: after) coin.denom = coin.amount.val + total after coin.denom := by
    simp [total]
  rw [total_append, hcoin]
  omega

/-- Nothing flows to a key that no coin has. -/
theorem flow_eq_zero (h : ∀ coin ∈ coins, key address coin.denom ≠ k) :
    flow address coins k = 0 := by
  have hnone : coins.filter (key address ·.denom = k) = [] := by
    refine List.filter_eq_nil_iff.2 fun coin hcoin => ?_
    rw [decide_eq_true_eq]
    exact h coin hcoin
  rw [flow, hnone]
  rfl

/-- What is held under the key of a balance is the balance. -/
theorem held_key (s : State) (address denom : String) :
    held s (key address denom) = (balance s address denom).val := rfl

/-! ### Sender and recipient apart -/

/-- **Apart**: no coin is put where another one, or the same, is taken from. -/
def Apart (sender recipient : String) (coins : List Coin) : Prop :=
  ∀ coin ∈ coins, ∀ coin' ∈ coins, key sender coin.denom ≠ key recipient coin'.denom

instance : Decidable (Apart sender recipient coins) :=
  inferInstanceAs (Decidable (∀ coin ∈ coins, ∀ coin' ∈ coins, _ ≠ _))

/-- What settled coins have left to the sender, when none of them has been put there. -/
theorem Settles.held_sender (h : Settles sender recipient before s t)
    (hapart : ∀ coin ∈ before, key recipient coin.denom ≠ key sender denom) :
    held t (key sender denom) + total before denom = held s (key sender denom) := by
  have hflow := h.flow (key sender denom)
  rwa [flow_key, flow_eq_zero hapart] at hflow

/-- What settled coins have brought to the recipient, when none of them has been taken there. -/
theorem Settles.held_recipient (h : Settles sender recipient before s t)
    (hapart : ∀ coin ∈ before, key sender coin.denom ≠ key recipient denom) :
    held t (key recipient denom) = held s (key recipient denom) + total before denom := by
  have hflow := h.flow (key recipient denom)
  rwa [flow_key, flow_eq_zero hapart] at hflow

/-- **A denomination is covered**: the sender has the total of its coins, and the recipient has room
for it. -/
structure Covered (s : State) (sender recipient : String) (coins : List Coin) (denom : String) :
    Prop where
  source : Readable s (key sender denom)
  target : Readable s (key recipient denom)
  enough : total coins denom ≤ (balance s sender denom).val
  room : (balance s recipient denom).val + total coins denom ≤ 2 ^ 128 - 1

instance : Decidable (Covered s sender recipient coins denom) :=
  decidable_of_iff (Readable s (key sender denom) ∧ Readable s (key recipient denom) ∧
      total coins denom ≤ (balance s sender denom).val ∧
      (balance s recipient denom).val + total coins denom ≤ 2 ^ 128 - 1)
    ⟨fun h => ⟨h.1, h.2.1, h.2.2.1, h.2.2.2⟩, fun h => ⟨h.1, h.2, h.3, h.4⟩⟩

/-- Coins that have been moved were covered. -/
theorem covered_of_settles (hapart : Apart sender recipient coins)
    (h : Settles sender recipient coins s t) (hcoin : coin ∈ coins) :
    Covered s sender recipient coins coin.denom where
  source := h.readable ⟨coin, hcoin, .inl rfl⟩
  target := h.readable ⟨coin, hcoin, .inr rfl⟩
  enough := by
    have hsender := h.held_sender fun coin' hcoin' => (hapart coin hcoin coin' hcoin').symm
    rw [← held_key]
    omega
  room := by
    have hrecipient := h.held_recipient fun coin' hcoin' => hapart coin' hcoin' coin hcoin
    -- what the recipient holds in the end is an amount
    have hlt : held t (key recipient coin.denom) < 2 ^ 128 :=
      Amount.bound_eq ▸ ((balanceOf? (t.get (key recipient coin.denom))).getD .zero).val_lt
    rw [← held_key]
    omega

/-- **A coin that is covered can be moved** when those before it are settled. -/
theorem exists_sendCoin_of_covered {after : List Coin} {paid : State}
    (hapart : Apart sender recipient (before ++ coin :: after))
    (hsettles : Settles sender recipient before s paid)
    (h : Covered s sender recipient (before ++ coin :: after) coin.denom) :
    ∃ t, (sendCoin sender recipient coin).run.run paid = (.ok (), t) := by
  have hcoin : coin ∈ before ++ coin :: after := List.mem_append_right before List.mem_cons_self
  have hbefore : ∀ c ∈ before, c ∈ before ++ coin :: after := fun c hc =>
    List.mem_append_left _ hc
  have hsender := hsettles.held_sender fun c hc => (hapart coin hcoin c (hbefore c hc)).symm
  have hrecipient := hsettles.held_recipient fun c hc => hapart c (hbefore c hc) coin hcoin
  have htotal : total before coin.denom + coin.amount.val
      ≤ total (before ++ coin :: after) coin.denom := total_add_le
  have henough := h.enough
  have hroom := h.room
  rw [← held_key] at henough hroom
  refine exists_sendCoin (hsettles.readable_of h.source) (hsettles.readable_of h.target) ?_ ?_
  · omega
  · intro _
    rw [Amount.bound_eq]
    omega

/-- **Coins can be moved** exactly if their denominations are covered. -/
theorem exists_sendCoins_iff (hapart : Apart sender recipient coins) :
    (∃ t, (coins.forM (sendCoin sender recipient)).run.run s = (.ok (), t)) ↔
      ∀ denom ∈ coins.map Coin.denom, Covered s sender recipient coins denom := by
  constructor
  · rintro ⟨t, h⟩ denom hdenom
    obtain ⟨coin, hcoin, rfl⟩ := List.mem_map.1 hdenom
    exact covered_of_settles hapart (settles_sendCoins h) hcoin
  · intro h
    refine exists_sendCoins_of_forall ?_
    rintro before coin after paid rfl hsettles
    have hmem : coin.denom ∈ (before ++ coin :: after).map Coin.denom :=
      List.mem_map_of_mem (List.mem_append_right before List.mem_cons_self)
    exact exists_sendCoin_of_covered hapart hsettles (h _ hmem)

theorem apart_perm {coins' : List Coin} (h : coins.Perm coins') :
    Apart sender recipient coins ↔ Apart sender recipient coins' := by
  simp only [Apart, h.mem_iff]

theorem covered_perm {coins' : List Coin} (h : coins.Perm coins') :
    Covered s sender recipient coins denom ↔ Covered s sender recipient coins' denom := by
  constructor
  · rintro ⟨hsender, hrecipient, henough, hroom⟩
    rw [total_perm h] at henough hroom
    exact ⟨hsender, hrecipient, henough, hroom⟩
  · rintro ⟨hsender, hrecipient, henough, hroom⟩
    rw [← total_perm h] at henough hroom
    exact ⟨hsender, hrecipient, henough, hroom⟩

/-! ### Transfers to oneself -/

/-- Coins that one has sent to oneself leave everything held as it was. -/
theorem Settles.held_self (h : Settles address address coins s t) (k : Bytes) :
    held t k = held s k :=
  Nat.add_right_cancel (h.flow k)

/-- **Coins can be sent to oneself** exactly if each of them is covered by itself. -/
theorem exists_sendCoins_self_iff :
    (∃ t, (coins.forM (sendCoin address address)).run.run s = (.ok (), t)) ↔
      ∀ coin ∈ coins, Readable s (key address coin.denom) ∧
        coin.amount.val ≤ (balance s address coin.denom).val := by
  constructor
  · rintro ⟨t, h⟩ coin hcoin
    refine ⟨(settles_sendCoins h).readable ⟨coin, hcoin, .inl rfl⟩, ?_⟩
    obtain ⟨before, after, paid, paid', -, hsettles, hmoved⟩ := exists_moved_of_mem h hcoin
    cases hmoved with
    | @intro available remaining present received pays remains reads receives =>
      have havailable : available.val = held s (key address coin.denom) :=
        (held_of_balanceOf? pays).symm.trans (hsettles.held_self _)
      rw [← held_key]
      omega
  · intro h
    refine exists_sendCoins_of_forall ?_
    rintro before coin after paid rfl hsettles
    obtain ⟨hreadable, henough⟩ := h coin (List.mem_append_right before List.mem_cons_self)
    have hpaid : Readable paid (key address coin.denom) := hsettles.readable_of hreadable
    -- what has been paid has come back, so the coin is looked at as if it were the first
    rw [← held_key, ← hsettles.held_self] at henough
    exact exists_sendCoin hpaid hpaid henough fun hne => absurd rfl hne

/-! ### Transfers -/

/-- The transfer is carried out to its end. -/
def Succeeds (transfer : Transfer) (s : State) : Prop :=
  ∃ response t, (send transfer).run.run s = (.ok response, t)

theorem succeeds_iff {transfer : Transfer} :
    Succeeds transfer s ↔
      ∃ t, (transfer.coins.forM (sendCoin transfer.sender transfer.recipient)).run.run s
        = (.ok (), t) := by
  unfold Succeeds
  rw [run_send]
  rcases (transfer.coins.forM (sendCoin transfer.sender transfer.recipient)).run.run s
    with ⟨cause | _, t⟩
  · constructor
    · rintro ⟨response, t', h⟩
      cases h
    · rintro ⟨t', h⟩
      cases h
  · exact ⟨fun _ => ⟨t, rfl⟩, fun _ => ⟨_, t, rfl⟩⟩

/-- A transfer that fails for want of funds cites the first coin that cannot be paid. -/
theorem insufficientFunds_cites_first {transfer : Transfer} {required available : Amount}
    (hapart : Apart transfer.sender transfer.recipient transfer.coins)
    (h : (send transfer).run.run s = (.error (.insufficientFunds denom required available), t)) :
    ∃ before coin after, transfer.coins = before ++ coin :: after ∧
      Succeeds { transfer with coins := before } s ∧
      denom = coin.denom ∧ required = coin.amount ∧
      available.val + total before coin.denom = (balance s transfer.sender coin.denom).val ∧
      available.val < required.val := by
  rw [run_send] at h
  rcases hcoins : (transfer.coins.forM (sendCoin transfer.sender transfer.recipient)).run.run s
    with ⟨cause | _, t'⟩ <;> rw [hcoins] at h
  · cases h
    obtain ⟨before, coin, after, paid, hsplit, hbefore, hcoin⟩ := exists_stop hcoins
    obtain ⟨hdenom, hrequired, havailable, hless⟩ := insufficientFunds_of_sendCoin hcoin
    refine ⟨before, coin, after, hsplit, succeeds_iff.2 ⟨paid, hbefore⟩, hdenom, hrequired, ?_,
      hless⟩
    rw [hsplit] at hapart
    -- until the cited coin nothing has been put where the sender pays from
    have hsender : held paid (key transfer.sender coin.denom) + total before coin.denom
        = held s (key transfer.sender coin.denom) :=
      (settles_sendCoins hbefore).held_sender fun c hc =>
        (hapart coin (List.mem_append_right before List.mem_cons_self) c
          (List.mem_append_left _ hc)).symm
    rwa [← havailable] at hsender
  · cases h

/-- **When a transfer succeeds.** If no key of the sender is a key of the recipient:

* it succeeds exactly if every denomination of its coins is covered in total;
* in which order the coins stand makes no difference to that;
* if it fails for want of funds, the coins before some coin can all be paid, and the error has the
  amount of this coin, and of its denomination what the sender had less what the coins before it
  have taken, which is too little.

A transfer to oneself succeeds exactly if each of its coins is covered by itself, and then no
balance changes. -/
theorem succeeds_exactly (transfer : Transfer) (s : State) :
    (Apart transfer.sender transfer.recipient transfer.coins →
      (Succeeds transfer s ↔ ∀ denom ∈ transfer.coins.map Coin.denom,
        Covered s transfer.sender transfer.recipient transfer.coins denom) ∧
      (∀ coins : List Coin, coins.Perm transfer.coins →
        (Succeeds { transfer with coins := coins } s ↔ Succeeds transfer s)) ∧
      ∀ denom required available t,
        (send transfer).run.run s = (.error (.insufficientFunds denom required available), t) →
        ∃ before coin after, transfer.coins = before ++ coin :: after ∧
          Succeeds { transfer with coins := before } s ∧
          denom = coin.denom ∧ required = coin.amount ∧
          available.val + total before coin.denom = (balance s transfer.sender coin.denom).val ∧
          available.val < required.val) ∧
    (transfer.sender = transfer.recipient →
      (Succeeds transfer s ↔ ∀ coin ∈ transfer.coins,
        Readable s (key transfer.sender coin.denom) ∧
          coin.amount.val ≤ (balance s transfer.sender coin.denom).val) ∧
      (Succeeds transfer s → ∀ address denom,
        balance ((send transfer).run.run s).2 address denom = balance s address denom)) := by
  constructor
  · intro hapart
    refine ⟨succeeds_iff.trans (exists_sendCoins_iff hapart), ?_, ?_⟩
    · intro coins hperm
      -- the criterion counts coins and does not see where they stand
      have hdenoms : ∀ denom, denom ∈ coins.map Coin.denom ↔
          denom ∈ transfer.coins.map Coin.denom := fun denom => (hperm.map _).mem_iff
      rw [succeeds_iff, succeeds_iff, exists_sendCoins_iff hapart,
        exists_sendCoins_iff ((apart_perm hperm).2 hapart)]
      simp only [hdenoms, covered_perm hperm]
    · intro denom required available t
      exact insufficientFunds_cites_first hapart
  · intro hself
    constructor
    · rw [succeeds_iff, ← hself]
      exact exists_sendCoins_self_iff
    · rintro ⟨response, t, h⟩ address denom
      have hsettles := (settles_send h).1
      rw [← hself] at hsettles
      rw [h]
      exact Amount.ext (hsettles.held_self (key address denom))

/-- Coins of two denominations, which take all that the sender has and fill up one balance of the
recipient, can be sent in either order. With one `atom` less, the second coin of `atom` is cited.
Sent to oneself, twice the funds can be sent. -/
theorem succeeds_up_to_bound :
    let coins (n : Fin 16) : Amount := ⟨n, Nat.lt_trans n.isLt (by decide)⟩
    let transfer : Transfer :=
      ⟨"ica1", "bob", [⟨"atom", coins 2⟩, ⟨"osmo", coins 1⟩, ⟨"atom", coins 3⟩]⟩
    let reordered : Transfer :=
      ⟨"ica1", "bob", [⟨"atom", coins 3⟩, ⟨"atom", coins 2⟩, ⟨"osmo", coins 1⟩]⟩
    let twice : Transfer := ⟨"ica1", "ica1", [⟨"atom", coins 5⟩, ⟨"atom", coins 5⟩]⟩
    let funded (n : Fin 16) := setBalance (setBalance (setBalance (.ledger .empty)
      "ica1" "atom" (coins n)) "ica1" "osmo" (coins 1))
      "bob" "atom" ⟨2 ^ 128 - 6, by decide⟩
    Succeeds transfer (funded 5) ∧ Succeeds reordered (funded 5) ∧
      (∃ before coin after, transfer.coins = before ++ coin :: after ∧ coins 3 = coin.amount ∧
        2 + total before coin.denom = 4) ∧
      Succeeds twice (funded 5) := by
  intro coins transfer reordered twice funded
  have hapart : Apart transfer.sender transfer.recipient transfer.coins := by decide +kernel
  obtain ⟨hcovered, horder, -⟩ := (succeeds_exactly transfer (funded 5)).1 hapart
  have hsucceeds : Succeeds transfer (funded 5) := hcovered.2 (by decide +kernel)
  have hperm : reordered.coins.Perm transfer.coins := by decide +kernel
  refine ⟨hsucceeds, (horder reordered.coins hperm).2 hsucceeds, ?_, ?_⟩
  · obtain ⟨-, -, hfunds⟩ := (succeeds_exactly transfer (funded 4)).1 hapart
    have hanswer : ((send transfer).run.run (funded 4)).1
        = .error (.insufficientFunds "atom" (coins 3) (coins 2)) := by
      decide +kernel
    have hrun : (send transfer).run.run (funded 4)
        = (.error (.insufficientFunds "atom" (coins 3) (coins 2)),
          ((send transfer).run.run (funded 4)).2) := by
      rw [← hanswer]
    obtain ⟨before, coin, after, hsplit, -, hdenom, hrequired, havailable, -⟩ :=
      hfunds _ _ _ _ hrun
    rw [← hdenom] at havailable
    have hfour : (balance (funded 4) "ica1" "atom").val = 4 := by decide +kernel
    refine ⟨before, coin, after, hsplit, hrequired, ?_⟩
    rw [← hdenom]
    exact havailable.trans hfour
  · have hself := ((succeeds_exactly twice (funded 5)).2 rfl).1
    exact hself.2 (by decide +kernel)

end Bank

end RemoteAccount
