import Mathlib.Algebra.GroupWithZero.Nat
import Mathlib.Data.List.Basic
import RemoteAccount.Proofs.Transfers

/-!
# The net flow of a transfer

When a transfer succeeds, what is held under a key has changed by exactly what its coins take from
there and put there. Keys are counted here, and not balances: a denomination may stand in several
coins, the recipient may be the sender, and a key of the sender in one denomination may be a key of
the recipient in another. The coins that meet at a key add up (`Bank.flow`), as natural numbers, so
nothing is lost in a sum that is too large for an amount.

`Bank.Settles` says what has happened between two states when a list of coins has been moved. One
coin is settled when it has been moved (`Bank.settles_of_moved`), and lists that are settled one
after the other are settled together (`Bank.Settles.append`), so coins are settled by induction
(`Bank.settles_sendCoins`). `Bank.net_flow` says what this comes to for a transfer that has
succeeded, and what it answers.
-/

namespace RemoteAccount.Bank

variable {s t u : State} {sender recipient : String} {coin : Coin} {coins more : List Coin}
  {k : Bytes}

/-! ### Keys that can be read -/

/-- **A key that can be read as a balance.** Nothing is stored under it, or sixteen bytes are. -/
def Readable (s : State) (k : Bytes) : Prop :=
  ∀ value, s.get k = some value → value.length = 16

theorem readable_iff : Readable s k ↔ ∃ amount, balanceOf? (s.get k) = some amount := by
  unfold Readable
  cases s.get k with
  | none =>
    constructor
    · intro _
      exact ⟨.zero, rfl⟩
    · intro _ value h
      cases h
  | some value =>
    rw [balanceOf?]
    constructor
    · intro h
      -- sixteen bytes are a number below the bound of amounts
      have hlength : value.length = 16 := h value rfl
      have hlt : Numeral.ofBig value < Amount.bound := by
        have hbig := Numeral.ofBig_lt value
        rwa [hlength] at hbig
      exact ⟨⟨_, hlt⟩, (if_pos hlength).trans (Amount.ofNat?_eq_some_iff.2 rfl)⟩
    · rintro ⟨amount, h⟩ value' hvalue
      cases hvalue
      by_contra hlength
      rw [if_neg hlength] at h
      cases h

theorem readable_congr (h : t.get k = s.get k) : Readable t k ↔ Readable s k := by
  rw [Readable, Readable, h]

theorem held_setBalance (s : State) (address denom : String) (amount : Amount) (k : Bytes) :
    held (setBalance s address denom amount) k =
      if key address denom = k then amount.val else held s k := by
  by_cases h : key address denom = k
  · subst h
    rw [if_pos rfl, held_setBalance_self]
  · rw [if_neg h, held_congr (get_setBalance_of_ne h)]

/-! ### Flows -/

/-- **What coins carry to or from a key**: the amounts of those whose denomination the address has
under this key. -/
def flow (address : String) (coins : List Coin) (k : Bytes) : Nat :=
  ((coins.filter (key address ·.denom = k)).map (·.amount.val)).sum

theorem flow_append (address : String) (coins more : List Coin) (k : Bytes) :
    flow address (coins ++ more) k = flow address coins k + flow address more k := by
  rw [flow, List.filter_append, List.map_append, List.sum_append, flow, flow]

theorem flow_singleton (address : String) (coin : Coin) (k : Bytes) :
    flow address [coin] k = if key address coin.denom = k then coin.amount.val else 0 := by
  by_cases h : key address coin.denom = k <;> simp [flow, h]

/-- **Moving a coin** takes its amount from the key of the sender and puts it under that of the
recipient. If they are the same key, it holds what it held. -/
theorem held_of_moved (h : Moved sender recipient coin s t) (k : Bytes) :
    held t k + flow sender [coin] k = held s k + flow recipient [coin] k := by
  cases h with
  | @intro available remaining present received pays remains reads receives =>
    have havailable := held_of_balanceOf? pays
    have hpresent := held_of_balanceOf? reads
    rw [held_setBalance] at hpresent
    rw [flow_singleton, flow_singleton, held_setBalance, held_setBalance]
    -- `k` may be the key of the recipient, of the sender, of both or of neither
    by_cases hrecipient : key recipient coin.denom = k
    · subst hrecipient
      by_cases hsender : key sender coin.denom = key recipient coin.denom
      · -- the recipient has been read after the sender has paid
        rw [if_pos hsender] at hpresent
        rw [if_pos rfl, if_pos hsender, if_pos rfl, ← hsender]
        omega
      · rw [if_neg hsender] at hpresent
        rw [if_pos rfl, if_neg hsender, if_pos rfl]
        omega
    · by_cases hsender : key sender coin.denom = k
      · subst hsender
        rw [if_neg hrecipient, if_pos rfl, if_pos rfl, if_neg hrecipient]
        omega
      · rw [if_neg hrecipient, if_neg hsender, if_neg hsender, if_neg hrecipient]

/-! ### Settled coins -/

/-- **The keys that coins touch**: those of the sender and of the recipient in their
denominations. -/
def Touches (sender recipient : String) (coins : List Coin) (k : Bytes) : Prop :=
  ∃ coin ∈ coins, k = key sender coin.denom ∨ k = key recipient coin.denom

theorem touches_append :
    Touches sender recipient (coins ++ more) k ↔
      Touches sender recipient coins k ∨ Touches sender recipient more k := by
  simp only [Touches, List.mem_append, or_and_right, exists_or]

theorem touches_singleton :
    Touches sender recipient [coin] k ↔
      k = key sender coin.denom ∨ k = key recipient coin.denom := by
  simp only [Touches, List.mem_singleton, exists_eq_left]

/-- **Coins are settled** on the way from `s` to `t`. -/
structure Settles (sender recipient : String) (coins : List Coin) (s t : State) : Prop where
  /-- What has been taken from a key is missing there, and what has been put there is there. -/
  flow (k : Bytes) : held t k + flow sender coins k = held s k + flow recipient coins k
  /-- A key that is touched could be read. -/
  readable {k : Bytes} (h : Touches sender recipient coins k) : Readable s k
  /-- A key that is touched holds an amount now. -/
  stored {k : Bytes} (h : Touches sender recipient coins k) :
    ∃ value, t.get k = some value ∧ value.length = 16
  /-- No other key has been written. -/
  untouched {k : Bytes} (h : ¬ Touches sender recipient coins k) : t.get k = s.get k

namespace Settles

theorem nil (s : State) : Settles sender recipient [] s s where
  flow _ := rfl
  readable h := by
    obtain ⟨_, hcoin, _⟩ := h
    cases hcoin
  stored h := by
    obtain ⟨_, hcoin, _⟩ := h
    cases hcoin
  untouched _ := rfl

/-- **Lists of coins that are settled one after the other** are settled together. -/
theorem append (hst : Settles sender recipient coins s t)
    (htu : Settles sender recipient more t u) :
    Settles sender recipient (coins ++ more) s u where
  flow k := by
    have hfirst := hst.flow k
    have hthen := htu.flow k
    -- what is held in between stands on both sides
    rw [flow_append, flow_append]
    omega
  readable {k} h := by
    by_cases hfirst : Touches sender recipient coins k
    · exact hst.readable hfirst
    · -- what the second list has found there was there from the start
      rcases touches_append.1 h with habs | hthen
      · exact absurd habs hfirst
      · exact (readable_congr (hst.untouched hfirst)).1 (htu.readable hthen)
  stored {k} h := by
    by_cases hthen : Touches sender recipient more k
    · exact htu.stored hthen
    · -- what the second list does not touch is as the first has left it
      rw [htu.untouched hthen]
      rcases touches_append.1 h with hfirst | habs
      · exact hst.stored hfirst
      · exact absurd habs hthen
  untouched {k} h := by
    have hboth := not_or.1 (mt touches_append.2 h)
    exact (htu.untouched hboth.2).trans (hst.untouched hboth.1)

end Settles

/-- **A coin that has been moved is settled**, also when both of its keys are the same. -/
theorem settles_of_moved (h : Moved sender recipient coin s t) :
    Settles sender recipient [coin] s t := by
  have hflow := held_of_moved h
  cases h with
  | @intro available remaining present received pays remains reads receives =>
    refine ⟨hflow, ?_, ?_, ?_⟩
    · intro k hk
      by_cases hsender : key sender coin.denom = k
      · subst hsender
        exact readable_iff.2 ⟨available, pays⟩
      · -- the recipient has another key, which is as it was when it is read
        rcases touches_singleton.1 hk with rfl | rfl
        · exact absurd rfl hsender
        · rw [get_setBalance_of_ne hsender] at reads
          exact readable_iff.2 ⟨present, reads⟩
    · intro k hk
      -- the recipient's balance is written last, so it is what stands under a key of both
      rw [get_setBalance, get_setBalance]
      by_cases hrecipient : key recipient coin.denom = k
      · rw [if_pos hrecipient]
        exact ⟨_, rfl, Numeral.length_big 16 received.val⟩
      · rcases touches_singleton.1 hk with rfl | rfl
        · rw [if_neg hrecipient, if_pos rfl]
          exact ⟨_, rfl, Numeral.length_big 16 remaining.val⟩
        · exact absurd rfl hrecipient
    · intro k hk
      have hneither := not_or.1 (mt touches_singleton.2 hk)
      rw [get_setBalance_of_ne (Ne.symm hneither.2), get_setBalance_of_ne (Ne.symm hneither.1)]

/-- **Coins that have been moved are settled.** -/
theorem settles_sendCoins (h : (coins.forM (sendCoin sender recipient)).run.run s = (.ok (), t)) :
    Settles sender recipient coins s t := by
  -- the other coins start from the state to which the first one has led
  induction coins generalizing s with
  | nil =>
    cases h
    exact .nil _
  | cons coin coins ih =>
    rw [run_sendCoins_cons] at h
    rcases hcoin : (sendCoin sender recipient coin).run.run s with ⟨cause | _, paid⟩ <;>
      rw [hcoin] at h
    · cases h
    · have hfirst : Settles sender recipient [coin] s paid :=
        settles_of_moved (moved_of_sendCoin hcoin)
      exact hfirst.append (ih h)

/-! ### Transfers -/

/-- A transfer that has succeeded has settled its coins, and answers with its event. -/
theorem settles_send {transfer : Transfer} {response : Response}
    (h : (send transfer).run.run s = (.ok response, t)) :
    Settles transfer.sender transfer.recipient transfer.coins s t ∧
      response = ⟨[], [transferEvent transfer]⟩ := by
  rw [run_send] at h
  rcases hcoins : (transfer.coins.forM (sendCoin transfer.sender transfer.recipient)).run.run s
    with ⟨cause | _, moved⟩ <;> rw [hcoins] at h
  · cases h
  · cases h
    exact ⟨settles_sendCoins hcoins, rfl⟩

/-- **The net flow of a transfer.** When a transfer has succeeded:

* under every key, what is held now and what its coins have taken from there is what was held before
  and what its coins have put there;
* a key of the sender or of the recipient in the denomination of a coin held nothing or sixteen
  bytes before, and holds sixteen bytes now;
* every other key has the value that it had;
* the answer is without data, and its one event names the recipient, the sender and the coins, in
  their order and with commas between them. -/
theorem net_flow {transfer : Transfer} {response : Response}
    (h : (send transfer).run.run s = (.ok response, t)) :
    (∀ k, held t k + flow transfer.sender transfer.coins k
      = held s k + flow transfer.recipient transfer.coins k) ∧
    (∀ coin ∈ transfer.coins, ∀ k,
      k = key transfer.sender coin.denom ∨ k = key transfer.recipient coin.denom →
        (s.get k = none ∨ ∃ value, s.get k = some value ∧ value.length = 16) ∧
          ∃ value, t.get k = some value ∧ value.length = 16) ∧
    (∀ k, (∀ coin ∈ transfer.coins,
        k ≠ key transfer.sender coin.denom ∧ k ≠ key transfer.recipient coin.denom) →
      t.get k = s.get k) ∧
    response = ⟨[], [⟨"transfer", [⟨"recipient", transfer.recipient⟩,
      ⟨"sender", transfer.sender⟩,
      ⟨"amount", ",".intercalate (transfer.coins.map Coin.display)⟩]⟩]⟩ := by
  obtain ⟨hsettles, hresponse⟩ := settles_send h
  refine ⟨hsettles.flow, ?_, ?_, hresponse⟩
  · intro coin hcoin k hk
    have htouched : Touches transfer.sender transfer.recipient transfer.coins k :=
      ⟨coin, hcoin, hk⟩
    refine ⟨?_, hsettles.stored htouched⟩
    have hreadable := hsettles.readable htouched
    cases hvalue : s.get k with
    | none => exact .inl rfl
    | some value => exact .inr ⟨value, rfl, hreadable value hvalue⟩
  · intro k hk
    refine hsettles.untouched ?_
    rintro ⟨coin, hcoin, hsender | hrecipient⟩
    · exact (hk coin hcoin).1 hsender
    · exact (hk coin hcoin).2 hrecipient

/-- A transfer from `ica1` to `ica1/ibc`. The balance of the one in `ibc/uatom` has the key of the
balance of the other in `uatom`, so the first coin is taken from where the other two are put. -/
theorem net_flow_at_shared_key :
    let coins (n : Fin 16) : Amount := ⟨n, Nat.lt_trans n.isLt (by decide)⟩
    let transfer : Transfer :=
      ⟨"ica1", "ica1/ibc", [⟨"ibc/uatom", coins 5⟩, ⟨"uatom", coins 2⟩, ⟨"uatom", coins 1⟩]⟩
    let funded := setBalance (setBalance (.ledger .empty) "ica1" "ibc/uatom" (coins 6))
      "ica1" "uatom" (coins 4)
    held ((send transfer).run.run funded).2 (key "ica1" "ibc/uatom") + 5 = 6 + 3 := by
  intro coins transfer funded
  have hanswer : ((send transfer).run.run funded).1 = .ok ⟨[], [transferEvent transfer]⟩ := by
    decide +kernel
  have hsent : (send transfer).run.run funded
      = (.ok ⟨[], [transferEvent transfer]⟩, ((send transfer).run.run funded).2) := by
    rw [← hanswer]
  have hflow := (net_flow hsent).1 (key "ica1" "ibc/uatom")
  have htaken : flow transfer.sender transfer.coins (key "ica1" "ibc/uatom") = 5 := by
    decide +kernel
  have hput : flow transfer.recipient transfer.coins (key "ica1" "ibc/uatom") = 3 := by
    decide +kernel
  have hheld : held funded (key "ica1" "ibc/uatom") = 6 := by decide +kernel
  rw [htaken, hput] at hflow
  exact hflow.trans (congrArg (· + 3) hheld)

end RemoteAccount.Bank
