import RemoteAccount.Bank

/-!
# What transfers do to the store

`Bank.run_sendCoin` says how moving one coin comes out on any state, success and every failure
alike: what is read, what has been written by then, and which error is given. Nothing else here
opens a program of the bank. Success comes about in one way only, which `Bank.Moved` describes
(`Bank.moved_of_sendCoin`).

`Bank.Frame` bounds what may happen to the store. Two sets of keys are named, those that may be
debited and those that may be credited: no key outside both changes at all, and what is held under a
key only goes down if it may be debited. Frames compose (`Frame.trans`), so the frame of a transfer
(`frame_send`) is put together from those of its coins, of which each pays before it is paid out.

A key that holds a corrupt value counts as holding nothing (`Bank.held`). It is never written.
-/

namespace RemoteAccount.Bank

variable {s t u : State} {debited credited : Bytes → Prop}

/-! ### Keys -/

/-- Below this all balances are stored. -/
def root : Bytes :=
  Bytes.ofText "balances/"

theorem root_isPrefix_key (address denom : String) : root <+: key address denom := by
  refine ⟨Bytes.ofText address ++ (Bytes.ofText "/" ++ Bytes.ofText denom), ?_⟩
  rw [key, Bytes.ofText_append, Bytes.ofText_append, Bytes.ofText_append, root]
  simp only [List.append_assoc]

/-! ### Moving one coin -/

def corrupt (address denom : String) : OperationError :=
  .failed ("corrupt balance for " ++ address ++ "/" ++ denom)

theorem run_read (address denom : String) (s : State) :
    (read address denom).run.run s = match balanceOf? (s.get (key address denom)) with
      | some amount => (.ok amount, s)
      | none => (.error (corrupt address denom), s) := by
  rw [read, StoreM.run_bind, StoreM.run_get]
  dsimp only
  cases balanceOf? (s.get (key address denom)) <;> rfl

theorem run_write (address denom : String) (amount : Amount) (s : State) :
    (write address denom amount).run.run s = (.ok (), setBalance s address denom amount) := rfl

/-- **Moving one coin.** The sender's balance is read, and what remains of it is written. In the
state that this leaves the recipient's balance is read, and written with the coin added. -/
theorem run_sendCoin (sender recipient : String) (coin : Coin) (s : State) :
    (sendCoin sender recipient coin).run.run s =
      match balanceOf? (s.get (key sender coin.denom)) with
      | none => (.error (corrupt sender coin.denom), s)
      | some available =>
        match available.sub? coin.amount with
        | none => (.error (.insufficientFunds coin.denom coin.amount available), s)
        | some remaining =>
          let paid := setBalance s sender coin.denom remaining
          match balanceOf? (paid.get (key recipient coin.denom)) with
          | none => (.error (corrupt recipient coin.denom), paid)
          | some present =>
            match present.add? coin.amount with
            | none => (.error (.failed "balance overflow"), paid)
            | some received => (.ok (), setBalance paid recipient coin.denom received) := by
  rw [sendCoin, StoreM.run_bind, run_read]
  -- one case for each place at which moving the coin can come to an end
  cases balanceOf? (s.get (key sender coin.denom)) with
  | none => rfl
  | some available =>
    dsimp only
    cases available.sub? coin.amount with
    | none => rfl
    | some remaining =>
      dsimp only
      rw [StoreM.run_bind, run_write]
      dsimp only
      rw [StoreM.run_bind, run_read]
      cases balanceOf? ((setBalance s sender coin.denom remaining).get
        (key recipient coin.denom)) with
      | none => rfl
      | some present =>
        dsimp only
        cases present.add? coin.amount <;> rfl

/-- **How a coin is moved**, if it is: the sender is left with what remains, and the recipient,
whose balance is read only then, with the coin on top of it. -/
inductive Moved (sender recipient : String) (coin : Coin) (s : State) : State → Prop
  | intro {available remaining present received : Amount}
      (pays : balanceOf? (s.get (key sender coin.denom)) = some available)
      (remains : remaining.val + coin.amount.val = available.val)
      (reads : balanceOf? ((setBalance s sender coin.denom remaining).get
        (key recipient coin.denom)) = some present)
      (receives : received.val = present.val + coin.amount.val) :
      Moved sender recipient coin s
        (setBalance (setBalance s sender coin.denom remaining) recipient coin.denom received)

/-- Moving a coin can succeed in one way only. -/
theorem moved_of_sendCoin {sender recipient : String} {coin : Coin}
    (h : (sendCoin sender recipient coin).run.run s = (.ok (), t)) :
    Moved sender recipient coin s t := by
  rw [run_sendCoin] at h
  cases hsender : balanceOf? (s.get (key sender coin.denom)) with
  | none => simp [hsender] at h
  | some available =>
    cases hremaining : available.sub? coin.amount with
    | none => simp [hsender, hremaining] at h
    | some remaining =>
      simp only [hsender, hremaining] at h
      cases hrecipient : balanceOf? ((setBalance s sender coin.denom remaining).get
          (key recipient coin.denom)) with
      | none => simp [hrecipient] at h
      | some present =>
        cases hreceived : present.add? coin.amount with
        | none => simp [hrecipient, hreceived] at h
        | some received =>
          simp only [hrecipient, hreceived, Prod.mk.injEq, true_and] at h
          subst h
          exact .intro hsender (Amount.sub?_eq_some_iff.1 hremaining) hrecipient
            (Amount.add?_eq_some_iff.1 hreceived)

/-- **Coins one after the other**: the others are moved where the first has left off, unless it
could not be moved. -/
theorem run_sendCoins_cons (sender recipient : String) (coin : Coin) (coins : List Coin)
    (s : State) :
    ((coin :: coins).forM (sendCoin sender recipient)).run.run s =
      match (sendCoin sender recipient coin).run.run s with
      | (.ok _, s) => (coins.forM (sendCoin sender recipient)).run.run s
      | (.error cause, s) => (.error cause, s) := by
  change (sendCoin sender recipient coin >>= fun _ =>
    coins.forM (sendCoin sender recipient)).run.run s = _
  rw [StoreM.run_bind]
  rcases (sendCoin sender recipient coin).run.run s with ⟨_ | _, paid⟩ <;> rfl

/-- A transfer moves its coins, and answers with one event when all of them have been moved. -/
theorem run_send (t : Transfer) (s : State) :
    (send t).run.run s = match (t.coins.forM (sendCoin t.sender t.recipient)).run.run s with
      | (.ok _, s) => (.ok ⟨[], [transferEvent t]⟩, s)
      | (.error cause, s) => (.error cause, s) := by
  rw [send, StoreM.run_bind]
  rcases (t.coins.forM (sendCoin t.sender t.recipient)).run.run s with ⟨_ | _, paid⟩ <;> rfl

/-! ### Frames -/

/-- What is held under a key. An absent value and a corrupt one count as nothing. -/
def held (s : State) (k : Bytes) : Nat :=
  ((balanceOf? (s.get k)).getD .zero).val

/-- The store of `t` is that of `s`, except that amounts may have been taken from the debited keys
and put under the credited ones. -/
structure Frame (debited credited : Bytes → Prop) (s t : State) : Prop where
  /-- Only debited and credited keys have changed. -/
  changed {k : Bytes} (h : t.get k ≠ s.get k) : debited k ∨ credited k
  /-- Only under debited keys less is held than before. -/
  lowered {k : Bytes} (h : held t k < held s k) : debited k

theorem held_congr {k : Bytes} (h : s.get k = t.get k) : held s k = held t k := by
  rw [held, held, h]

theorem get_setBalance (s : State) (address denom : String) (amount : Amount) (k : Bytes) :
    (setBalance s address denom amount).get k =
      if key address denom = k then some (stored amount) else s.get k :=
  s.get_apply_write _ _ k

theorem get_setBalance_of_ne {address denom : String} {amount : Amount} {k : Bytes}
    (h : key address denom ≠ k) : (setBalance s address denom amount).get k = s.get k := by
  rw [get_setBalance, if_neg h]

@[simp] theorem held_setBalance_self (s : State) (address denom : String) (amount : Amount) :
    held (setBalance s address denom amount) (key address denom) = amount.val := by
  rw [held, get_setBalance, if_pos rfl, balanceOf?_stored]
  rfl

theorem held_of_balanceOf? {k : Bytes} {amount : Amount} (h : balanceOf? (s.get k) = some amount) :
    held s k = amount.val := by
  rw [held, h]
  rfl

namespace Frame

theorem refl (s : State) : Frame debited credited s s where
  changed h := absurd rfl h
  lowered h := absurd h (Nat.lt_irrefl _)

theorem trans (hst : Frame debited credited s t) (htu : Frame debited credited t u) :
    Frame debited credited s u where
  changed {k} h := by
    -- a key that has changed in the end has changed on one of the two ways
    by_cases hk : t.get k = s.get k
    · rw [← hk] at h
      exact htu.changed h
    · exact hst.changed hk
  lowered {k} h := by
    -- if less is held in the end, it went down on one of the two ways
    rcases Nat.lt_or_ge (held t k) (held s k) with hlower | hnot
    · exact hst.lowered hlower
    · exact htu.lowered (Nat.lt_of_lt_of_le h hnot)

theorem mono {debited' credited' : Bytes → Prop} (h : Frame debited credited s t)
    (hdebited : ∀ k, debited k → debited' k) (hcredited : ∀ k, credited k → credited' k) :
    Frame debited' credited' s t where
  changed hk := (h.changed hk).imp (hdebited _) (hcredited _)
  lowered hk := hdebited _ (h.lowered hk)

/-- Nothing may happen to any state from which the same is read. -/
theorem of_get_eq (h : t.get = s.get) : Frame debited credited s t where
  changed {k} hk := absurd (congrFun h k) hk
  lowered {k} hk := by
    rw [held_congr (congrFun h k)] at hk
    exact absurd hk (Nat.lt_irrefl _)

/-- Setting a balance is in a frame that has its key, and lets it be debited if less is held now. -/
theorem setBalance {address denom : String} {amount : Amount}
    (hkey : debited (key address denom) ∨ credited (key address denom))
    (hlower : amount.val < held s (key address denom) → debited (key address denom)) :
    Frame debited credited s (setBalance s address denom amount) where
  changed {k} hk := by
    by_cases h : key address denom = k
    · exact h ▸ hkey
    · exact absurd (get_setBalance_of_ne h) hk
  lowered {k} hk := by
    by_cases h : key address denom = k
    · subst h
      rw [held_setBalance_self] at hk
      exact hlower hk
    · rw [held_congr (get_setBalance_of_ne h)] at hk
      exact absurd hk (Nat.lt_irrefl _)

/-- Paying is in a frame in which the key may be debited. -/
theorem pay {address denom : String} (remaining : Amount) (h : debited (key address denom)) :
    Frame debited credited s (Bank.setBalance s address denom remaining) :=
  .setBalance (.inl h) fun _ => h

/-- Being paid is in a frame in which the key may be credited. -/
theorem receive {address denom : String} {present added received : Amount}
    (h : credited (key address denom))
    (hpresent : balanceOf? (s.get (key address denom)) = some present)
    (hreceived : present.add? added = some received) :
    Frame debited credited s (Bank.setBalance s address denom received) := by
  refine .setBalance (.inr h) fun hlower => ?_
  have hsum : received.val = present.val + added.val := Amount.add?_eq_some_iff.1 hreceived
  rw [held_of_balanceOf? hpresent] at hlower
  omega

end Frame

/-! ### The frame of a transfer -/

/-- Moving one coin is in the frame of its two keys, whether or not it succeeds. -/
theorem frame_sendCoin {sender recipient : String} {coin : Coin} (s : State)
    (hdebited : debited (key sender coin.denom)) (hcredited : credited (key recipient coin.denom)) :
    Frame debited credited s ((sendCoin sender recipient coin).run.run s).2 := by
  rw [run_sendCoin]
  cases hsender : balanceOf? (s.get (key sender coin.denom)) with
  | none => exact .refl s
  | some available =>
    dsimp only
    cases hremaining : available.sub? coin.amount with
    | none => exact .refl s
    | some remaining =>
      dsimp only
      have hpaid : Frame debited credited s (setBalance s sender coin.denom remaining) :=
        .pay remaining hdebited
      cases hpresent : balanceOf? ((setBalance s sender coin.denom remaining).get
          (key recipient coin.denom)) with
      | none => exact hpaid
      | some present =>
        dsimp only
        cases hreceived : present.add? coin.amount with
        | none => exact hpaid
        -- both halves together, even if the two keys are the same
        | some received => exact hpaid.trans (.receive hcredited hpresent hreceived)

/-- So is moving coins one after the other, up to the first that cannot be moved. -/
theorem frame_sendCoins {sender recipient : String} {coins : List Coin} (s : State)
    (hdebited : ∀ coin ∈ coins, debited (key sender coin.denom))
    (hcredited : ∀ coin ∈ coins, credited (key recipient coin.denom)) :
    Frame debited credited s ((coins.forM (sendCoin sender recipient)).run.run s).2 := by
  induction coins generalizing s with
  | nil => exact .refl s
  | cons coin coins ih =>
    rw [run_sendCoins_cons]
    have hcoin : Frame debited credited s ((sendCoin sender recipient coin).run.run s).2 :=
      frame_sendCoin s (hdebited coin List.mem_cons_self) (hcredited coin List.mem_cons_self)
    rcases hrun : (sendCoin sender recipient coin).run.run s with ⟨cause | _, paid⟩ <;>
      rw [hrun] at hcoin
    · exact hcoin
    · refine hcoin.trans (ih paid ?_ ?_)
      · exact fun c hc => hdebited c (List.mem_cons_of_mem coin hc)
      · exact fun c hc => hcredited c (List.mem_cons_of_mem coin hc)

/-- **The frame of a transfer.** Whether or not it succeeds, it takes from its sender and gives to
its recipient, in the denominations of its coins, and does nothing else to the store. -/
theorem frame_send (t : Transfer) (s : State) :
    Frame (fun k => ∃ coin ∈ t.coins, k = key t.sender coin.denom)
      (fun k => ∃ coin ∈ t.coins, k = key t.recipient coin.denom) s ((send t).run.run s).2 := by
  have hcoins : Frame (fun k => ∃ coin ∈ t.coins, k = key t.sender coin.denom)
      (fun k => ∃ coin ∈ t.coins, k = key t.recipient coin.denom) s
      ((t.coins.forM (sendCoin t.sender t.recipient)).run.run s).2 :=
    frame_sendCoins s (fun coin hcoin => ⟨coin, hcoin, rfl⟩) fun coin hcoin => ⟨coin, hcoin, rfl⟩
  rw [run_send]
  rcases hrun : (t.coins.forM (sendCoin t.sender t.recipient)).run.run s with ⟨cause | _, paid⟩ <;>
    rw [hrun] at hcoins <;> exact hcoins

end RemoteAccount.Bank
