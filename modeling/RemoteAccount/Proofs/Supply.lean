import Mathlib.Algebra.GroupWithZero.Nat
import RemoteAccount.Proofs.NoTheft
import RemoteAccount.Proofs.Runs

/-!
# The supply is conserved

The *supply* of a store is the sum of all amounts that are stored as balances (`Bank.supply`). It is
a natural number, so there is no bound at which it could wrap. `Host.conserves_deliverAll` says that
a host which can only make transfers never changes it, whatever packets it is sent and however they
are answered; nor does it touch a value that is no amount, or take a key away.

A transfer does pass through states with another supply: a coin has been taken and is not yet given,
and if it cannot be given the transfer stops there. Such a state is never committed. So conservation
(`Bank.Conserves`) is shown of what succeeds, one step at a time:

* `Bank.supply_add_held` — when one key alone has changed, the supply has changed by what is held
  under it, which is all that is needed of the supply as a sum over the store;
* `Bank.conserves_sendCoin` — moving a coin, if it succeeds, conserves the supply, also when sender
  and recipient have the same key;
* `Router.conserves_direct` — so does the direct run of a batch, if it gets through;
* `Host.conserves_handle` — so does handling a packet, since a batch that does not get through
  leaves the state as it was.
-/

namespace RemoteAccount

/-! ### Entries of a store -/

theorem Store.nodup_toList (store : Store) : store.toList.Nodup :=
  store.distinct_keys_toList.imp fun {a b} h heq => h (by rw [heq]; simp)

/-- Stores that agree on all keys but one have the same entries under these. -/
theorem Store.filter_toList_perm {a b : Store} {k : Bytes} (h : ∀ k' ≠ k, a[k']? = b[k']?) :
    (a.toList.filter (·.1 ≠ k)).Perm (b.toList.filter (·.1 ≠ k)) := by
  refine (List.perm_ext_iff_of_nodup (a.nodup_toList.filter _) (b.nodup_toList.filter _)).2 ?_
  rintro ⟨k', v⟩
  simp only [List.mem_filter, Std.ExtTreeMap.mem_toList_iff_getElem?_eq_some, decide_eq_true_eq]
  refine and_congr_left fun hk => ?_
  rw [h k' hk]

/-- The entries of a store are the one under a key, if there is one, and those under other keys. -/
theorem Store.toList_perm (store : Store) (k : Bytes) :
    store.toList.Perm
      ((store[k]?).toList.map (k, ·) ++ store.toList.filter (·.1 ≠ k)) := by
  have hothers := store.nodup_toList.filter (fun e => decide (e.1 ≠ k))
  refine (List.perm_ext_iff_of_nodup store.nodup_toList ?_).2 ?_
  · refine List.nodup_append.2 ⟨?_, hothers, ?_⟩
    · cases store[k]? <;> simp
    · -- the key of the one entry is not among the other keys
      intro entry hentry other hother heq
      obtain ⟨value, -, rfl⟩ := List.mem_map.1 hentry
      have hkey := (List.mem_filter.1 hother).2
      rw [← heq] at hkey
      simp at hkey
  · rintro ⟨k', v⟩
    by_cases hk : k' = k
    · subst hk
      cases hv : store[k']? <;> simp [hv, eq_comm]
    · simp [hk, Ne.symm hk]

namespace Bank

/-! ### The supply -/

/-- Is an entry of the store a balance? -/
def isBalance (entry : Bytes × Bytes) : Bool :=
  root.isPrefixOf entry.1 && entry.2.length = 16

/-- **The supply**: the sum of the amounts of sixteen bytes that are stored below `balances/`. -/
def supply (store : Store) : Nat :=
  ((store.toList.filter isBalance).map fun (_, value) => Numeral.ofBig value).sum

/-- The supply under all keys but one. -/
def supplyWithout (k : Bytes) (store : Store) : Nat :=
  (((store.toList.filter (·.1 ≠ k)).filter isBalance).map
    fun (_, value) => Numeral.ofBig value).sum

/-- What is held under a key below `balances/` is what its entry adds to the supply. -/
theorem held_eq_sum {k : Bytes} (hroot : root <+: k) (s : State) :
    ((((s.get k).toList.map (k, ·)).filter isBalance).map
      fun (_, value) => Numeral.ofBig value).sum = held s k := by
  rw [held]
  cases s.get k with
  | none => rfl
  | some value =>
    by_cases hlength : value.length = 16
    · -- sixteen bytes are always an amount
      have hlt : Numeral.ofBig value < Amount.bound := by
        have h := Numeral.ofBig_lt value
        rwa [hlength] at h
      have hamount : Amount.ofNat? (Numeral.ofBig value) = some ⟨Numeral.ofBig value, hlt⟩ :=
        Amount.ofNat?_eq_some_iff.2 rfl
      simp [isBalance, balanceOf?, hroot, hlength, hamount]
    · simp [isBalance, balanceOf?, hlength, Amount.zero]

theorem supply_eq_held_add {k : Bytes} (hroot : root <+: k) (s : State) :
    supply s.store = held s k + supplyWithout k s.store := by
  have hperm := (s.store.toList_perm k).filter isBalance
  rw [List.filter_append] at hperm
  have hsum := (hperm.map fun e => Numeral.ofBig e.2).sum_nat
  rw [List.map_append, List.sum_append, State.getElem?_store] at hsum
  exact hsum.trans (congrArg (· + _) (held_eq_sum hroot s))

/-- **One key.** When no other key has changed, the supply has changed by what is held under it. -/
theorem supply_add_held {s t : State} {k : Bytes} (hroot : root <+: k)
    (h : ∀ k' ≠ k, t.get k' = s.get k') :
    supply t.store + held s k = supply s.store + held t k := by
  have hothers : supplyWithout k t.store = supplyWithout k s.store := by
    have hperm : (t.store.toList.filter (·.1 ≠ k)).Perm (s.store.toList.filter (·.1 ≠ k)) :=
      Store.filter_toList_perm fun k' hk => by
        rw [State.getElem?_store, State.getElem?_store, h k' hk]
    exact ((hperm.filter isBalance).map fun e => Numeral.ofBig e.2).sum_nat
  rw [supply_eq_held_add hroot s, supply_eq_held_add hroot t, hothers]
  omega

theorem supply_setBalance (s : State) (address denom : String) (amount : Amount) :
    supply (setBalance s address denom amount).store + held s (key address denom)
      = supply s.store + amount.val := by
  have hothers : ∀ k ≠ key address denom, (setBalance s address denom amount).get k = s.get k :=
    fun k hk => get_setBalance_of_ne (Ne.symm hk)
  have h := supply_add_held (root_isPrefix_key address denom) hothers
  rwa [held_setBalance_self] at h

/-! ### Conservation -/

/-- What is true of every single write on the way from `s` to `t`. -/
structure Keeps (s t : State) : Prop where
  /-- A value that is no amount is neither changed nor removed, and none has been put there. -/
  kept {k value : Bytes} (h : value.length ≠ 16) : t.get k = some value ↔ s.get k = some value
  /-- A key that had a value has one. -/
  present {k : Bytes} (h : s.has k = true) : t.has k = true

/-- **Conservation** on the way from `s` to `t`. -/
structure Conserves (s t : State) : Prop extends Keeps s t where
  /-- All balances together are what they were. -/
  supply : supply t.store = supply s.store

variable {s t u : State}

theorem Keeps.trans (hst : Keeps s t) (htu : Keeps t u) : Keeps s u where
  kept h := (htu.kept h).trans (hst.kept h)
  present h := htu.present (hst.present h)

/-- A balance that is not corrupt may be set. -/
theorem Keeps.setBalance {address denom : String} {present : Amount} (amount : Amount)
    (h : balanceOf? (s.get (key address denom)) = some present) :
    Keeps s (setBalance s address denom amount) where
  kept {k value} hlength := by
    rw [get_setBalance]
    split
    · -- what is there now has sixteen bytes, and so has what was there, if anything was
      next hk =>
      subst hk
      constructor
      · intro hstored
        cases hstored
        exact absurd (Numeral.length_big 16 amount.val) hlength
      · intro hvalue
        rw [hvalue, balanceOf?, if_neg hlength] at h
        cases h
    · rfl
  present {k} hk := by
    rw [State.has, get_setBalance]
    split
    · rfl
    · exact hk

namespace Conserves

theorem refl (s : State) : Conserves s s where
  kept _ := Iff.rfl
  present h := h
  supply := rfl

theorem trans (hst : Conserves s t) (htu : Conserves t u) : Conserves s u where
  toKeeps := hst.toKeeps.trans htu.toKeeps
  supply := htu.supply.trans hst.supply

theorem of_get_eq (h : t.get = s.get) : Conserves s t where
  kept {k value} _ := by rw [h]
  present {k} hk := by rwa [State.has, h]
  supply := by rw [State.store_inj.2 h]

end Conserves

/-- **Moving a coin**, if it succeeds, conserves the supply. -/
theorem conserves_sendCoin {sender recipient : String} {coin : Coin}
    (h : (sendCoin sender recipient coin).run.run s = (.ok (), t)) : Conserves s t := by
  cases moved_of_sendCoin h with
  | @intro available remaining present received pays remains reads receives =>
    have hpaid := supply_setBalance s sender coin.denom remaining
    have hcredited := supply_setBalance (setBalance s sender coin.denom remaining) recipient
      coin.denom received
    refine { toKeeps := (Keeps.setBalance _ pays).trans (.setBalance _ reads), supply := ?_ }
    -- what has been taken from the one is what has been given to the other
    rw [held_of_balanceOf? pays] at hpaid
    rw [held_of_balanceOf? reads] at hcredited
    omega

/-- So does moving coins one after the other. -/
theorem conserves_sendCoins {sender recipient : String} {coins : List Coin}
    (h : (coins.forM (sendCoin sender recipient)).run.run s = (.ok (), t)) : Conserves s t := by
  induction coins generalizing s with
  | nil =>
    cases h
    exact .refl _
  | cons coin coins ih =>
    rw [run_sendCoins_cons] at h
    rcases hcoin : (sendCoin sender recipient coin).run.run s with ⟨cause | _, paid⟩ <;>
      rw [hcoin] at h
    · cases h
    · exact (conserves_sendCoin hcoin).trans (ih h)

theorem conserves_send {transfer : Transfer} {response : Response}
    (h : (send transfer).run.run s = (.ok response, t)) : Conserves s t := by
  rw [run_send] at h
  rcases hcoins : (transfer.coins.forM (sendCoin transfer.sender transfer.recipient)).run.run s
    with ⟨cause | _, paid⟩ <;> rw [hcoins] at h
  · cases h
  · cases h
    exact conserves_sendCoins hcoins

end Bank

variable {M : Type} [ChainMessage M] {s t : State}

/-! ### Batches and packets -/

/-- A message that is carried out by the bank is a transfer. -/
theorem Router.conserves_applyOne {m : M} {response : Response}
    (h : (empty.withBank : Router M).applyOne m s = (.ok response, t)) : Bank.Conserves s t := by
  rw [applyOne, find?_withBank_empty] at h
  cases hcheck : ChainMessage.check m with
  | error cause => simp [hcheck] at h
  | ok _ =>
    by_cases hurl : Message.Kind.send.typeUrl = ChainMessage.typeUrl m
    · simp only [hcheck, if_pos hurl, Handler.only] at h
      cases htransfer : ChainMessage.transfer? m with
      | none =>
        -- the route alone does not make the message a transfer
        simp only [htransfer] at h
        cases h
      | some transfer =>
        simp only [htransfer] at h
        rcases hsend : (Bank.send transfer).run.run s with ⟨cause | response', s'⟩ <;>
          rw [hsend] at h <;> cases h
        exact Bank.conserves_send hsend
    · simp [hcheck, if_neg hurl] at h

/-- **A batch** whose direct run gets through conserves the supply. -/
theorem Router.conserves_direct {ms : List M}
    (h : ((empty.withBank : Router M).direct ms s).obstacle = none) :
    Bank.Conserves s ((empty.withBank : Router M).direct ms s).state := by
  induction ms generalizing s with
  | nil => exact .refl s
  | cons m ms ih =>
    rcases happly : (empty.withBank : Router M).applyOne m s with ⟨obstacle | response, s'⟩
    · rw [direct_cons_of_error happly] at h
      cases h
    · rw [direct_cons_of_ok happly] at h ⊢
      exact (conserves_applyOne happly).trans (ih h)

namespace Host

variable {host : Host M}

/-- **A packet** conserves the supply: its batch is committed when it gets through, and if not, it
has not happened. -/
theorem conserves_handle (hrouter : host.router = Router.empty.withBank) (packet : Packet)
    (s : State) : Bank.Conserves s (host.handle packet s).2 := by
  rcases host.handle_untouched_or_commits packet s with
    ⟨cause, -, huntouched⟩ | ⟨ms, -, -, -, hcommits⟩
  · rw [huntouched]
    exact .refl s
  · have hget : (host.handle packet s).2.get = (host.router.direct ms s).state.get :=
      State.store_inj.1 hcommits.store
    have hthrough := hcommits.through
    rw [hrouter] at hget hthrough
    exact (Router.conserves_direct hthrough).trans (.of_get_eq hget)

/-- **The supply is conserved.** Of a host that can only make transfers, and any run of packets that
it handles, with or without an acknowledgement:

* the sum of all amounts of sixteen bytes below `balances/` is what it was before the run;
* a value that has not sixteen bytes is there after the run exactly if it was there before, so none
  is changed, removed or created;
* no key has lost its value.

Since the run is any, this is also true between any two of its packets. -/
theorem conserves_deliverAll (hrouter : host.router = Router.empty.withBank)
    (deliveries : List Delivery) (before : Session) :
    let after := host.deliverAll deliveries before
    Bank.supply after.state.store = Bank.supply before.state.store ∧
      (∀ k value : Bytes, value.length ≠ 16 →
        (after.state.get k = some value ↔ before.state.get k = some value)) ∧
      ∀ k, before.state.has k = true → after.state.has k = true := by
  have h : Bank.Conserves before.state (host.deliverAll deliveries before).state := by
    refine deliverAll_rel .refl (fun _ _ _ => .trans) (conserves_handle hrouter) ?_ _ _
    intro s es
    exact .of_get_eq (funext (s.get_apply_emit es))
  exact ⟨h.supply, fun _ _ => h.kept, fun _ => h.present⟩

/-- Of three coins two are sent, and then two again, for which there is not enough. All the while
the supply is three. -/
theorem ofOneAccount_supply :
    let coins (n : Fin 16) : Amount := ⟨n, Nat.lt_trans n.isLt (by decide)⟩
    let packet := packetOfOneAccount [.send ⟨"ica1", "bob", [⟨"atom", coins 2⟩]⟩] ""
    let before : Session := ⟨Bank.setBalance (.ledger .empty) "ica1" "atom" (coins 3), .empty⟩
    let after := ofOneAccount.deliverAll [.plain packet, .acknowledged packet] before
    Bank.supply after.state.store = 3 := by
  intro coins packet before after
  have hconserves := conserves_deliverAll (rfl : ofOneAccount.router = Router.empty.withBank)
    [.plain packet, .acknowledged packet] before
  have hthree : Bank.supply before.state.store = 3 := by decide +kernel
  exact hconserves.1.trans hthree

end Host

end RemoteAccount
