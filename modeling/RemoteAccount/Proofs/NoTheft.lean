import RemoteAccount.Proofs.Precedence
import RemoteAccount.Proofs.Transfers

/-!
# No theft through a packet

On a host whose only handler is that of the bank, a controller can spend what its own account holds
and nothing else. `Host.no_theft` says this of any packet, whatever it carries and however it is
answered: less is held afterwards only under keys of the account that belongs to the packet
(`Host.account?`), nothing changes except balances of this account and of the recipients that the
packet names, and without an account nothing changes at all.

Three things have to come together. All messages are authenticated before the first is carried out,
so every transfer of a batch that gets through has the account as its sender
(`Host.sender_eq_account`). The direct run of the batch stays in the frame of its transfers
(`Router.frame_direct`), each of which may see balances that an earlier one has left. And what is
committed has the store of the direct run.
-/

namespace RemoteAccount

variable {M : Type} [ChainMessage M]

/-! ### The frame of a batch -/

namespace Router

theorem find?_withBank_empty (typeUrl : String) :
    (empty.withBank : Router M).find? typeUrl =
      if Message.Kind.send.typeUrl = typeUrl then
        some (Handler.only ChainMessage.transfer? Bank.send)
      else none := by
  simp [find?, withBank, insert, empty, Std.ExtTreeMap.getElem?_insert]

variable {debited credited : Bytes → Prop}

/-- A message that is no transfer does nothing, and a transfer stays in its frame. -/
theorem frame_applyOne {m : M} (s : State)
    (hdebited : ∀ t, ChainMessage.transfer? m = some t →
      ∀ coin ∈ t.coins, debited (Bank.key t.sender coin.denom))
    (hcredited : ∀ t, ChainMessage.transfer? m = some t →
      ∀ coin ∈ t.coins, credited (Bank.key t.recipient coin.denom)) :
    Bank.Frame debited credited s ((empty.withBank : Router M).applyOne m s).2 := by
  rw [applyOne, find?_withBank_empty]
  cases ChainMessage.check m with
  | error cause => exact .refl s
  | ok _ =>
    by_cases hurl : Message.Kind.send.typeUrl = ChainMessage.typeUrl m
    · rw [if_pos hurl]
      dsimp only [Handler.only]
      -- the route alone does not make the message a transfer
      cases htransfer : ChainMessage.transfer? m with
      | none => exact .refl s
      | some t =>
        have hsend : Bank.Frame debited credited s ((Bank.send t).run.run s).2 := by
          refine (Bank.frame_send t s).mono ?_ ?_
          · rintro _ ⟨coin, hcoin, rfl⟩
            exact hdebited t htransfer coin hcoin
          · rintro _ ⟨coin, hcoin, rfl⟩
            exact hcredited t htransfer coin hcoin
        dsimp only
        rcases hrun : (Bank.send t).run.run s with ⟨cause | response, s'⟩ <;>
          rw [hrun] at hsend <;> exact hsend
    · rw [if_neg hurl]
      exact .refl s

/-- **The frame of a batch.** The direct run of a batch, however far it gets, stays in the frame of
all its transfers. -/
theorem frame_direct {ms : List M} (s : State)
    (hdebited : ∀ m ∈ ms, ∀ t, ChainMessage.transfer? m = some t →
      ∀ coin ∈ t.coins, debited (Bank.key t.sender coin.denom))
    (hcredited : ∀ m ∈ ms, ∀ t, ChainMessage.transfer? m = some t →
      ∀ coin ∈ t.coins, credited (Bank.key t.recipient coin.denom)) :
    Bank.Frame debited credited s ((empty.withBank : Router M).direct ms s).state := by
  induction ms generalizing s with
  | nil => exact .refl s
  | cons m ms ih =>
    have hfirst : Bank.Frame debited credited s ((empty.withBank : Router M).applyOne m s).2 :=
      frame_applyOne s (hdebited m List.mem_cons_self) (hcredited m List.mem_cons_self)
    rcases happly : (empty.withBank : Router M).applyOne m s with ⟨obstacle | response, s'⟩ <;>
      rw [happly] at hfirst
    · rw [direct_cons_of_error happly]
      exact hfirst
    · rw [direct_cons_of_ok happly]
      refine hfirst.trans (ih s' ?_ ?_)
      · exact fun m' hm' => hdebited m' (List.mem_cons_of_mem m hm')
      · exact fun m' hm' => hcredited m' (List.mem_cons_of_mem m hm')

end Router

/-! ### Packets -/

namespace Host

variable (host : Host M)

/-- The packet brings a transfer, and this is one of its coins. -/
def AsksFor (packet : Packet) (t : Transfer) (coin : Coin) : Prop :=
  ∃ ms, host.batchOf packet = .ok ms ∧ ∃ m ∈ ms, ChainMessage.transfer? m = some t ∧ coin ∈ t.coins

variable {host}

/-- In a batch that gets through, the account is the sender of every transfer. -/
theorem sender_eq_account {sourcePort destinationPort : PortId} {destinationChannel : ChannelId}
    {ms : List M} {account : String} {m : M} {t : Transfer}
    (hgate : host.gate sourcePort destinationPort destinationChannel ms = .ok ())
    (haccount : host.account? sourcePort destinationPort destinationChannel = some account)
    (hm : m ∈ ms) (ht : ChainMessage.transfer? m = some t) : t.sender = account := by
  obtain ⟨owner, howner, hall⟩ := host.gate_eq_ok_iff.1 hgate
  have hsame : owner = account := Option.some.inj (howner.symm.trans haccount)
  have hsigner := (hall m hm).2 t.sender
  rw [ChainMessage.signers_of_transfer? ht] at hsigner
  exact (hsigner List.mem_cons_self).trans hsame

/-- What a packet does to the store, put as a frame. -/
theorem frame_handle {packet : Packet} {account : String}
    (hrouter : host.router = Router.empty.withBank)
    (haccount : host.account? packet.sourcePort packet.destinationPort packet.destinationChannel
      = some account) (s : State) :
    Bank.Frame (fun k => ∃ t coin, host.AsksFor packet t coin ∧ k = Bank.key account coin.denom)
      (fun k => ∃ t coin, host.AsksFor packet t coin ∧ k = Bank.key t.recipient coin.denom)
      s (host.handle packet s).2 := by
  rcases host.handle_untouched_or_commits packet s with
    ⟨cause, -, huntouched⟩ | ⟨ms, hbatch, hgate, -, hcommits⟩
  · rw [huntouched]
    exact .refl s
  · have hstore : (host.handle packet s).2.get = (host.router.direct ms s).state.get :=
      State.store_inj.1 hcommits.store
    refine Bank.Frame.trans ?_ (.of_get_eq hstore)
    rw [hrouter]
    refine Router.frame_direct s ?_ ?_
    · intro m hm t ht coin hcoin
      -- the key belongs to the sender, and the sender is the account
      rw [sender_eq_account hgate haccount hm ht]
      exact ⟨t, coin, ⟨ms, hbatch, m, hm, ht, hcoin⟩, rfl⟩
    · intro m hm t ht coin hcoin
      exact ⟨t, coin, ⟨ms, hbatch, m, hm, ht, hcoin⟩, rfl⟩

theorem handle_of_account?_eq_none {packet : Packet}
    (h : host.account? packet.sourcePort packet.destinationPort packet.destinationChannel = none)
    (s : State) : (host.handle packet s).2 = s := by
  rcases host.handle_untouched_or_commits packet s with
    ⟨cause, -, huntouched⟩ | ⟨ms, -, hgate, -, -⟩
  · rw [huntouched]
  · obtain ⟨account, haccount, -⟩ := host.gate_eq_ok_iff.1 hgate
    rw [h] at haccount
    cases haccount

/-- **No theft through a packet.** Of a host that can only make transfers, whatever a packet brings
and however it is answered:

* if it belongs to no account, nothing has happened;
* if it belongs to an account, a balance that has gone down is one of this account, in a
  denomination the packet names;
* a value that has changed at all is the balance of the account or of the recipient of a transfer
  the packet brings, in the denomination of one of its coins;
* outside the balances nothing has changed. -/
theorem no_theft (hrouter : host.router = Router.empty.withBank) (packet : Packet)
    (before : Session) :
    let after := ((host.receive packet).run before).2
    let account? := host.account? packet.sourcePort packet.destinationPort packet.destinationChannel
    (account? = none → after.state = before.state) ∧
      (∀ k, Bank.held after.state k < Bank.held before.state k →
        ∃ account t coin, account? = some account ∧ host.AsksFor packet t coin ∧
          k = Bank.key account coin.denom) ∧
      (∀ k, after.state.get k ≠ before.state.get k →
        ∃ account t coin, account? = some account ∧ host.AsksFor packet t coin ∧
          (k = Bank.key account coin.denom ∨ k = Bank.key t.recipient coin.denom)) ∧
      ∀ k, ¬ Bank.root <+: k → after.state.get k = before.state.get k := by
  intro after account?
  cases haccount : account? with
  | none =>
    have hsame : after.state = before.state := handle_of_account?_eq_none haccount before.state
    rw [hsame]
    refine ⟨fun _ => rfl, fun k hk => ?_, fun k hk => ?_, fun _ _ => rfl⟩
    · exact absurd hk (Nat.lt_irrefl _)
    · exact absurd rfl hk
  | some account =>
    have hframe := frame_handle hrouter haccount before.state
    refine ⟨nofun, fun k hk => ?_, fun k hk => ?_, fun k hk => ?_⟩
    · obtain ⟨t, coin, hasks, hkey⟩ := hframe.lowered hk
      exact ⟨account, t, coin, rfl, hasks, hkey⟩
    · rcases hframe.changed hk with ⟨t, coin, hasks, hkey⟩ | ⟨t, coin, hasks, hkey⟩
      · exact ⟨account, t, coin, rfl, hasks, .inl hkey⟩
      · exact ⟨account, t, coin, rfl, hasks, .inr hkey⟩
    · -- a key that has changed is the key of a balance
      by_contra hchanged
      rcases hframe.changed hchanged with ⟨t, coin, -, rfl⟩ | ⟨t, coin, -, rfl⟩
      · exact hk (Bank.root_isPrefix_key account coin.denom)
      · exact hk (Bank.root_isPrefix_key t.recipient coin.denom)

/-- The controller of `ica1` asks for coins of `alice`, and she has not less than before. When it
sends two of its own three coins to `bob` they arrive, nothing is lowered but the balance of `ica1`,
and nothing is changed but the balances of the two. -/
theorem ofOneAccount_keeps_others :
    let coins (n : Fin 16) : Amount := ⟨n, Nat.lt_trans n.isLt (by decide)⟩
    let theft := Message.send ⟨"alice", "ica1", [⟨"atom", coins 2⟩]⟩
    let payment := Message.send ⟨"ica1", "bob", [⟨"atom", coins 2⟩]⟩
    let before : Session :=
      ⟨Bank.setBalance (Bank.setBalance (.ledger .empty) "alice" "atom" (coins 3)) "ica1" "atom"
        (coins 3), .empty⟩
    let after (m : Message) :=
      ((ofOneAccount.receive (packetOfOneAccount [m] "")).run before).2.state
    let atoms (address : String) := Bank.key address "atom"
    ¬ Bank.held (after theft) (atoms "alice") < Bank.held before.state (atoms "alice") ∧
      Bank.held (after payment) (atoms "ica1") = 1 ∧
      Bank.held (after payment) (atoms "bob") = 2 ∧
      (∀ k, Bank.held (after payment) k < Bank.held before.state k → k = atoms "ica1") ∧
      ∀ k, (after payment).get k ≠ before.state.get k → k = atoms "ica1" ∨ k = atoms "bob" := by
  intro coins theft payment before after atoms
  -- both packets belong to the same account
  have hica {m : Message} {account : String}
      (h : ofOneAccount.account? (packetOfOneAccount [m] "").sourcePort
        (packetOfOneAccount [m] "").destinationPort
        (packetOfOneAccount [m] "").destinationChannel = some account) : account = "ica1" :=
    Option.some.inj (h.symm.trans rfl)
  have hbatch : ofOneAccount.batchOf (packetOfOneAccount [payment] "") = .ok [payment] :=
    batchOf_packetOfOneAccount rfl (by decide +kernel)
  have hasks {t : Transfer} {coin : Coin}
      (h : ofOneAccount.AsksFor (packetOfOneAccount [payment] "") t coin) :
      t.recipient = "bob" ∧ coin.denom = "atom" := by
    obtain ⟨ms, hms, m, hm, ht, hcoin⟩ := h
    cases hbatch.symm.trans hms
    cases List.mem_singleton.1 hm
    cases ht
    cases List.mem_singleton.1 hcoin
    exact ⟨rfl, rfl⟩
  have hpaid : after payment = (ofOneAccount.execute ⟨"icacontroller"⟩ ⟨"icahost"⟩ ⟨"channel-0"⟩
      [payment] before.state).2 :=
    (ofOneAccount.receive_of_batchOf before hbatch).2
  obtain ⟨-, hlowered, hchanged, -⟩ := no_theft (rfl : ofOneAccount.router = Router.empty.withBank)
    (packetOfOneAccount [payment] "") before
  refine ⟨?_, ?_, ?_, ?_, ?_⟩
  · intro hlower
    obtain ⟨account, t, coin, haccount, -, hkey⟩ :=
      (no_theft (rfl : ofOneAccount.router = Router.empty.withBank)
        (packetOfOneAccount [theft] "") before).2.1 _ hlower
    -- the two keys part where the addresses begin
    have htexts := congrArg String.toList (Bytes.ofText_injective hkey)
    rw [hica haccount] at htexts
    simp at htexts
  · rw [hpaid]
    decide +kernel
  · rw [hpaid]
    decide +kernel
  · intro k hk
    obtain ⟨account, t, coin, haccount, hcoin, hkey⟩ := hlowered k hk
    rw [hkey, hica haccount, (hasks hcoin).2]
  · intro k hk
    obtain ⟨account, t, coin, haccount, hcoin, hkey⟩ := hchanged k hk
    rw [hica haccount, (hasks hcoin).1, (hasks hcoin).2] at hkey
    exact hkey

end Host

end RemoteAccount
