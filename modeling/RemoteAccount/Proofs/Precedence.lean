import RemoteAccount.Proofs.Json.Lawful
import RemoteAccount.Proofs.Outcome

/-!
# Which refusal takes precedence

A packet can be turned away before anything is carried out, for one of seven reasons. They are
looked at in a fixed order, and the first that applies is the answer, so all validators give the
same one. `Host.TurnsAway` sets the reasons down in this order, each with what must not have applied
before it:

1. the host is switched off;
2. the envelope cannot be read;
3. the packet does not ask for a batch, whatever bytes it carries;
4. the batch cannot be decoded;
5. the channel is not known, or it runs over no connection;
6. the controller has no account;
7. a message is not authorized, and none before it is refused.

The relation mentions neither the state nor the handlers, and nothing in it asks whether a message
makes sense, has a route or could be carried out. `Host.turned_away_before_execution` says that it
is exactly how packets are turned away.

* `turnsAway_of_batchOf`, `turnsAway_of_gate` — whatever the gates refuse is turned away for one of
  the reasons;
* `batchOf_or_gate_of_turnsAway` — and what is turned away for one of them does not get through the
  gates;
* `Host.isRefusal_of_answer` — behind the gates no answer is one of these refusals.
-/

namespace RemoteAccount

/-- Is this an answer for a packet that is turned away before anything is carried out? -/
def HostError.isRefusal : HostError → Bool
  | .decode | .unsupportedType _ | .channelNotFound _ _ | .accountNotFound _ _
  | .unauthorized _ _ | .hostDisabled => true
  | .noRoute _ _ | .invalidOperation _ _ | .operationFailed _ _ | .encode _ => false

/-- One tag alone asks for a batch. -/
theorem Envelope.type_eq_executeTx_iff {envelope : Envelope} :
    envelope.type = .executeTx ↔ envelope.tag = "TYPE_EXECUTE_TX" := by
  unfold Envelope.type PacketType.ofTag
  split
  · next htag => simp [htag]
  · split
    · next htag => simp [htag]
    · next htag => simp [htag]

/-- A channel leads nowhere if it is not known or has no connection. -/
theorem Channels.connection?_eq_none_iff {channels : Channels} {portId : PortId}
    {channelId : ChannelId} :
    channels.connection? portId channelId = none ↔
      channels.find? portId channelId = none ∨
        ∃ channel, channels.find? portId channelId = some channel ∧ channel.hops = [] := by
  rw [Channels.connection?]
  cases channels.find? portId channelId with
  | none => simp
  | some channel => simp [ChannelEnd.connection?]

variable {M : Type} [ChainMessage M]

namespace Host

/-! ### The reasons, in their order -/

section Reasons

variable (host : Host M) (packet : Packet)

/-- The host is switched on, and this is the envelope of the packet. -/
structure Opens (envelope : Envelope) : Prop where
  enabled : host.config.hostEnabled = true
  parsed : JsonForm.parse? packet.data = some envelope

/-- The packet asks for these messages to be carried out. -/
structure Brings (envelope : Envelope) (ms : List M) : Prop extends
    host.Opens packet envelope where
  tag : envelope.tag = "TYPE_EXECUTE_TX"
  decoded : host.registry.decode envelope.data = .ok ms

/-- The packet has come in at this end of a channel, and this is the first of its connections. -/
structure ComesOver (channel : ChannelEnd) (hop : ConnectionId) : Prop where
  known : host.channels.find? packet.destinationPort packet.destinationChannel = some channel
  first : channel.hops.head? = some hop

/-- Why a message may not be carried out in the name of an account. -/
def refusalFor? (account : String) (m : M) : Option Refusal :=
  Authorization.refusal? host.config.allowMessages account m

/-- **The reasons for turning a packet away**, and the answer to each. -/
inductive TurnsAway : HostError → Prop
  | disabled (h : host.config.hostEnabled = false) : TurnsAway .hostDisabled
  | envelope (enabled : host.config.hostEnabled = true)
      (h : (JsonForm.parse? packet.data : Option Envelope) = none) : TurnsAway .decode
  | type {envelope : Envelope} (opens : host.Opens packet envelope)
      (h : envelope.tag ≠ "TYPE_EXECUTE_TX") : TurnsAway (.unsupportedType envelope.tag)
  | batch {envelope : Envelope} (opens : host.Opens packet envelope)
      (tag : envelope.tag = "TYPE_EXECUTE_TX")
      (h : ∀ ms, host.registry.decode envelope.data ≠ .ok ms) : TurnsAway .decode
  | channel {envelope : Envelope} {ms : List M} (brings : host.Brings packet envelope ms)
      (h : host.channels.find? packet.destinationPort packet.destinationChannel = none ∨
        ∃ channel, host.channels.find? packet.destinationPort packet.destinationChannel
          = some channel ∧ channel.hops = []) :
      TurnsAway (.channelNotFound packet.destinationPort.name packet.destinationChannel.name)
  | account {envelope : Envelope} {ms : List M} {channel : ChannelEnd} {hop : ConnectionId}
      (brings : host.Brings packet envelope ms) (comes : host.ComesOver packet channel hop)
      (h : host.accounts.find? hop packet.sourcePort = none) :
      TurnsAway (.accountNotFound hop.name packet.sourcePort.name)
  | message {envelope : Envelope} {before after : List M} {m : M} {channel : ChannelEnd}
      {hop : ConnectionId} {account : String} {reason : Refusal}
      (brings : host.Brings packet envelope (before ++ m :: after))
      (comes : host.ComesOver packet channel hop)
      (owns : host.accounts.find? hop packet.sourcePort = some account)
      (first : ∀ m' ∈ before, host.refusalFor? account m' = none)
      (h : host.refusalFor? account m = some reason) :
      TurnsAway (.unauthorized before.length reason)

end Reasons

variable {host : Host M} {packet : Packet} {cause : HostError}

theorem isRefusal_of_turnsAway (h : host.TurnsAway packet cause) : cause.isRefusal = true := by
  cases h <;> rfl

/-! ### The reasons and the gates -/

theorem ComesOver.connection? {channel : ChannelEnd} {hop : ConnectionId}
    (h : host.ComesOver packet channel hop) :
    host.channels.connection? packet.destinationPort packet.destinationChannel = some hop := by
  rw [Channels.connection?, h.known]
  exact h.first

/-- An envelope that has been read is asked for its type, and then for its batch. -/
theorem batchOf_of_opens {envelope : Envelope} (h : host.Opens packet envelope) :
    host.batchOf packet =
      if envelope.tag = "TYPE_EXECUTE_TX" then host.registry.decode envelope.data
      else .error (.unsupportedType envelope.tag) := by
  unfold batchOf
  simp only [h.enabled, h.parsed, if_true]
  split
  · next htype => rw [if_pos (Envelope.type_eq_executeTx_iff.1 htype)]
  · next htype =>
    rw [if_neg fun htag => htype (Envelope.type_eq_executeTx_iff.2 htag)]
    exact congrArg (fun tag => Except.error (HostError.unsupportedType tag))
      (PacketType.tag_ofTag envelope.tag)

/-- An envelope that asks for a batch is opened, and the batch is decoded. -/
theorem batchOf_of_execute {host : Host M} {packet : Packet} {bs : Bytes} {memo : String}
    (henabled : host.config.hostEnabled = true)
    (hdata : packet.data = JsonForm.print (Envelope.execute bs memo)) :
    host.batchOf packet = host.registry.decode bs := by
  have hparsed : JsonForm.parse? packet.data = some (Envelope.execute bs memo) := by
    rw [hdata, JsonForm.parse?_print]
  rw [batchOf_of_opens ⟨henabled, hparsed⟩]
  exact if_pos rfl

/-- What the controller has written into a packet is the batch of the packet, if it is decoded. -/
theorem batchOf_packetOfOneAccount {host : Host} {ms : List Message} {memo : String}
    (henabled : host.config.hostEnabled = true)
    (hdecode : host.registry.decode (WireForm.write (Batch.ofMessages ms)) = .ok ms) :
    host.batchOf (packetOfOneAccount ms memo) = .ok ms :=
  (batchOf_of_execute henabled rfl).trans hdecode

/-- An envelope can be opened unless the host is switched off or the envelope cannot be read. -/
theorem cases_of_opening (host : Host M) (packet : Packet) :
    host.config.hostEnabled = false ∨
      (host.config.hostEnabled = true ∧
        (JsonForm.parse? packet.data : Option Envelope) = none) ∨
      ∃ envelope, host.Opens packet envelope := by
  cases henabled : host.config.hostEnabled with
  | false => exact .inl rfl
  | true =>
    cases hparse : (JsonForm.parse? packet.data : Option Envelope) with
    | none => exact .inr (.inl ⟨rfl, rfl⟩)
    | some envelope => exact .inr (.inr ⟨envelope, henabled, hparse⟩)

theorem batchOf_of_disabled (h : host.config.hostEnabled = false) :
    host.batchOf packet = .error .hostDisabled := by
  simp [batchOf, h]

theorem batchOf_of_unreadable (henabled : host.config.hostEnabled = true)
    (h : (JsonForm.parse? packet.data : Option Envelope) = none) :
    host.batchOf packet = .error .decode := by
  simp [batchOf, henabled, h]

theorem batchOf_of_brings {envelope : Envelope} {ms : List M}
    (h : host.Brings packet envelope ms) : host.batchOf packet = .ok ms := by
  rw [batchOf_of_opens h.toOpens, if_pos h.tag, h.decoded]

theorem exists_brings_of_batchOf {ms : List M} (h : host.batchOf packet = .ok ms) :
    ∃ envelope, host.Brings packet envelope ms := by
  rcases cases_of_opening host packet with hdisabled | ⟨henabled, hnone⟩ | ⟨envelope, hopens⟩
  · rw [batchOf_of_disabled hdisabled] at h
    cases h
  · rw [batchOf_of_unreadable henabled hnone] at h
    cases h
  · rw [batchOf_of_opens hopens] at h
    split at h
    · next htag => exact ⟨envelope, hopens, htag, h⟩
    · cases h

/-- **The first gate.** A packet that brings no batch is turned away for one of the first four
reasons. -/
theorem turnsAway_of_batchOf (h : host.batchOf packet = .error cause) :
    host.TurnsAway packet cause := by
  rcases cases_of_opening host packet with hdisabled | ⟨henabled, hnone⟩ | ⟨envelope, hopens⟩
  · rw [batchOf_of_disabled hdisabled] at h
    cases h
    exact .disabled hdisabled
  · rw [batchOf_of_unreadable henabled hnone] at h
    cases h
    exact .envelope henabled hnone
  · rw [batchOf_of_opens hopens] at h
    split at h
    · next htag =>
      have hnone : ∀ ms, host.registry.decode envelope.data ≠ .ok ms := by
        intro ms hms
        rw [hms] at h
        cases h
      rw [Registry.decode_eq_error hnone] at h
      cases h
      exact .batch hopens htag hnone
    · next htag =>
      cases h
      exact .type hopens htag

/-- **The second gate.** A batch that is not admitted is turned away for one of the last three
reasons. -/
theorem turnsAway_of_gate {envelope : Envelope} {ms : List M}
    (hbrings : host.Brings packet envelope ms)
    (h : host.gate packet.sourcePort packet.destinationPort packet.destinationChannel ms
      = .error cause) : host.TurnsAway packet cause := by
  unfold gate at h
  cases hconnection :
    host.channels.connection? packet.destinationPort packet.destinationChannel with
  | none =>
    simp only [hconnection] at h
    cases h
    exact .channel hbrings (Channels.connection?_eq_none_iff.1 hconnection)
  | some hop =>
    obtain ⟨channel, hknown, hfirst⟩ := Option.bind_eq_some_iff.1 hconnection
    have hcomes : host.ComesOver packet channel hop := ⟨hknown, hfirst⟩
    simp only [hconnection, authenticate] at h
    cases haccount : host.accounts.find? hop packet.sourcePort with
    | none =>
      simp only [haccount] at h
      cases h
      exact .account hbrings hcomes haccount
    | some account =>
      simp only [haccount] at h
      split at h
      · next index reason hrefusal =>
        cases h
        obtain ⟨before, m, after, rfl, rfl, hbefore, hm⟩ :=
          Authorization.firstRefusal?_eq_some_iff.1 hrefusal
        exact .message hbrings hcomes haccount hbefore hm
      · cases h

/-- What is turned away does not get through the gates. -/
theorem batchOf_or_gate_of_turnsAway (h : host.TurnsAway packet cause) :
    host.batchOf packet = .error cause ∨
      ∃ ms, host.batchOf packet = .ok ms ∧
        host.gate packet.sourcePort packet.destinationPort packet.destinationChannel ms
          = .error cause := by
  cases h with
  | disabled h => exact .inl (batchOf_of_disabled h)
  | envelope enabled h => exact .inl (batchOf_of_unreadable enabled h)
  | type opens h => exact .inl (by rw [batchOf_of_opens opens, if_neg h])
  | batch opens tag h =>
    refine .inl ?_
    rw [batchOf_of_opens opens, if_pos tag, Registry.decode_eq_error h]
  | channel brings h =>
    refine .inr ⟨_, batchOf_of_brings brings, ?_⟩
    rw [gate, Channels.connection?_eq_none_iff.2 h]
  | account brings comes h =>
    refine .inr ⟨_, batchOf_of_brings brings, ?_⟩
    rw [gate, comes.connection?]
    simp only [authenticate, h]
  | @message _ before after m _ _ _ _ brings comes owns first h =>
    refine .inr ⟨_, batchOf_of_brings brings, ?_⟩
    have hrefusal := Authorization.firstRefusal?_eq_some_iff.2
      ⟨before, m, after, rfl, rfl, first, h⟩
    rw [gate, comes.connection?]
    simp only [authenticate, owns, hrefusal]

/-! ### Answers -/

/-- A packet that is turned away leaves the state alone. -/
theorem handle_of_turnsAway (h : host.TurnsAway packet cause) (router : Router M) (s : State) :
    { host with router := router }.handle packet s = (.error cause, s) := by
  -- neither gate knows of the router
  rcases batchOf_or_gate_of_turnsAway h with hbatch | ⟨ms, hbatch, hgate⟩
  · exact handle_of_batchOf_error { host with router := router } s hbatch
  · rw [handle_of_batchOf { host with router := router } s hbatch]
    exact execute_of_gate_error hgate

/-- A batch that has been admitted is not answered with one of the refusals, however it comes
out. -/
theorem isRefusal_of_answer {ms : List M} (hbatch : host.batchOf packet = .ok ms)
    (hgate : host.gate packet.sourcePort packet.destinationPort packet.destinationChannel ms
      = .ok ()) {s : State} (h : (host.handle packet s).1 = .error cause) :
    cause.isRefusal = false := by
  rw [host.handle_of_batchOf s hbatch] at h
  cases hobstacle : (host.router.direct ms s).obstacle with
  | some obstacle =>
    rw [execute_of_obstacle hgate hobstacle] at h
    cases h
    cases obstacle <;> rfl
  | none =>
    have hencode := (execute_of_through hgate hobstacle).1.symm.trans h
    rw [BatchResult.encode_eq] at hencode
    split at hencode
    · cases hencode
    · cases hencode
      rfl

/-- **Packets are turned away before anything is carried out**, for the reasons of `TurnsAway` and
for no others.

* A packet to which one of the reasons applies gets the answer to this reason, from every state and
  with every router in the place of that of the host, so no handler has a part in it. The state is
  as it was, and the packet is counted.
* An answer that is one of these refusals is given only if the reason applies. -/
theorem turned_away_before_execution (host : Host M) (packet : Packet) :
    (∀ cause, host.TurnsAway packet cause →
      cause.isRefusal = true ∧
        ∀ (router : Router M) (before : Session),
          ({ host with router := router }.receive packet).run before
            = (.error cause, ⟨before.state, before.stats.record (.error cause)⟩)) ∧
    ∀ (before after : Session) (cause : HostError),
      (host.receive packet).run before = (.error cause, after) → cause.isRefusal = true →
        host.TurnsAway packet cause := by
  constructor
  · intro cause h
    refine ⟨isRefusal_of_turnsAway h, fun router before => ?_⟩
    have hhandle := handle_of_turnsAway h router before.state
    exact congrArg (fun handled : Except HostError Bytes × State =>
      (handled.1, (⟨handled.2, before.stats.record handled.1⟩ : Session))) hhandle
  · intro before after cause hreceive hrefusal
    have hanswer : (host.handle packet before.state).1 = .error cause :=
      congrArg Prod.fst hreceive
    cases hbatch : host.batchOf packet with
    | error early =>
      rw [host.handle_of_batchOf_error before.state hbatch] at hanswer
      cases hanswer
      exact turnsAway_of_batchOf hbatch
    | ok ms =>
      obtain ⟨envelope, hbrings⟩ := exists_brings_of_batchOf hbatch
      cases hgate : host.gate packet.sourcePort packet.destinationPort packet.destinationChannel
        ms with
      | error early =>
        rw [host.handle_of_batchOf before.state hbatch, execute_of_gate_error hgate] at hanswer
        cases hanswer
        exact turnsAway_of_gate hbrings hgate
      | ok _ =>
        have hlate := isRefusal_of_answer hbatch hgate hanswer
        rw [hrefusal] at hlate
        cases hlate

/-- The first message makes no sense, since it sends nothing, and the second speaks for somebody
else. The second is cited. -/
theorem ofOneAccount_cites_second :
    let coins (n : Fin 16) : Amount := ⟨n, Nat.lt_trans n.isLt (by decide)⟩
    let nothing := Message.send ⟨"ica1", "bob", []⟩
    let theft := Message.send ⟨"alice", "ica1", [⟨"atom", coins 2⟩]⟩
    ((ofOneAccount.receive (packetOfOneAccount [nothing, theft] "")).run ⟨.ledger .empty, .empty⟩).1
      = .error (.unauthorized 1 (.signerMismatch "ica1" "alice")) := by
  intro coins nothing theft
  let packet := packetOfOneAccount [nothing, theft] ""
  have hopens : ofOneAccount.Opens packet _ := ⟨rfl, JsonForm.parse?_print _⟩
  have hbrings : ofOneAccount.Brings packet _ ([nothing] ++ theft :: []) :=
    ⟨hopens, rfl, by decide +kernel⟩
  have hcomes : ofOneAccount.ComesOver packet
      ⟨⟨"icacontroller"⟩, ⟨"channel-7"⟩, [⟨"connection-0"⟩]⟩ ⟨"connection-0"⟩ := ⟨rfl, rfl⟩
  have hturns : ofOneAccount.TurnsAway packet (.unauthorized 1 (.signerMismatch "ica1" "alice")) :=
    .message hbrings hcomes (rfl : _ = some "ica1") (by decide +kernel) (by decide +kernel)
  have h := (turned_away_before_execution ofOneAccount packet).1 _ hturns
  exact congrArg Prod.fst (h.2 ofOneAccount.router ⟨.ledger .empty, .empty⟩)

end Host

end RemoteAccount
