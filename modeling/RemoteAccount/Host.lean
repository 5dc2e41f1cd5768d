import RemoteAccount.Acknowledgement
import RemoteAccount.Authorization
import RemoteAccount.Batch
import RemoteAccount.Execution
import RemoteAccount.Packet
import RemoteAccount.Stats

/-!
# The host

A host receives packets from remote controllers and has their batches carried out in the name of the
accounts that the controllers own.

* `Host.execute` carries out messages that came in at one end of a channel: the channel and the
  account must be known and every message authorized before the first is carried out. Only when all
  of them have been committed is the answer encoded, so `HostError.encode` is the one error that
  comes too late to undo anything.
* `Host.handle` opens a packet: a host that is switched off refuses it unread, and then its
  envelope, its type and its batch are looked at in this order.
* `Host.receive` handles a packet and counts it, and `Host.receiveAck` also acknowledges it, leaving
  one event in the stream that says how it has come out.
-/

namespace RemoteAccount

def version : String := "0.1.0"

/-- A host of accounts that are controlled from other chains. -/
structure Host (M : Type := Message) [ChainMessage M] where
  registry : Registry M
  channels : Channels
  accounts : Accounts
  config : Config
  router : Router M

/-- What a host carries along from packet to packet. -/
structure Session where
  state : State
  stats : Stats

namespace Host

variable {M : Type} [ChainMessage M]

/-- Carry out messages that a controller of this name has sent over a channel of ours, and give back
the encoded results. -/
def execute (host : Host M) (sourcePort destinationPort : PortId) (destinationChannel : ChannelId)
    (ms : List M) : Execution Bytes := do
  match host.channels.connection? destinationPort destinationChannel with
  | none => throw (.channelNotFound destinationPort.name destinationChannel.name)
  | some connection =>
    Execution.ofResult (authenticate host.accounts host.config connection sourcePort ms)
    let results ← Execution.atomically (host.router.carryOut ms)
    -- whatever goes wrong from here on, the batch has been committed
    Execution.ofResult (BatchResult.encode results)

/-- Handle a packet, and give back the encoded results of its batch. -/
def handle (host : Host M) (packet : Packet) : Execution Bytes := do
  if !host.config.hostEnabled then
    throw .hostDisabled
  -- the bytes an envelope carries are read only if it asks for a batch
  match (JsonForm.parse? packet.data : Option Envelope) with
  | none => throw .decode
  | some envelope =>
    match envelope.type with
    | .executeTx =>
      let ms ← Execution.ofResult (host.registry.decode envelope.data)
      host.execute packet.sourcePort packet.destinationPort packet.destinationChannel ms
    | other => throw (.unsupportedType other.tag)

/-- Receive a packet: handle it and count it. -/
def receive (host : Host M) (packet : Packet) : StateM Session (Except HostError Bytes) := fun s =>
  let handled := (host.handle packet).run s.state
  (handled.1, ⟨handled.2, s.stats.record handled.1⟩)

/-- The event that tells how a packet has come out. -/
def receipt (packet : Packet) (outcome : Except HostError Bytes) : Event :=
  let success := (Acknowledgement.ofOutcome outcome).isSuccess
  ⟨"ics27_packet",
    [⟨"module", "interchainaccounts"⟩, ⟨"host_channel_id", packet.destinationChannel.name⟩,
      ⟨"success", toString success⟩] ++
    match outcome with
    | .ok _ => []
    | .error cause => [⟨"error", cause.message⟩]⟩

/-- Receive a packet and acknowledge it. -/
def receiveAck (host : Host M) (packet : Packet) : StateM Session Acknowledgement := do
  let outcome ← host.receive packet
  modify fun s => { s with state := s.state.emit [receipt packet outcome] }
  return .ofOutcome outcome

end Host

end RemoteAccount
