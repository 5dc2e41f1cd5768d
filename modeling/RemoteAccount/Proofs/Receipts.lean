import RemoteAccount.Proofs.Refinement
import RemoteAccount.Proofs.Runs

/-!
# Receipts in the stream of events

When a packet is acknowledged, an event stays behind that tells an observer of the host's own chain
how it has come out, details included (`Host.IsReceipt`). It is emitted when the packet has been
handled, so it is never undone together with the batch: a packet whose batch is discarded leaves its
receipt and nothing else, and one whose batch is committed leaves the events of the handlers and
then its receipt (`Host.block`).

* `Host.events_handle` — what handling a packet adds to the stream are the events of the handlers,
  if the batch is committed;
* `Host.events_acknowledged` — acknowledging it adds a block;
* `Host.receipts_of_run` — so a run of packets adds one block for each, in the order in which they
  arrive.
-/

namespace RemoteAccount

namespace Host

/-- **What a receipt says** of a packet that has come out in this way. -/
structure IsReceipt (packet : Packet) (outcome : Except HostError Bytes) (event : Event) :
    Prop where
  kind : event.kind = "ics27_packet"
  channel : event.attribute? "host_channel_id" = some packet.destinationChannel.name
  /-- It tells of success exactly if there is a result. -/
  success : event.attribute? "success" = some "true" ↔ ∃ data, outcome = .ok data
  /-- It holds the message of the error exactly if there is one. -/
  error (message : String) :
    event.attribute? "error" = some message ↔
      ∃ cause, outcome = .error cause ∧ cause.message = message

theorem isReceipt_receipt (packet : Packet) (outcome : Except HostError Bytes) :
    IsReceipt packet outcome (receipt packet outcome) := by
  cases outcome with
  | ok data =>
    exact ⟨rfl, rfl, iff_of_true rfl ⟨data, rfl⟩, fun _ => iff_of_false nofun nofun⟩
  | error cause =>
    refine ⟨rfl, rfl, iff_of_false ?_ nofun, fun message => ?_⟩
    · -- what it says is that there was no success
      change ¬ some "false" = some "true"
      decide
    · change some cause.message = some message ↔ _
      simp

variable {M : Type} [ChainMessage M] (host : Host M)

/-! ### Blocks -/

/-- The events that the handlers of a batch hand out when its packet arrives in this state, in the
order of the batch. -/
def handlerEvents (packet : Packet) (s : State) : List Event :=
  match host.batchOf packet with
  | .ok ms => (host.router.direct ms s).responses.flatMap Response.events
  | .error _ => []

/-- **The block of a packet** that arrives in a session: the events of its handlers, if its batch is
committed, and then its receipt. -/
def block (packet : Packet) (before : Session) : List Event :=
  let outcome := ((host.receive packet).run before).1
  (if tellsOfCommit outcome then host.handlerEvents packet before.state else []) ++
    [receipt packet outcome]

/-- Handling a packet adds the events of its handlers, if its batch is committed, and else none. -/
theorem events_handle (packet : Packet) (s : State) :
    (host.handle packet s).2.events.toList = s.events.toList ++
      if tellsOfCommit (host.handle packet s).1 then host.handlerEvents packet s else [] := by
  rcases host.handle_untouched_or_commits packet s with
    ⟨cause, hcause, huntouched⟩ | ⟨ms, hbatch, -, hanswer, hcommits⟩
  · rw [huntouched, tellsOfCommit, hcause]
    exact (List.append_nil _).symm
  · rw [hanswer, BatchResult.tellsOfCommit_encode, if_pos rfl, hcommits.events, handlerEvents,
      hbatch]
    rfl

/-- Acknowledging a packet adds its block. -/
theorem events_acknowledged (packet : Packet) (before : Session) :
    (host.deliver (.acknowledged packet) before).state.events.toList =
      before.state.events.toList ++ host.block packet before := by
  rw [state_deliver_acknowledged, State.emit, State.events_apply_emit, events_handle,
    List.append_assoc]
  rfl

/-! ### Runs -/

/-- The packets of a run in which all are acknowledged, each with the session in which it
arrives. -/
def arrivals : List Packet → Session → List (Packet × Session)
  | [], _ => []
  | packet :: packets, before =>
    (packet, before) :: arrivals packets (host.deliver (.acknowledged packet) before)

theorem map_fst_arrivals (packets : List Packet) (before : Session) :
    (host.arrivals packets before).map Prod.fst = packets := by
  induction packets generalizing before with
  | nil => rfl
  | cons packet packets ih => exact congrArg (packet :: ·) (ih _)

/-- A run adds the blocks of its packets, one after the other. -/
theorem events_deliverAll_acknowledged (packets : List Packet) (before : Session) :
    (host.deliverAll (packets.map .acknowledged) before).state.events.toList =
      before.state.events.toList ++
        (host.arrivals packets before).flatMap fun arrival => host.block arrival.1 arrival.2 := by
  induction packets generalizing before with
  | nil => exact (List.append_nil _).symm
  | cons packet packets ih =>
    -- the rest of the run starts behind the block of the first packet
    have hrest := ih (host.deliver (.acknowledged packet) before)
    rw [events_acknowledged, List.append_assoc] at hrest
    exact hrest

/-- **Receipts.** Receiving a packet and acknowledging it differs from receiving it in nothing but
the receipt: the answer is the acknowledgement of the outcome, the packet is counted as before, the
store is the same, and to the events one more is added, which is a receipt of this outcome.

A run of packets that are all acknowledged leaves the events that there were, and after them one
block for each packet in the order in which they arrive: the events of its handlers, exactly if its
batch was committed in the session in which it arrived, and its receipt. -/
theorem receipts_of_run :
    (∀ (packet : Packet) (before : Session),
      let received := (host.receive packet).run before
      let acknowledged := (host.receiveAck packet).run before
      acknowledged.1 = .ofOutcome received.1 ∧
        acknowledged.2.stats = received.2.stats ∧
        acknowledged.2.state.store = received.2.state.store ∧
        acknowledged.2.state.events.toList
          = received.2.state.events.toList ++ [receipt packet received.1] ∧
        IsReceipt packet received.1 (receipt packet received.1)) ∧
    ∀ (packets : List Packet) (before : Session),
      (host.arrivals packets before).map Prod.fst = packets ∧
        (host.deliverAll (packets.map .acknowledged) before).state.events.toList =
          before.state.events.toList ++
            (host.arrivals packets before).flatMap fun (packet, session) =>
              host.block packet session := by
  refine ⟨fun packet before => ?_, fun packets before => ?_⟩
  · intro received acknowledged
    have hstate : acknowledged.2.state = received.2.state.emit [receipt packet received.1] := rfl
    refine ⟨rfl, rfl, ?_, ?_, isReceipt_receipt packet received.1⟩
    · -- a receipt is no write
      rw [hstate, State.store_inj]
      exact funext (received.2.state.get_apply_emit _)
    · rw [hstate, State.emit, State.events_apply_emit]
  · exact ⟨host.map_fst_arrivals packets before, host.events_deliverAll_acknowledged packets before⟩

end Host

end RemoteAccount
