import RemoteAccount.Proofs.Precedence

/-!
# What the handling of a packet depends on

Of a packet only its request counts (`Packet.SameRequest`): which application sent it, over which
channel it came in, and the tag and the bytes of its envelope. Its number, the name that the other
side has for the channel, the memo, and the way in which the envelope is spelled are of no account.
Of the state only the store counts, and not the events that were emitted before.

`Host.receive_of_sameRequest` compares two runs that agree on what counts. They have the same
outcome, leave the same store, and add the same events. As to the packets, the request is all that
is taken from them on the way to the batch (`Host.handle_of_sameRequest`); as to the states,
handling a packet is `Uniform`, whatever the handlers do.
-/

namespace RemoteAccount

/-- **The same request.** The packets come from applications of the same name over the same channel,
and their envelopes have the same tag and carry the same bytes. -/
structure Packet.SameRequest (packet packet' : Packet) : Prop where
  sourcePort : packet.sourcePort = packet'.sourcePort
  destinationPort : packet.destinationPort = packet'.destinationPort
  destinationChannel : packet.destinationChannel = packet'.destinationChannel
  /-- Both envelopes can be read, however they are spelled. -/
  envelopes : ∃ envelope envelope' : Envelope,
    JsonForm.parse? packet.data = some envelope ∧ JsonForm.parse? packet'.data = some envelope' ∧
      envelope.tag = envelope'.tag ∧ envelope.data = envelope'.data

namespace Host

variable {M : Type} [ChainMessage M] (host : Host M) {packet packet' : Packet}

/-- The batch of a packet depends on the tag and the bytes of its envelope. -/
theorem batchOf_of_sameRequest (h : packet.SameRequest packet') :
    host.batchOf packet = host.batchOf packet' := by
  obtain ⟨envelope, envelope', hparse, hparse', htag, hdata⟩ := h.envelopes
  have htype : envelope.type = envelope'.type := congrArg PacketType.ofTag htag
  simp only [batchOf, hparse, hparse', htype, hdata]

/-- Packets with the same request are handled in the same way, from any state. -/
theorem handle_of_sameRequest (h : packet.SameRequest packet') :
    host.handle packet = host.handle packet' := by
  rw [handle_eq, handle_eq, host.batchOf_of_sameRequest h, h.sourcePort, h.destinationPort,
    h.destinationChannel]

/-- **Nothing else counts.** Two packets with the same request arrive at a host whose state has the
same store, whatever events there have been. They have the same outcome, leave the same store, and
add the same events to those that there were. -/
theorem receive_of_sameRequest (hrequest : packet.SameRequest packet') {before before' : Session}
    (hstore : before.state.store = before'.state.store) :
    let received := (host.receive packet).run before
    let received' := (host.receive packet').run before'
    received.1 = received'.1 ∧
      received.2.state.store = received'.2.state.store ∧
      ∃ events, received.2.state.events.toList = before.state.events.toList ++ events ∧
        received'.2.state.events.toList = before'.state.events.toList ++ events := by
  intro received received'
  have huniform := host.uniform_handle packet
  have hreads : before.state.get = before'.state.get := State.store_inj.1 hstore
  have hanswer : received'.1 = (host.handle packet before'.state).1 :=
    congrArg (fun handle : Execution Bytes => (handle before'.state).1)
      (host.handle_of_sameRequest hrequest).symm
  have hstate : received'.2.state = (host.handle packet before'.state).2 :=
    congrArg (fun handle : Execution Bytes => (handle before'.state).2)
      (host.handle_of_sameRequest hrequest).symm
  rw [hanswer, hstate]
  exact ⟨huniform.answer hreads, State.store_inj.2 (huniform.get hreads), huniform.events hreads⟩

/-- The owner of `ica1` sends two of three coins. A second packet asks for the same with another
number, from a channel with another name, with a memo, and with the members of its envelope in
another order and blanks between them; and in its state something has happened before. -/
theorem ofOneAccount_reads_past_spelling :
    let coins (n : Fin 16) : Amount := ⟨n, Nat.lt_trans n.isLt (by decide)⟩
    let transfer := Message.send ⟨"ica1", "bob", [⟨"atom", coins 2⟩]⟩
    let funded := Bank.setBalance (.ledger .empty) "ica1" "atom" (coins 3)
    let packet := packetOfOneAccount [transfer] ""
    let packet' : Packet := { packet with
      sequence := 2
      sourceChannel := ⟨"channel-8"⟩
      data := Bytes.ofText "\x7b \"memo\": \"again\",\n \"\\u0064ata\": \""
        ++ Base64.encode (WireForm.write (Batch.ofMessages [transfer]))
        ++ Bytes.ofText "\", \"type\": \"TYPE_EXECUTE_TX\" \x7d" }
    let received := (ofOneAccount.receive packet).run ⟨funded, .empty⟩
    let received' := (ofOneAccount.receive packet').run ⟨funded.emit [⟨"earlier", []⟩], .empty⟩
    packet.data ≠ packet'.data ∧
      received.1 = BatchResult.encode [⟨Message.Kind.send.typeUrl, []⟩] ∧
      received.1 = received'.1 ∧ received.2.state.store = received'.2.state.store := by
  intro coins transfer funded packet packet' received received'
  have hparse : (JsonForm.parse? packet.data : Option Envelope) = some _ := JsonForm.parse?_print _
  have hparse' : (JsonForm.parse? packet'.data : Option Envelope)
      = some ⟨"TYPE_EXECUTE_TX", WireForm.write (Batch.ofMessages [transfer]), "again"⟩ := by
    decide +kernel
  have hrequest : packet.SameRequest packet' := ⟨rfl, rfl, rfl, _, _, hparse, hparse', rfl, rfl⟩
  have hstore : funded.store = (funded.emit [⟨"earlier", []⟩]).store := rfl
  have hdepends : received.1 = received'.1 ∧ received.2.state.store = received'.2.state.store ∧ _ :=
    ofOneAccount.receive_of_sameRequest hrequest hstore
  have hspelling : packet.data ≠ packet'.data := by
    intro heq
    -- the memos would be the same
    rw [heq, hparse'] at hparse
    exact absurd (congrArg Envelope.memo (Option.some.inj hparse)) (by decide)
  have hbatch : ofOneAccount.batchOf packet = .ok [transfer] :=
    batchOf_packetOfOneAccount rfl (by decide +kernel)
  have hanswer : received.1 = BatchResult.encode [⟨Message.Kind.send.typeUrl, []⟩] := by
    rw [(ofOneAccount.receive_of_batchOf ⟨funded, .empty⟩ hbatch).1]
    decide +kernel
  exact ⟨hspelling, hanswer, hdepends.1, hdepends.2.1⟩

end Host

end RemoteAccount
