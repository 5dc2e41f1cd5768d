import RemoteAccount.Proofs.Json.Lawful
import RemoteAccount.Proofs.Precedence
import RemoteAccount.Proofs.Refinement
import RemoteAccount.Proofs.WireFormat

/-!
# From the controller to the host and back

A controller encodes its messages, puts the bytes into an envelope, and prints the envelope as the
data of a packet. The host goes the same way back before it carries anything out, and what it
answers goes through two more encodings. `Host.end_to_end` says that nothing is changed on the way:
receiving the packet is carrying out the messages that the controller has started from, and the
controller reads the results that the host has got.

Each of the layers has its own law, and here they are only put together:

* `JsonForm.parse?_print` — envelopes and acknowledgements are read back from what is printed;
* `WireFormat.isForm_of_encode`, `Registry.decode_of_isForm` — an encoded batch is decoded to its
  messages, unless it is empty or holds a message that the host does not know;
* `BatchResult.decode_of_encode` — encoded results are decoded again.
-/

namespace RemoteAccount

variable {M : Type} [ChainMessage M]

/-- The results of a batch have the type URLs of its messages. -/
theorem MessageResult.map_typeUrl_ofResponses {ms : List M} {responses : List Response}
    (h : responses.length = ms.length) :
    (ofResponses ms responses).map MessageResult.typeUrl = ms.map ChainMessage.typeUrl := by
  induction ms generalizing responses with
  | nil => rfl
  | cons m ms ih =>
    cases responses with
    | nil => cases h
    | cons response responses => exact congrArg (_ :: ·) (ih (Nat.succ.inj h))

namespace Host

/-- A packet that is answered with a result was found to bring a batch, and the result holds an
entry for each of its messages. -/
theorem exists_results_of_receive {host : Host M} {packet : Packet} {s : State} {r : Bytes}
    (h : (host.handle packet s).1 = .ok r) :
    ∃ ms results, host.batchOf packet = .ok ms ∧ BatchResult.decode r = .ok results ∧
      results.map MessageResult.typeUrl = ms.map ChainMessage.typeUrl := by
  rcases host.handle_untouched_or_commits packet s with ⟨_, -, hrefused⟩ | hdone
  · rw [hrefused] at h
    cases h
  · obtain ⟨ms, hbatch, -, hencode, hcommits⟩ := hdone
    refine ⟨ms, _, hbatch, BatchResult.decode_of_encode (hencode.symm.trans h), ?_⟩
    exact MessageResult.map_typeUrl_ofResponses
      (Router.length_responses_of_obstacle_eq_none hcommits.through)

/-- **Controller and host agree.** A controller encodes some messages and sends them, with any memo,
to a host that is switched on and knows some of the kinds of messages. Whatever the state is:

* if there is a message and the host knows the type URLs of all, receiving the packet has the same
  outcome and leaves the same state as carrying out the messages themselves;
* if there is none, or one whose type URL the host does not know, the packet cannot be decoded and
  the state is as it was;
* an outcome that is a result is read back from the printed acknowledgement, and decodes to one
  entry for each message, in their order and with their type URLs. -/
theorem end_to_end (host : Host) (kinds : List Message.Kind)
    (hregistry : host.registry = Registry.ofKinds kinds)
    (henabled : host.config.hostEnabled = true) {ms : List Message} {bs : Bytes}
    (hencode : Batch.encode ms = .ok bs) (memo : String) (packet : Packet)
    (hdata : packet.data = JsonForm.print (Envelope.execute bs memo)) (before : Session) :
    let received := (host.receive packet).run before
    let executed := host.execute packet.sourcePort packet.destinationPort packet.destinationChannel
      ms before.state
    ((ms ≠ [] ∧ ∀ m ∈ ms, host.registry.contains m.typeUrl = true) →
      received.1 = executed.1 ∧ received.2.state = executed.2) ∧
    ((ms = [] ∨ ∃ m ∈ ms, host.registry.contains m.typeUrl = false) →
      received.1 = .error .decode ∧ received.2.state = before.state) ∧
    ∀ r, received.1 = .ok r →
      JsonForm.parse? (JsonForm.print (Acknowledgement.ofOutcome received.1))
        = some (Acknowledgement.result r) ∧
      ∃ results, BatchResult.decode r = .ok results ∧
        results.map MessageResult.typeUrl = ms.map Message.typeUrl := by
  intro received executed
  -- the host finds the bytes that the controller has encoded, and they are the form of the batch
  have hform : WireFormat.IsForm ms bs := WireFormat.isForm_of_encode hencode
  have hbatch : host.batchOf packet = host.registry.decode bs := batchOf_of_execute henabled hdata
  rw [hregistry, Registry.decode_of_isForm hform, ← hregistry] at hbatch
  refine ⟨fun hknown => ?_, fun hunknown => ?_, fun r hr => ?_⟩
  · rw [if_pos hknown] at hbatch
    exact host.receive_of_batchOf before hbatch
  · have hnot : ¬ (ms ≠ [] ∧ ∀ m ∈ ms, host.registry.contains m.typeUrl = true) := by
      rintro ⟨hne, hall⟩
      rcases hunknown with hnil | ⟨m, hm, hfalse⟩
      · exact hne hnil
      · rw [hall m hm] at hfalse
        cases hfalse
    rw [if_neg hnot] at hbatch
    have hhandle := host.handle_of_batchOf_error before.state hbatch
    exact ⟨congrArg Prod.fst hhandle, congrArg Prod.snd hhandle⟩
  · refine ⟨?_, ?_⟩
    · rw [hr, JsonForm.parse?_print]
      rfl
    · -- there is a result only if the batch was decoded, and then it was that of the controller
      obtain ⟨ms', results, hms', hresults, htypeUrls⟩ := exists_results_of_receive hr
      rw [hbatch] at hms'
      split at hms'
      · cases hms'
        exact ⟨results, hresults, htypeUrls⟩
      · cases hms'

/-- The owner of `ica1` sends two of three coins, with a memo that has to be escaped. The transfer
is carried out and answered: one coin is left, and `bob` has the two. -/
theorem ofOneAccount_answers :
    let coins (n : Fin 16) : Amount := ⟨n, Nat.lt_trans n.isLt (by decide)⟩
    let transfer := Message.send ⟨"ica1", "bob", [⟨"atom", coins 2⟩]⟩
    let packet := packetOfOneAccount [transfer] "\"two\"\n\\ of three"
    let before : Session := ⟨Bank.setBalance (.ledger .empty) "ica1" "atom" (coins 3), .empty⟩
    let received := (ofOneAccount.receive packet).run before
    Batch.encode [transfer] = .ok (WireForm.write (Batch.ofMessages [transfer])) ∧
      received.1 = BatchResult.encode [⟨Message.Kind.send.typeUrl, []⟩] ∧
      Bank.balance received.2.state "ica1" "atom" = coins 1 ∧
      Bank.balance received.2.state "bob" "atom" = coins 2 := by
  intro coins transfer packet before received
  have hencode : Batch.encode [transfer] = .ok (WireForm.write (Batch.ofMessages [transfer])) := by
    rw [WireFormat.encode_eq, WireFormat.write_batch, if_pos (by decide)]
  have hknown : ∀ m ∈ [transfer], ofOneAccount.registry.contains m.typeUrl = true := by
    decide +kernel
  have hreceived := (end_to_end ofOneAccount [.send] rfl rfl hencode _ packet rfl before).1
    ⟨List.cons_ne_nil _ _, hknown⟩
  -- the envelope has been opened by its law, and the rest can be computed
  refine ⟨hencode, hreceived.1.trans ?_, ?_, ?_⟩
  · decide +kernel
  · rw [hreceived.2]
    decide +kernel
  · rw [hreceived.2]
    decide +kernel

end Host

end RemoteAccount
