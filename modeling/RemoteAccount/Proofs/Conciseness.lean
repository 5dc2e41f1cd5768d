import RemoteAccount.KeyValue
import RemoteAccount.Proofs.EndToEnd

/-!
# Answers that always fit

The results of a batch are encoded after the batch has been committed. If they are too long, the
sender is told that its batch has failed, although it has not. Decoding a batch sets no limit, and a
handler may give back as much as it likes, so this can happen.

It cannot happen to a batch that was encoded by its sender, on a host whose handlers are concise
(`Host.Concise`): none gives back more data than there are bytes in the value of the message, as it
stands in the batch. A result repeats the type URL of its message, and has data where the packed
message has a value. So the results of a batch, or of as much of it as was carried out, are no
longer than the batch, and the batch was not too long to be sent.

* `Host.length_write_results_le` — one result for one packed message, by induction on the batch;
* `Host.exists_encode_of_concise` — so the results of a batch that was not too long are encoded;
* `Host.answers_committed` — what this means for packets;
* `Host.concise_of_ofKinds` — a host that knows some of the kinds of messages is concise if its
  handlers are, as those of the bank and of keys and values are (`Router.Concise.withBank`,
  `KeyValue.concise_put`).
-/

namespace RemoteAccount

/-! ### Concise handlers -/

section Concise

variable {M : Type} [ChainMessage M]

/-- **A concise handler** gives back no more data than there are bytes in what a message says. -/
def Handler.Concise (handler : Handler M) : Prop :=
  ∀ m s response s', (handler m).run.run s = (.ok response, s') →
    response.data.length ≤ (ChainMessage.value m).length

/-- All routes lead to concise handlers. -/
def Router.Concise (router : Router M) : Prop :=
  ∀ typeUrl handler, router.find? typeUrl = some handler → handler.Concise

/-- **A concise host.** A message that was unpacked is answered with no more data than there are
bytes in the value it was unpacked from. -/
def Host.Concise (host : Host M) : Prop :=
  ∀ packed m, host.registry.unpack? packed = some m →
    ∀ handler, host.router.find? (ChainMessage.typeUrl m) = some handler →
      ∀ s response s', (handler m).run.run s = (.ok response, s') →
        response.data.length ≤ packed.value.length

/-- A handler for messages that can be opened in one way has to be concise about these. -/
theorem Handler.concise_only {α : Type} {open? : M → Option α} {handle : α → StoreM Response}
    (h : ∀ m body, open? m = some body → ∀ s response s',
      (handle body).run.run s = (.ok response, s') →
        response.data.length ≤ (ChainMessage.value m).length) :
    (Handler.only open? handle).Concise := by
  intro m s response s' hrun
  cases hopen : open? m with
  | none =>
    -- the message is refused
    simp only [only, hopen] at hrun
    cases hrun
  | some body =>
    simp only [only, hopen] at hrun
    exact h m body hopen s response s' hrun

/-- A transfer gives back no data. -/
theorem Bank.concise_send :
    (Handler.only ChainMessage.transfer? Bank.send : Handler M).Concise := by
  refine Handler.concise_only fun m t _ s response s' hrun => ?_
  rw [send, StoreM.run_bind] at hrun
  rcases hcoins : (t.coins.forM (sendCoin t.sender t.recipient)).run.run s
    with ⟨cause | _, paid⟩ <;> rw [hcoins] at hrun
  · cases hrun
  · cases hrun
    exact Nat.zero_le _

/-- A put gives back its key, which is a part of what it says. -/
theorem KeyValue.concise_put : (Handler.typed .put KeyValue.put).Concise := by
  refine Handler.concise_only fun m p hopen s response s' hrun => ?_
  have hvalue : ChainMessage.value m = WireFormat.value (.put p) := by
    rw [Message.body?_eq_some_iff.1 hopen]
    exact WireFormat.value_eq (.put p)
  cases hrun
  rw [hvalue]
  simp only [WireFormat.value, WireFormat.text, WireFormat.sized, List.length_append]
  omega

namespace Router

theorem concise_empty : (empty : Router M).Concise := by
  intro typeUrl handler hfind
  simp [find?, empty] at hfind

theorem Concise.insert {router : Router M} (h : router.Concise) (typeUrl : String)
    {handler : Handler M} (hhandler : handler.Concise) :
    (router.insert typeUrl handler).Concise := by
  intro url found hfind
  rw [find?_insert] at hfind
  split at hfind
  · cases hfind
    exact hhandler
  · exact h url found hfind

theorem Concise.withBank {router : Router M} (h : router.Concise) : router.withBank.Concise :=
  h.insert Message.Kind.send.typeUrl Bank.concise_send

end Router

end Concise

/-- What is unpacked as a message of a known kind is the value of the message. -/
theorem Registry.value_of_unpack? {kinds : List Message.Kind} {packed : PackedMessage}
    {m : Message} (h : (ofKinds kinds).unpack? packed = some m) : m.value = packed.value := by
  obtain ⟨decoder, hfind, hm⟩ := Option.bind_eq_some_iff.1 h
  obtain ⟨k, -, rfl⟩ := exists_of_find?_ofKinds hfind
  obtain ⟨body, hbody, rfl⟩ := Option.map_eq_some_iff.1 hm
  rw [Message.value_ofBody]
  exact (Wire.receive?_eq_some_iff_fits.1 hbody).2.symm

/-- A host that knows some of the kinds of messages is concise if its handlers are. -/
theorem Host.concise_of_ofKinds {host : Host} {kinds : List Message.Kind}
    (hregistry : host.registry = Registry.ofKinds kinds) (hrouter : host.router.Concise) :
    host.Concise := by
  intro packed m hunpack handler hfind s response s' hrun
  rw [hregistry] at hunpack
  rw [← Registry.value_of_unpack? hunpack]
  exact hrouter _ handler hfind m s response s' hrun

/-! ### The length of the results -/

variable {M : Type} [ChainMessage M]

/-- A result is no longer than a packed message with the same type URL, if its data is no longer
than the value. -/
theorem MessageResult.length_write_le {result : MessageResult} {packed : PackedMessage}
    (htypeUrl : result.typeUrl = packed.typeUrl)
    (hdata : result.data.length ≤ packed.value.length) :
    (WireForm.write result).length ≤ (WireForm.write packed).length := by
  change (WireForm.write result.typeUrl ++ WireForm.write result.data).length
    ≤ (WireForm.write packed.typeUrl ++ WireForm.write packed.value).length
  rw [htypeUrl, List.length_append, List.length_append, WireFormat.write_bytes,
    WireFormat.write_bytes, WireFormat.length_sized, WireFormat.length_sized]
  omega

/-- The form of a batch is eight bytes for the number of its messages, and then the forms of
all. -/
theorem Batch.length_write (packed : List PackedMessage) :
    (WireForm.write (Batch.mk packed)).length = 8 + (packed.flatMap WireForm.write).length :=
  Wire.length_write_list packed

/-- A batch that is sent is not too long to be sent. -/
theorem Batch.length_le_of_encode {ms : List M} {bs : Bytes} (h : Batch.encode ms = .ok bs) :
    bs.length ≤ Wire.maxBytes := by
  unfold encode at h
  split at h
  · next sent hsent =>
    cases h
    obtain ⟨packed, -, hbounded⟩ := Option.bind_eq_some_iff.1 hsent
    rw [Wire.send?, Wire.bounded?] at hbounded
    split at hbounded
    · next hlength =>
      cases hbounded
      exact hlength
    · cases hbounded
  · cases h

namespace Host

variable {host : Host M}

/-- **One message.** Its result is no longer than the packed message. -/
theorem length_write_result_le (hconcise : host.Concise) {packed : PackedMessage} {m : M}
    (hunpack : host.registry.unpack? packed = some m) {s s' : State} {response : Response}
    (happly : host.router.applyOne m s = (.ok response, s')) :
    (WireForm.write (MessageResult.mk (ChainMessage.typeUrl m) response.data)).length
      ≤ (WireForm.write packed).length := by
  obtain ⟨decoder, hfind, hm⟩ := Option.bind_eq_some_iff.1 hunpack
  refine MessageResult.length_write_le (host.registry.typeUrl_eq hfind hm) ?_
  obtain ⟨handler, hroute, hrun⟩ := Router.exists_handler_of_applyOne happly
  exact hconcise packed m hunpack handler hroute s response s' hrun

/-- **A batch.** The results of what is carried out of it are no longer than the packed messages. -/
theorem length_write_results_le (hconcise : host.Concise) {packed : List PackedMessage}
    {ms : List M} (hunpack : packed.map host.registry.unpack? = ms.map some) (s : State) :
    ((MessageResult.ofResponses ms (host.router.direct ms s).responses).flatMap
        WireForm.write).length
      ≤ (packed.flatMap WireForm.write).length := by
  induction ms generalizing packed s with
  | nil => exact Nat.zero_le _
  | cons m ms ih =>
    cases packed with
    | nil => cases hunpack
    | cons first packed =>
      obtain ⟨hfirst, hrest⟩ := List.cons.inj hunpack
      rcases happly : host.router.applyOne m s with ⟨obstacle | response, s'⟩
      · -- the run stops here, and there is no result
        rw [Router.direct_cons_of_error happly]
        exact Nat.zero_le _
      · rw [Router.direct_cons_of_ok happly]
        have hone := length_write_result_le hconcise hfirst happly
        have hmore := ih hrest s'
        change (_ ++ _ : Bytes).length ≤ _
        rw [List.flatMap_cons, List.length_append, List.length_append]
        exact Nat.add_le_add hone hmore

/-- **The results fit.** What is carried out of a batch that was not too long to be sent has results
that can be encoded. -/
theorem exists_encode_of_concise (hconcise : host.Concise) {bs : Bytes} {ms : List M}
    (hdecode : host.registry.decode bs = .ok ms) (hshort : bs.length ≤ Wire.maxBytes) (s : State) :
    ∃ bytes, BatchResult.encode
      (MessageResult.ofResponses ms (host.router.direct ms s).responses) = .ok bytes := by
  obtain ⟨packed, hreceived, hunpack⟩ := Registry.exists_packed_of_decode hdecode
  obtain ⟨-, rfl⟩ := Wire.receive?_eq_some_iff_fits.1 hreceived
  have hresults := length_write_results_le hconcise hunpack s
  rw [Batch.length_write] at hshort
  rw [BatchResult.encode_eq, BatchResult.length_write, if_pos (by omega)]
  exact ⟨_, rfl⟩

/-! ### Packets -/

/-- What a packet brings is decoded from the bytes in its envelope. -/
theorem decode_of_batchOf {packet : Packet} {envelope : Envelope} {ms : List M}
    (hparsed : JsonForm.parse? packet.data = some envelope) (h : host.batchOf packet = .ok ms) :
    host.registry.decode envelope.data = .ok ms := by
  obtain ⟨found, hbrings⟩ := exists_brings_of_batchOf h
  have hsame : found = envelope := Option.some.inj (hbrings.parsed.symm.trans hparsed)
  rw [← hsame]
  exact hbrings.decoded

/-- **A committed batch is answered with its results**, if it was encoded by its sender and the host
is concise. A packet brings the batch in its envelope; whatever the state is:

* it is not answered that the results cannot be encoded, so no error comes too late;
* whatever the error is, the state is as it was;
* if the batch is admitted and its direct run gets through, it is committed in full, and the answer
  decodes to one entry for each message, with its type URL and the data of its response. -/
theorem answers_committed (host : Host M) (hconcise : host.Concise) {N : Type} [ChainMessage N]
    {sent : List N} {envelope : Envelope} (hencode : Batch.encode sent = .ok envelope.data)
    (packet : Packet) (hparsed : JsonForm.parse? packet.data = some envelope) (before : Session) :
    let received := (host.receive packet).run before
    (∀ detail, received.1 ≠ .error (.encode detail)) ∧
    (∀ cause, received.1 = .error cause → received.2.state = before.state) ∧
    ∀ ms, host.batchOf packet = .ok ms →
      host.gate packet.sourcePort packet.destinationPort packet.destinationChannel ms = .ok () →
      let direct := host.router.direct ms before.state
      direct.obstacle = none →
        host.router.Commits ms before.state received.2.state ∧
        ∃ bytes, received.1 = .ok bytes ∧
          BatchResult.decode bytes = .ok (MessageResult.ofResponses ms direct.responses) := by
  intro received
  have hfits {ms : List M} (hbatch : host.batchOf packet = .ok ms) : ∃ bytes, BatchResult.encode
      (MessageResult.ofResponses ms (host.router.direct ms before.state).responses) = .ok bytes :=
    exists_encode_of_concise hconcise (decode_of_batchOf hparsed hbatch)
      (Batch.length_le_of_encode hencode) before.state
  -- so an error is one that comes in time
  have huntouched {cause : HostError} (h : received.1 = .error cause) :
      cause.isPostCommit = false ∧ received.2.state = before.state := by
    rcases host.handle_untouched_or_commits packet before.state with
      ⟨early, hearly, hrefused⟩ | ⟨ms, hbatch, -, hanswer, -⟩
    · have hsame : early = cause :=
        Except.error.inj ((congrArg Prod.fst hrefused).symm.trans h)
      exact ⟨hsame ▸ hearly, congrArg Prod.snd hrefused⟩
    · obtain ⟨bytes, hbytes⟩ := hfits hbatch
      have hok : received.1 = .ok bytes := hanswer.trans hbytes
      rw [hok] at h
      cases h
  refine ⟨fun detail h => ?_, fun cause h => (huntouched h).2, fun ms hbatch hgate => ?_⟩
  · cases (huntouched h).1
  · intro direct hthrough
    obtain ⟨hanswer, hcommits⟩ := execute_of_through hgate hthrough
    rw [← host.handle_of_batchOf before.state hbatch] at hanswer hcommits
    obtain ⟨bytes, hbytes⟩ := hfits hbatch
    exact ⟨hcommits, bytes, hanswer.trans hbytes, BatchResult.decode_of_encode hbytes⟩

/-- The owner of `ica1` stores a greeting and sends two of three coins. Both handlers are concise,
so the batch is answered: with the key of the greeting, and with nothing. -/
theorem ofOneAccount_answers_greeting :
    let coins (n : Fin 16) : Amount := ⟨n, Nat.lt_trans n.isLt (by decide)⟩
    let host : Host := { ofOneAccount with
      registry := Registry.ofKinds [.send, .put]
      config := .withAllowMessages [wildcard]
      router := Router.empty.withBank.insert Message.Kind.put.typeUrl
        (Handler.typed .put KeyValue.put) }
    let sent : List Message :=
      [.put ⟨"ica1", "greeting", "hello"⟩, .send ⟨"ica1", "bob", [⟨"atom", coins 2⟩]⟩]
    let packet := packetOfOneAccount sent ""
    let before : Session := ⟨Bank.setBalance (.ledger .empty) "ica1" "atom" (coins 3), .empty⟩
    host.Concise ∧
      Batch.encode sent = .ok (WireForm.write (Batch.ofMessages sent)) ∧
      ∃ bytes, ((host.receive packet).run before).1 = .ok bytes ∧
        BatchResult.decode bytes = .ok [⟨Message.Kind.put.typeUrl, Bytes.ofText "greeting"⟩,
          ⟨Message.Kind.send.typeUrl, []⟩] := by
  intro coins host sent packet before
  have hconcise : host.Concise := concise_of_ofKinds rfl
    (Router.concise_empty.withBank.insert Message.Kind.put.typeUrl KeyValue.concise_put)
  have hencode : Batch.encode sent = .ok (WireForm.write (Batch.ofMessages sent)) := by
    rw [WireFormat.encode_eq, WireFormat.write_batch, if_pos (by decide +kernel)]
  have hparsed : JsonForm.parse? packet.data = some (Envelope.execute _ "") :=
    JsonForm.parse?_print _
  have hbatch : host.batchOf packet = .ok sent := by
    refine batchOf_packetOfOneAccount rfl (Registry.decode_eq_ok_iff.2 ?_)
    exact ⟨List.cons_ne_nil _ _, by decide +kernel, WireFormat.isForm_of_encode hencode⟩
  have hgate : host.gate packet.sourcePort packet.destinationPort packet.destinationChannel sent
      = .ok () := by
    decide +kernel
  have hthrough : (host.router.direct sent before.state).obstacle = none := by
    decide +kernel
  have hanswers := (answers_committed host hconcise hencode packet hparsed before).2.2
    sent hbatch hgate hthrough
  obtain ⟨-, bytes, hbytes, hdecode⟩ := hanswers
  refine ⟨hconcise, hencode, bytes, hbytes, hdecode.trans ?_⟩
  decide +kernel

end Host

end RemoteAccount
