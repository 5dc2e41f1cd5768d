import RemoteAccount.KeyValue
import RemoteAccount.Proofs.Concatenation
import RemoteAccount.Proofs.EndToEnd
import RemoteAccount.Proofs.Transfers

/-!
# Tables that fit together

A host has two tables. The registry says how a value is read under a type URL, and the router says
which handler carries out a message of a type URL. Between the two a message has no type any more: a
handler that was made for one type has to find it again, and answers
`OperationError.unexpectedMessage` if it is not there.

`MessageType M` is a type of messages of the chain: what its messages say, how this is read, how it
is made into a message and found in one. A host serves a type if the values under its type URL are
read as the type says, and its route leads to the typed handler of the same type
(`Host.Serves`). If a host serves every type URL that it has registered, what is read under a type
URL is found again by the handler at the end of the route, so neither a missing route nor a message
of an unexpected type can stop a batch.

* `Host.ServesAll.exists_handled` — what is unpacked is handed to the handler of its own type;
* `Host.exists_entry_of_stops` — an obstacle is met by one entry of the batch that came in, and all
  entries in front of it have routes;
* `Host.tables_fit` — what this means for packets;
* `Host.servesAll_of_ofKinds` — a host that knows some of the kinds of `Message` serves all of them
  if each has its typed handler, as that of the bank for transfers (`Bank.foresees_send`) and that
  of keys and values for puts (`KeyValue.foresees_put`).
-/

namespace RemoteAccount

/-! ### Types of messages -/

/-- **A type of messages** of a chain. -/
structure MessageType (M : Type) [ChainMessage M] where
  /-- What a message of this type says. -/
  Body : Type
  typeUrl : String
  /-- How it is read from the bytes of a value. -/
  read? : Bytes → Option Body
  /-- The message that says this. -/
  make : Body → M
  /-- What a message says, if it is of this type. -/
  open? : M → Option Body
  typeUrl_make (body : Body) : ChainMessage.typeUrl (make body) = typeUrl
  open?_eq_some_iff {m : M} {body : Body} : open? m = some body ↔ m = make body

/-! ### Programs that foresee what they are given -/

namespace StoreM

variable {α β : Type}

/-- A program that does not say of any message that it is of an unexpected type. -/
def Foresees (program : StoreM α) : Prop :=
  ∀ s typeUrl s', program.run.run s ≠ (.error (.unexpectedMessage typeUrl), s')

theorem Foresees.bind {x : StoreM α} {f : α → StoreM β} (hx : x.Foresees)
    (hf : ∀ a, (f a).Foresees) : (x >>= f).Foresees := by
  intro s typeUrl s' h
  rw [run_bind] at h
  rcases hrun : x.run.run s with ⟨cause | a, t⟩ <;> rw [hrun] at h
  · cases h
    exact hx s typeUrl _ hrun
  · exact hf a t typeUrl s' h

theorem foresees_pure (a : α) : (pure a : StoreM α).Foresees := by
  rintro s typeUrl s' ⟨⟩

theorem foresees_throw {cause : OperationError}
    (h : ∀ typeUrl, cause ≠ .unexpectedMessage typeUrl) :
    (throw cause : StoreM α).Foresees := by
  rintro s typeUrl s' ⟨⟩
  exact h typeUrl rfl

/-- Nothing is done behind a failure. -/
theorem foresees_throw_bind {cause : OperationError}
    (h : ∀ typeUrl, cause ≠ .unexpectedMessage typeUrl) (f : α → StoreM β) :
    ((throw cause : StoreM α) >>= f).Foresees := by
  intro s typeUrl s' hrun
  rw [run_bind, run_throw] at hrun
  exact foresees_throw h s typeUrl s' hrun

theorem foresees_get (key : Bytes) : (get key).Foresees := by
  rintro s typeUrl s' ⟨⟩

theorem foresees_write (key : Bytes) (value : Option Bytes) : (write key value).Foresees := by
  rintro s typeUrl s' ⟨⟩

end StoreM

section Serving

variable {M : Type} [ChainMessage M]

namespace MessageType

/-- The way to read a value as a message of this type. -/
def decode? (T : MessageType M) (bs : Bytes) : Option M :=
  (T.read? bs).map T.make

/-- The handler that treats messages of this type this way and refuses all others. -/
def handler (T : MessageType M) (handle : T.Body → StoreM Response) : Handler M :=
  .only T.open? handle

/-- The handler of a type treats what is read as a message of the type. -/
theorem exists_handler_eq_of_decode? {T : MessageType M} {bs : Bytes} {m : M}
    (h : T.decode? bs = some m) (handle : T.Body → StoreM Response) :
    ∃ body, T.handler handle m = handle body := by
  obtain ⟨body, -, rfl⟩ := Option.map_eq_some_iff.1 h
  refine ⟨body, ?_⟩
  rw [handler, Handler.only, T.open?_eq_some_iff.2 rfl]

end MessageType

namespace Host

variable (host : Host M)

/-- **A host serves a type** if it reads the values under the type URL as those of the type, and
routes the type URL to a handler that was made for the type and foresees what it is given. -/
structure Serves (T : MessageType M) : Prop where
  registered : host.registry.find? T.typeUrl = some T.decode?
  routed : ∃ handle : T.Body → StoreM Response,
    (∀ body, (handle body).Foresees) ∧ host.router.find? T.typeUrl = some (T.handler handle)

/-- Behind each type URL that is registered there is a type that the host serves. -/
def ServesAll : Prop :=
  ∀ typeUrl, host.registry.contains typeUrl = true →
    ∃ T : MessageType M, T.typeUrl = typeUrl ∧ host.Serves T

variable {host}

/-- What is unpacked has the type URL that it was packed under, and this one is registered. -/
theorem typeUrl_of_unpack? {packed : PackedMessage} {m : M}
    (h : host.registry.unpack? packed = some m) :
    ChainMessage.typeUrl m = packed.typeUrl ∧
      host.registry.contains packed.typeUrl = true := by
  obtain ⟨decoder, hfind, hm⟩ := Option.bind_eq_some_iff.1 h
  refine ⟨host.registry.typeUrl_eq hfind hm, ?_⟩
  rw [Registry.contains, hfind]
  rfl

/-- **From one table to the other.** What is unpacked has a route, and the handler at its end is one
that foresees the message. -/
theorem ServesAll.exists_handled (hserves : host.ServesAll) {packed : PackedMessage} {m : M}
    (h : host.registry.unpack? packed = some m) :
    ∃ handler, host.router.find? (ChainMessage.typeUrl m) = some handler ∧
      (handler m).Foresees := by
  obtain ⟨hurl, hcontains⟩ := typeUrl_of_unpack? h
  obtain ⟨T, hT, hregistered, handle, hforesees, hrouted⟩ := hserves _ hcontains
  -- the type that has read the value is that of the handler
  obtain ⟨decoder, hfind, hm⟩ := Option.bind_eq_some_iff.1 h
  rw [← hT, hregistered] at hfind
  cases hfind
  obtain ⟨body, hbody⟩ := T.exists_handler_eq_of_decode? hm handle
  refine ⟨T.handler handle, by rw [hurl, ← hT, hrouted], ?_⟩
  rw [hbody]
  exact hforesees body

/-! ### Entries of a batch -/

/-- **The entry at which a packet stops.** The envelope of the packet holds a batch; the entries in
front of one of them have routes, and this one, at the place that the answer cites, is unpacked to
the message that meets the obstacle. -/
theorem exists_entry_of_stops {packet : Packet} {s : State} {obstacle : Obstacle} {index : Nat}
    (h : (host.handle packet s).1 = .error (obstacle.toHostError index)) :
    ∃ (envelope : Envelope) (front : List PackedMessage) (entry : PackedMessage)
      (back : List PackedMessage), JsonForm.parse? packet.data = some envelope ∧
      Wire.receive? envelope.data = some (Batch.mk (front ++ entry :: back)) ∧
      front.length = index ∧ (∀ p ∈ front, host.router.contains p.typeUrl = true) ∧
      ∃ m t t', host.registry.unpack? entry = some m ∧
        host.router.applyOne m t = (.error obstacle, t') := by
  cases hbatch : host.batchOf packet with
  | error cause =>
    -- a packet that brings no batch is turned away, and an obstacle is no reason for that
    rw [host.handle_of_batchOf_error s hbatch] at h
    have hrefusal := isRefusal_of_turnsAway (turnsAway_of_batchOf hbatch)
    rw [Except.error.inj h] at hrefusal
    cases obstacle <;> cases hrefusal
  | ok ms =>
    rw [host.handle_of_batchOf s hbatch] at h
    -- the execution stops where the direct run of the batch does
    obtain ⟨-, hobstacle, hindex⟩ := execute_stops_iff.1 h
    obtain ⟨front, m, back, t, t', rfl, hlength, hrouted, hstop⟩ :=
      Router.exists_stop_of_obstacle hobstacle
    obtain ⟨envelope, hbrings⟩ := exists_brings_of_batchOf hbatch
    obtain ⟨packed, hreceived, hunpack⟩ := Registry.exists_packed_of_decode hbrings.decoded
    -- the batch is cut where the messages are
    rw [List.map_append, List.map_cons] at hunpack
    obtain ⟨packedFront, packedBack, rfl, hfront, hback⟩ := List.map_eq_append_iff.1 hunpack
    obtain ⟨entry, rest, rfl, hentry, -⟩ := List.map_eq_cons_iff.1 hback
    refine ⟨envelope, packedFront, entry, rest, hbrings.parsed, hreceived, ?_, fun p hp => ?_,
      m, t, t', hentry, hstop⟩
    · have hsame := congrArg List.length hfront
      rw [List.length_map, List.length_map] at hsame
      omega
    · -- an entry has a route because its message has one
      have hmem : host.registry.unpack? p ∈ front.map some := hfront ▸ List.mem_map_of_mem hp
      obtain ⟨m', hm', hunpacked⟩ := List.mem_map.1 hmem
      rw [← (typeUrl_of_unpack? hunpacked.symm).1]
      exact hrouted m' hm'

/-- A batch that a packet brings stops where its direct run does. -/
theorem receive_of_obstacle {packet : Packet} {ms : List M} {before : Session} {obstacle : Obstacle}
    (hbatch : host.batchOf packet = .ok ms)
    (hgate : host.gate packet.sourcePort packet.destinationPort packet.destinationChannel ms
      = .ok ())
    (hobstacle : (host.router.direct ms before.state).obstacle = some obstacle) :
    ((host.receive packet).run before).1
      = .error (obstacle.toHostError (host.router.direct ms before.state).responses.length) :=
  (host.receive_of_batchOf before hbatch).1.trans (execute_stops_iff.2 ⟨hgate, hobstacle, rfl⟩)

/-! ### Packets -/

/-- **Registry and router fit together.** Whatever packet a host receives, and whatever its state
is:

* if behind each type URL that it has registered there is a type that it serves, it answers neither
  that a message has no route nor that one has failed because it is of an unexpected type;
* on any host, a message that has no route is an entry of the batch that the packet brought. The
  answer cites its place and the type URL that it carries, which is registered and has no route, and
  every entry in front of it has one. -/
theorem tables_fit (host : Host M) (packet : Packet) (before : Session) :
    let outcome := ((host.receive packet).run before).1
    (host.ServesAll → ∀ index typeUrl,
      outcome ≠ .error (.noRoute index typeUrl) ∧
        outcome ≠ .error (.operationFailed index (.unexpectedMessage typeUrl))) ∧
    ∀ index typeUrl, outcome = .error (.noRoute index typeUrl) →
      host.registry.contains typeUrl = true ∧ host.router.contains typeUrl = false ∧
        ∃ (envelope : Envelope) (front : List PackedMessage) (entry : PackedMessage)
          (back : List PackedMessage), JsonForm.parse? packet.data = some envelope ∧
          Wire.receive? envelope.data = some (Batch.mk (front ++ entry :: back)) ∧
          front.length = index ∧ entry.typeUrl = typeUrl ∧
          ∀ p ∈ front, host.router.contains p.typeUrl = true := by
  intro outcome
  refine ⟨fun hserves index typeUrl => ⟨fun hanswer => ?_, fun hanswer => ?_⟩,
    fun index typeUrl hanswer => ?_⟩
  · -- the entry has a route, since it was unpacked
    have hstops : (host.handle packet before.state).1
      = .error ((Obstacle.noRoute typeUrl).toHostError index) := hanswer
    obtain ⟨_, _, _, _, -, -, -, -, m, t, t', hunpack, hstop⟩ := exists_entry_of_stops hstops
    obtain ⟨handler, hfind, -⟩ := hserves.exists_handled hunpack
    obtain ⟨rfl, hnone⟩ := Router.find?_of_applyOne_noRoute hstop
    cases hfind.symm.trans hnone
  · -- and the handler foresees it
    have hstops : (host.handle packet before.state).1
      = .error ((Obstacle.failed (.unexpectedMessage typeUrl)).toHostError index) := hanswer
    obtain ⟨_, _, _, _, -, -, -, -, m, t, t', hunpack, hstop⟩ := exists_entry_of_stops hstops
    obtain ⟨handler, hfind, hforesees⟩ := hserves.exists_handled hunpack
    obtain ⟨other, hother, hrun⟩ := Router.exists_handler_of_applyOne_failed hstop
    cases hfind.symm.trans hother
    exact hforesees t typeUrl t' hrun
  · have hstops : (host.handle packet before.state).1
      = .error ((Obstacle.noRoute typeUrl).toHostError index) := hanswer
    obtain ⟨envelope, front, entry, back, hparsed, hreceived, hlength, hrouted, m, t, t', hunpack,
      hstop⟩ := exists_entry_of_stops hstops
    obtain ⟨hurl, hcontains⟩ := typeUrl_of_unpack? hunpack
    obtain ⟨rfl, hnone⟩ := Router.find?_of_applyOne_noRoute hstop
    refine ⟨hurl ▸ hcontains, ?_, envelope, front, entry, back, hparsed, hreceived, hlength,
      hurl.symm, hrouted⟩
    rw [Router.contains_eq_isSome, hnone]
    rfl

end Host

end Serving

/-! ### Kinds of messages -/

namespace Bank

theorem foresees_read (address denom : String) : (read address denom).Foresees := by
  refine (StoreM.foresees_get _).bind fun value => ?_
  split
  · exact StoreM.foresees_pure _
  · exact StoreM.foresees_throw (by simp)

theorem foresees_sendCoin (sender recipient : String) (coin : Coin) :
    (sendCoin sender recipient coin).Foresees := by
  refine (foresees_read _ _).bind fun available => ?_
  split
  · exact StoreM.foresees_throw_bind (by simp) _
  · refine (StoreM.foresees_write _ _).bind fun _ => (foresees_read _ _).bind fun present => ?_
    split
    · exact StoreM.foresees_throw (by simp)
    · exact StoreM.foresees_write _ _

theorem foresees_send (t : Transfer) : (send t).Foresees := by
  refine StoreM.Foresees.bind ?_ fun _ => StoreM.foresees_pure _
  -- the loop over the coins
  induction t.coins with
  | nil => exact StoreM.foresees_pure _
  | cons coin coins ih => exact (foresees_sendCoin _ _ coin).bind fun _ => ih

end Bank

theorem KeyValue.foresees_put (p : Put) : (put p).Foresees :=
  (StoreM.foresees_write _ _).bind fun _ => StoreM.foresees_pure _

/-- A kind of `Message` is a type of messages. -/
def Message.Kind.type (k : Kind) : MessageType Message where
  Body := k.Body
  typeUrl := k.typeUrl
  read? := Wire.receive?
  make := ofBody k
  open? := body? k
  typeUrl_make body := congrArg typeUrl (kind_ofBody k body)
  open?_eq_some_iff := body?_eq_some_iff

namespace Host

/-- A host that knows some of the kinds of messages serves all of them if each has its typed
handler. -/
theorem servesAll_of_ofKinds {host : Host} {kinds : List Message.Kind}
    (hregistry : host.registry = Registry.ofKinds kinds)
    (hrouter : ∀ k ∈ kinds, ∃ handle : k.Body → StoreM Response,
      (∀ body, (handle body).Foresees) ∧
        host.router.find? k.typeUrl = some (Handler.typed k handle)) :
    host.ServesAll := by
  intro typeUrl hcontains
  obtain ⟨decoder, hfind⟩ := Option.isSome_iff_exists.1 hcontains
  rw [hregistry, Registry.find?_ofKinds] at hfind
  obtain ⟨k, hk, rfl⟩ := Option.map_eq_some_iff.1 hfind
  have hurl : k.typeUrl = typeUrl := by simpa using List.find?_some hk
  -- the look-up that has found the kind is the one under its own type URL
  refine ⟨k.type, hurl, ?_, hrouter k (List.mem_of_find?_eq_some hk)⟩
  rw [hregistry, Registry.find?_ofKinds]
  change (kinds.find? (·.typeUrl = k.typeUrl)).map Message.ofValue? = some (Message.ofValue? k)
  rw [hurl, hk, Option.map_some]

/-- The owner of `ica1` sends two of three coins and stores a greeting. A host that has registered
both kinds serves them if both are routed, and then neither error comes up. Without the route of
puts the answer cites the second entry of the batch. -/
theorem ofOneAccount_tables_fit :
    let coins (n : Fin 16) : Amount := ⟨n, Nat.lt_trans n.isLt (by decide)⟩
    let host (router : Router) : Host := { ofOneAccount with
      registry := Registry.ofKinds [.send, .put]
      config := .withAllowMessages [wildcard]
      router := router }
    let half := host Router.empty.withBank
    let full := host (Router.empty.withBank.insert Message.Kind.put.typeUrl
      (Handler.typed .put KeyValue.put))
    let sent : List Message :=
      [.send ⟨"ica1", "bob", [⟨"atom", coins 2⟩]⟩, .put ⟨"ica1", "greeting", "hello"⟩]
    let packet := packetOfOneAccount sent ""
    let before : Session := ⟨Bank.setBalance (.ledger .empty) "ica1" "atom" (coins 3), .empty⟩
    full.ServesAll ∧
      (∀ index typeUrl,
        ((full.receive packet).run before).1 ≠ .error (.noRoute index typeUrl) ∧
          ((full.receive packet).run before).1
            ≠ .error (.operationFailed index (.unexpectedMessage typeUrl))) ∧
      ((half.receive packet).run before).1 = .error (.noRoute 1 "/kv.v1.MsgPut") ∧
      half.registry.contains "/kv.v1.MsgPut" = true := by
  intro coins host half full sent packet before
  have hserves : full.ServesAll := by
    refine servesAll_of_ofKinds rfl (List.forall_mem_cons.2 ⟨?_, List.forall_mem_singleton.2 ?_⟩)
    · refine ⟨Bank.send, Bank.foresees_send, ?_⟩
      rw [Router.find?_insert, if_neg (by decide), Router.withBank, Router.find?_insert, if_pos rfl]
      rfl
    · exact ⟨KeyValue.put, KeyValue.foresees_put, by rw [Router.find?_insert, if_pos rfl]⟩
  have hbatch : half.batchOf packet = .ok sent := by
    refine batchOf_packetOfOneAccount rfl (Registry.decode_eq_ok_iff.2 ?_)
    exact ⟨List.cons_ne_nil _ _, by decide +kernel,
      WireFormat.isForm_of_length_lt (by decide +kernel)⟩
  have hgate : half.gate packet.sourcePort packet.destinationPort packet.destinationChannel sent
      = .ok () := by
    decide +kernel
  have hobstacle : (half.router.direct sent before.state).obstacle
      = some (.noRoute "/kv.v1.MsgPut") := by
    decide +kernel
  have hplace : (half.router.direct sent before.state).responses.length = 1 := by
    decide +kernel
  -- the first message of the batch has given its response, the second has no route
  have hanswer := receive_of_obstacle hbatch hgate hobstacle
  rw [hplace] at hanswer
  have hroute : ((half.receive packet).run before).1 = .error (.noRoute 1 "/kv.v1.MsgPut") :=
    hanswer
  exact ⟨hserves, (tables_fit full packet before).1 hserves, hroute,
    ((tables_fit half packet before).2 1 "/kv.v1.MsgPut" hroute).1⟩

end Host

end RemoteAccount
