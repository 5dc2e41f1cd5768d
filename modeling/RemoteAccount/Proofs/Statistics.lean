import RemoteAccount.Proofs.EndToEnd
import RemoteAccount.Proofs.Runs

/-!
# The statistics account for every packet

A host counts a packet when it has been handled, whichever of its many ways out the handling has
taken, and it counts nothing else: batches that are carried out without a packet, and the
authentication and the dispatch of messages by themselves, leave the statistics alone. A packet that
is acknowledged is counted once.

A run is a list of calls (`Call`), each with the state it works on. The states need not follow from
one another. `Host.outcomes` are the outcomes of the packets among the calls, and
`Stats.AccountsFor` says that the counters are the numbers of outcomes of each sort.

* `Stats.AccountsFor.record` — counting one more outcome keeps this;
* `Host.accountsFor_callAll` — so a run of calls keeps it;
* `Host.stats_callAll` — what the counters are after a run, and how they add up.
-/

namespace RemoteAccount

/-! ### Outcomes and counters -/

/-- Is the packet answered that a message of it is not authorized? -/
def isUnauthorized : Except HostError Bytes → Bool
  | .error (.unauthorized _ _) => true
  | _ => false

/-- Is the packet answered that it cannot be decoded? -/
def isUndecodable : Except HostError Bytes → Bool
  | .error .decode => true
  | _ => false

namespace Stats

/-- **The statistics of these outcomes**, in whatever order they have come. -/
structure AccountsFor (stats : Stats) (outcomes : List (Except HostError Bytes)) : Prop where
  received : stats.received = outcomes.length
  executed : stats.executed = outcomes.countP (·.isOk)
  failed : stats.failed = outcomes.countP (!·.isOk)
  unauthorized : stats.unauthorized = outcomes.countP isUnauthorized
  undecodable : stats.undecodable = outcomes.countP isUndecodable

theorem accountsFor_empty : empty.AccountsFor [] :=
  ⟨rfl, rfl, rfl, rfl, rfl⟩

variable {stats : Stats} {outcomes : List (Except HostError Bytes)}

/-- Counting one more outcome. -/
theorem AccountsFor.record (h : stats.AccountsFor outcomes) (outcome : Except HostError Bytes) :
    (stats.record outcome).AccountsFor (outcomes ++ [outcome]) := by
  obtain ⟨hreceived, hexecuted, hfailed, hunauthorized, hundecodable⟩ := h
  rcases outcome with cause | data
  · cases cause
    all_goals
      constructor <;>
        simp [Stats.record, isUnauthorized, isUndecodable, Except.isOk, Except.toBool, *]
  · constructor <;>
      simp [Stats.record, isUnauthorized, isUndecodable, Except.isOk, Except.toBool, *]

/-- An outcome that is refused in one of the two ways is a failure, and no outcome is refused in
both. -/
theorem countP_refusals_le (outcomes : List (Except HostError Bytes)) :
    outcomes.countP isUnauthorized + outcomes.countP isUndecodable
      ≤ outcomes.countP (!·.isOk) := by
  induction outcomes with
  | nil => exact Nat.le_refl 0
  | cons outcome outcomes ih =>
    have hone : (if isUnauthorized outcome then 1 else 0) + (if isUndecodable outcome then 1 else 0)
        ≤ if !outcome.isOk then 1 else 0 := by
      rcases outcome with cause | data
      · cases cause <;> simp [isUnauthorized, isUndecodable, Except.isOk, Except.toBool]
      · exact Nat.le_refl 0
    rw [List.countP_cons, List.countP_cons, List.countP_cons]
    omega

/-- **How the counters add up.** Every packet is executed or failed, and none is both unauthorized
and undecodable. -/
theorem AccountsFor.adds_up (h : stats.AccountsFor outcomes) :
    stats.received = stats.executed + stats.failed ∧
      stats.unauthorized + stats.undecodable ≤ stats.failed := by
  rw [h.received, h.executed, h.failed, h.unauthorized, h.undecodable]
  refine ⟨?_, countP_refusals_le outcomes⟩
  rw [List.length_eq_countP_add_countP (·.isOk)]
  simp only [Bool.not_eq_true, Bool.decide_eq_false]

end Stats

/-! ### Runs of calls -/

/-- Something that is asked of a host, or of the parts that it is made of. -/
inductive Call (M : Type)
  /-- A packet is delivered. -/
  | deliver (delivery : Delivery)
  /-- Messages are carried out without a packet. -/
  | execute (sourcePort destinationPort : PortId) (destinationChannel : ChannelId) (ms : List M)
  /-- Messages are authenticated for a controller. -/
  | authenticate (connection : ConnectionId) (controller : PortId) (ms : List M)
  /-- A message is dispatched. -/
  | dispatch (index : Nat) (m : M)

/-- The packet that a call delivers, if it delivers one. -/
def Call.packet? {M : Type} : Call M → Option Packet
  | .deliver (.plain packet) | .deliver (.acknowledged packet) => some packet
  | .execute _ _ _ _ | .authenticate _ _ _ | .dispatch _ _ => none

namespace Host

variable {M : Type} [ChainMessage M] (host : Host M)

/-- The session after one call. What has no part in the session cannot change it: authentication
does not touch the state, and what carries out messages touches the state alone. -/
def call : Call M → Session → Session
  | .deliver delivery, before => host.deliver delivery before
  | .execute sourcePort destinationPort destinationChannel ms, before =>
    { before with
      state := (host.execute sourcePort destinationPort destinationChannel ms before.state).2 }
  | .authenticate connection controller ms, before =>
    let checked : Execution Unit :=
      .ofResult (authenticate host.accounts host.config connection controller ms)
    { before with state := (checked before.state).2 }
  | .dispatch index m, before =>
    { before with state := (host.router.dispatch index m before.state).2 }

/-- The statistics after calls, each on a state of its own. -/
def callAll (calls : List (Call M × State)) (before : Stats) : Stats :=
  calls.foldl (fun stats (call, state) => (host.call call ⟨state, stats⟩).stats) before

/-- How the packets of a run come out, in the order in which they are delivered. -/
def outcomes (calls : List (Call M × State)) : List (Except HostError Bytes) :=
  calls.filterMap fun (call, s) => call.packet?.map fun packet => (host.handle packet s).1

theorem outcomes_cons (first : Call M × State) (calls : List (Call M × State)) :
    host.outcomes (first :: calls) = host.outcomes [first] ++ host.outcomes calls := by
  rw [outcomes, ← List.singleton_append, List.filterMap_append]
  rfl

theorem outcomes_of_packet?_eq_none {call : Call M} (h : call.packet? = none) (s : State) :
    host.outcomes [(call, s)] = [] := by
  have hnone : call.packet?.map (fun packet => (host.handle packet s).1) = none := by
    rw [h, Option.map_none]
  exact List.filterMap_cons_none hnone

/-- **One call** counts the packet that it delivers, however it is delivered, and nothing else. -/
theorem accountsFor_call {stats : Stats} {before : List (Except HostError Bytes)}
    (h : stats.AccountsFor before) (call : Call M) (s : State) :
    (host.call call ⟨s, stats⟩).stats.AccountsFor (before ++ host.outcomes [(call, s)]) := by
  cases call with
  | deliver delivery =>
    -- the event of an acknowledgement is emitted when the packet has been counted
    cases delivery with
    | plain packet => exact h.record (host.handle packet s).1
    | acknowledged packet => exact h.record (host.handle packet s).1
  | execute sourcePort destinationPort destinationChannel ms =>
    rw [host.outcomes_of_packet?_eq_none rfl s, List.append_nil]
    exact h
  | authenticate connection controller ms =>
    rw [host.outcomes_of_packet?_eq_none rfl s, List.append_nil]
    exact h
  | dispatch index m =>
    rw [host.outcomes_of_packet?_eq_none rfl s, List.append_nil]
    exact h

/-- **A run** counts the packets that are delivered in it. -/
theorem accountsFor_callAll {stats : Stats} {before : List (Except HostError Bytes)}
    (h : stats.AccountsFor before) (calls : List (Call M × State)) :
    (host.callAll calls stats).AccountsFor (before ++ host.outcomes calls) := by
  induction calls generalizing stats before with
  | nil =>
    rw [show host.outcomes [] = [] from rfl, List.append_nil]
    exact h
  | cons first calls ih =>
    obtain ⟨call, s⟩ := first
    rw [outcomes_cons, ← List.append_assoc]
    exact ih (host.accountsFor_call h call s)

/-- There is one outcome for each packet that is delivered. -/
theorem length_outcomes (calls : List (Call M × State)) :
    (host.outcomes calls).length = calls.countP fun call => call.1.packet?.isSome := by
  rw [outcomes, List.length_filterMap_eq_countP]
  simp only [Option.isSome_map]

/-- **The statistics account for every packet.** A host starts to count, and then it is called any
number of times, each time on any state.

* It has received as many packets as were delivered, acknowledged or not. As many are executed, or
  failed, or not authorized, or not decodable, as have come out so.
* At every point of a run, which is the end of a shorter run, what was received was executed or has
  failed, and no failure counts as both not authorized and not decodable.
* While fewer than `2 ^ 64` packets were delivered, every counter can be written with eight
  bytes. -/
theorem stats_callAll (calls : List (Call M × State)) :
    let stats := host.callAll calls .empty
    let outcomes := host.outcomes calls
    let deliveries := calls.countP fun call => call.1.packet?.isSome
    stats.received = deliveries ∧
      stats.executed = outcomes.countP (·.isOk) ∧
      stats.failed = outcomes.countP (!·.isOk) ∧
      stats.unauthorized = outcomes.countP isUnauthorized ∧
      stats.undecodable = outcomes.countP isUndecodable ∧
      stats.received = stats.executed + stats.failed ∧
      stats.unauthorized + stats.undecodable ≤ stats.failed ∧
      (deliveries < 2 ^ 64 →
        ∀ counter ∈ [stats.received, stats.executed, stats.failed, stats.unauthorized,
          stats.undecodable], counter < 2 ^ 64) := by
  intro stats outcomes deliveries
  have hstats : stats.AccountsFor outcomes := host.accountsFor_callAll Stats.accountsFor_empty calls
  have hreceived : stats.received = deliveries := hstats.received.trans (host.length_outcomes calls)
  obtain ⟨hsum, hrefusals⟩ := hstats.adds_up
  refine ⟨hreceived, hstats.executed, hstats.failed, hstats.unauthorized, hstats.undecodable,
    hsum, hrefusals, fun hfew counter hcounter => ?_⟩
  -- no counter is larger than the number of packets
  simp only [List.mem_cons, List.not_mem_nil, or_false] at hcounter
  omega

/-- Four packets are delivered: one is carried out and acknowledged, one cannot be read, one speaks
for somebody else, and one, on a state of its own, asks for more than there is. In between a batch
is carried out without a packet. -/
theorem ofOneAccount_counts :
    let coins (n : Fin 16) : Amount := ⟨n, Nat.lt_trans n.isLt (by decide)⟩
    let transfer := Message.send ⟨"ica1", "bob", [⟨"atom", coins 2⟩]⟩
    let theft := Message.send ⟨"alice", "ica1", [⟨"atom", coins 2⟩]⟩
    let funded := Bank.setBalance (.ledger .empty) "ica1" "atom" (coins 3)
    let packet := packetOfOneAccount [transfer] ""
    let calls : List (Call Message × State) :=
      [(.deliver (.acknowledged packet), funded),
        (.deliver (.plain { packet with data := [] }), funded),
        (.execute ⟨"icacontroller"⟩ ⟨"icahost"⟩ ⟨"channel-0"⟩ [transfer], funded),
        (.deliver (.plain (packetOfOneAccount [theft] "")), funded),
        (.deliver (.plain packet), .ledger .empty)]
    ofOneAccount.callAll calls .empty =
      { received := 4, executed := 1, failed := 3, unauthorized := 1, undecodable := 1 } := by
  intro coins transfer theft funded packet calls
  -- the envelopes are opened by the law of printing, so only the batches have to be decoded
  have hhandle (ms : List Message) (s : State)
      (h : ofOneAccount.registry.decode (WireForm.write (Batch.ofMessages ms)) = .ok ms) :
      ofOneAccount.handle (packetOfOneAccount ms "") s =
        ofOneAccount.execute ⟨"icacontroller"⟩ ⟨"icahost"⟩ ⟨"channel-0"⟩ ms s :=
    ofOneAccount.handle_of_batchOf s (batchOf_packetOfOneAccount rfl h)
  have hdone : (ofOneAccount.handle packet funded).1
      = .ok (WireForm.write (BatchResult.mk [⟨Message.Kind.send.typeUrl, []⟩])) := by
    rw [hhandle [transfer] funded (by decide +kernel)]
    decide +kernel
  have hunreadable : (ofOneAccount.handle { packet with data := [] } funded).1
      = .error .decode := by
    decide +kernel
  have htheft : (ofOneAccount.handle (packetOfOneAccount [theft] "") funded).1
      = .error (.unauthorized 0 (.signerMismatch "ica1" "alice")) := by
    rw [hhandle [theft] funded (by decide +kernel)]
    decide +kernel
  have hoverdrawn : (ofOneAccount.handle packet (.ledger .empty)).1
      = .error (.operationFailed 0 (.insufficientFunds "atom" (coins 2) .zero)) := by
    rw [hhandle [transfer] (.ledger .empty) (by decide +kernel)]
    decide +kernel
  have houtcomes : ofOneAccount.outcomes calls =
      [.ok (WireForm.write (BatchResult.mk [⟨Message.Kind.send.typeUrl, []⟩])), .error .decode,
        .error (.unauthorized 0 (.signerMismatch "ica1" "alice")),
        .error (.operationFailed 0 (.insufficientFunds "atom" (coins 2) .zero))] := by
    rw [← hdone, ← hunreadable, ← htheft, ← hoverdrawn]
    rfl
  obtain ⟨hreceived, hexecuted, hfailed, hunauthorized, hundecodable, -⟩ :=
    stats_callAll ofOneAccount calls
  rw [houtcomes] at hexecuted hfailed hunauthorized hundecodable
  -- the fields are compared one by one
  rcases hstats : ofOneAccount.callAll calls .empty with ⟨received, executed, failed, _, _⟩
  rw [hstats] at hreceived hexecuted hfailed hunauthorized hundecodable
  rw [Stats.mk.injEq]
  exact ⟨hreceived, hexecuted, hfailed, hunauthorized, hundecodable⟩

end Host

end RemoteAccount
