import RemoteAccount.Handler.Script
import RemoteAccount.Proofs.Precedence
import RemoteAccount.Proofs.ResultFormat

/-!
# Atomicity

The messages of a packet are carried out all together or not at all. The one thing that can go wrong
when it is too late to undo anything is that the results are too long to be encoded, and
`HostError.encode` says so (`HostError.isPostCommit`). Any other error means that nothing has
happened: the state is the same value as before, so its store, its events and its journal are the
same, and the same is true of every layer below. An equal journal says that no change has been made
at all, not even one without effect or one that was taken back.

The handlers are arbitrary programs. They may write and delete keys, hand out events with their
responses, and then fail.
-/

namespace RemoteAccount

variable {M : Type} [ChainMessage M]

/-- What an error says of the state, when everything before the commit leaves the state alone and
everything after it is the encoding of the results. -/
theorem BatchResult.untouched_or_of_error {answer : Except HostError Bytes} {before after : State}
    {Done : Prop} {cause : HostError} (herror : answer = .error cause)
    (h : (∃ early, early.isPostCommit = false ∧ (answer, after) = (.error early, before)) ∨
      (∃ results, answer = BatchResult.encode results) ∧ Done) :
    (cause.isPostCommit = false → after = before) ∧
      ((∃ detail, cause = .encode detail) → Done) := by
  rcases h with ⟨early, hearly, huntouched⟩ | ⟨⟨results, hencode⟩, hdone⟩
  · -- the error came in time, so it is not that of an answer which cannot be encoded
    obtain ⟨rfl, rfl⟩ := Prod.mk.inj huntouched
    cases herror
    refine ⟨fun _ => rfl, ?_⟩
    rintro ⟨detail, rfl⟩
    cases hearly
  · have hlate := BatchResult.isPostCommit_of_encode (hencode.symm.trans herror)
    refine ⟨fun hcause => ?_, fun _ => hdone⟩
    rw [hlate] at hcause
    cases hcause

/-- **All or nothing.** When receiving a packet, or carrying out a batch, is answered with an error
that is raised before the commit, the state is untouched. When the answer is that the result cannot
be encoded, the batch has been committed in full. The state may be a ledger or a branch at any
depth. -/
theorem Host.all_or_nothing (host : Host M) :
    (∀ (packet : Packet) (before after : Session) (cause : HostError),
      (host.receive packet).run before = (.error cause, after) →
        (cause.isPostCommit = false → after.state = before.state) ∧
        ((∃ detail, cause = .encode detail) →
          ∃ ms, host.batchOf packet = .ok ms ∧
            host.router.Commits ms before.state after.state)) ∧
    (∀ (sourcePort destinationPort : PortId) (destinationChannel : ChannelId) (ms : List M)
        (before after : State) (cause : HostError),
      host.execute sourcePort destinationPort destinationChannel ms before
          = (.error cause, after) →
        (cause.isPostCommit = false → after = before) ∧
        ((∃ detail, cause = .encode detail) → host.router.Commits ms before after)) := by
  constructor
  · intro packet before after cause hreceive
    -- counting a packet does not touch the state
    have hhandle : host.handle packet before.state = (.error cause, after.state) :=
      congrArg (fun r : Except HostError Bytes × Session => (r.1, r.2.state)) hreceive
    refine BatchResult.untouched_or_of_error (congrArg Prod.fst hhandle) ?_
    have h := host.handle_untouched_or_commits packet before.state
    rw [hhandle] at h ⊢
    exact h.imp_right fun ⟨ms, hbatch, _, hanswer, hcommits⟩ => ⟨⟨_, hanswer⟩, ms, hbatch, hcommits⟩
  · intro sourcePort destinationPort destinationChannel ms before after cause hexecute
    refine BatchResult.untouched_or_of_error (congrArg Prod.fst hexecute) ?_
    have h := host.execute_untouched_or_commits sourcePort destinationPort destinationChannel ms
      before
    rw [hexecute] at h ⊢
    exact h.imp_right fun ⟨_, hanswer, hcommits⟩ => ⟨⟨_, hanswer⟩, hcommits⟩

/-- A transfer is carried out by a handler that writes a mark, hands out an event, and answers with
as many bytes as there may be in an answer. The answer cannot be encoded, but the batch has been
committed: the mark is in the store, and the event follows the one that there was. -/
theorem Host.ofOneAccount_commits_oversized :
    let coins (n : Fin 16) : Amount := ⟨n, Nat.lt_trans n.isLt (by decide)⟩
    let transfer := Message.send ⟨"ica1", "bob", [⟨"atom", coins 2⟩]⟩
    let mark := Bytes.ofText "k"
    let script : Script :=
      [.set mark [1], .data (List.replicate Wire.maxBytes 0), .event ⟨"oversized", []⟩]
    let host : Host := { ofOneAccount with
      router := Router.empty.insert Message.Kind.send.typeUrl script.handler }
    let before : Session := ⟨(State.ledger .empty).emit [⟨"pre-existing", []⟩], .empty⟩
    let received := (host.receive (packetOfOneAccount [transfer] "")).run before
    received.1 = .error (.encode Wire.tooLong) ∧
      host.router.Commits [transfer] before.state received.2.state ∧
      received.2.state.get mark = some [1] ∧
      received.2.state.events.toList = [⟨"pre-existing", []⟩, ⟨"oversized", []⟩] := by
  intro coins transfer mark script host before received
  -- neither the batch nor the gate knows of the script
  have hbatch : host.batchOf (packetOfOneAccount [transfer] "") = .ok [transfer] :=
    batchOf_packetOfOneAccount rfl
      (by decide +kernel : ofOneAccount.registry.decode _ = .ok [transfer])
  have hadmitted :
      ofOneAccount.gate ⟨"icacontroller"⟩ ⟨"icahost"⟩ ⟨"channel-0"⟩ [transfer] = .ok () := by
    decide +kernel
  have hgate : host.gate ⟨"icacontroller"⟩ ⟨"icahost"⟩ ⟨"channel-0"⟩ [transfer] = .ok () :=
    hadmitted
  -- what a script does with its data is the same for any bytes, so these need not be looked at
  have hscript (data : Bytes) (s : State) :
      (Script.handler [.set mark [1], .data data, .event ⟨"oversized", []⟩] transfer).run.run s
        = (.ok ⟨data, [⟨"oversized", []⟩]⟩, s.set mark [1]) := rfl
  have hdirect : host.router.direct [transfer] before.state =
      ⟨[⟨List.replicate Wire.maxBytes 0, [⟨"oversized", []⟩]⟩], none,
        before.state.set mark [1]⟩ := by
    have hroute : host.router.find? Message.Kind.send.typeUrl = some script.handler :=
      (Router.find?_insert _ _ _ _).trans (if_pos rfl)
    exact Router.direct_cons_of_ok
      (Router.applyOne_of_handler (by decide +kernel) hroute (hscript _ _))
  have hanswer : received.1 = .error (.encode Wire.tooLong) := by
    have hexecuted := (execute_of_through hgate (congrArg DirectRun.obstacle hdirect)).1
    rw [hdirect] at hexecuted
    refine (host.receive_of_batchOf before hbatch).1.trans (hexecuted.trans ?_)
    exact BatchResult.encode_eq_error_of_mem (List.mem_singleton_self _)
      (Nat.le_of_eq List.length_replicate.symm)
  obtain ⟨ms, hms, hcommits⟩ := ((all_or_nothing host).1 (packetOfOneAccount [transfer] "") before
    received.2 _ (Prod.ext hanswer rfl)).2 ⟨_, rfl⟩
  cases hbatch.symm.trans hms
  refine ⟨hanswer, hcommits, ?_, ?_⟩
  · have hget := congrFun (State.store_inj.1 hcommits.store) mark
    rw [hget, hdirect]
    rfl
  · rw [hcommits.events, hdirect]
    rfl

end RemoteAccount
