import RemoteAccount.Proofs.Outcome

/-!
# Carrying out a batch refines running it directly

A batch is carried out on a branch, whose writes are gathered in an overlay, read through it, and
merged into the state key by key when everything has succeeded. The direct run (`Router.direct`)
knows nothing of this: it applies one handler after the other to the state itself.
`Host.execute_refines_direct` says that, once the gates are passed, nobody can tell the difference.
The batch is committed exactly if the direct run gets through, and then the store, the events and
the results are those of the direct run; otherwise the error names the message at which the direct
run stops, and the cause is the one that the direct run has met there.

That a later message sees what an earlier one has written and deleted is part of this, since in the
direct run it cannot be otherwise.
-/

namespace RemoteAccount

/-- Does the answer tell of a batch that has been committed? -/
def tellsOfCommit : Except HostError Bytes → Bool
  | .ok _ => true
  | .error cause => cause.isPostCommit

/-- What has been encoded is decoded again. -/
theorem BatchResult.decode_of_encode {results : List MessageResult} {bs : Bytes}
    (h : BatchResult.encode results = .ok bs) : BatchResult.decode bs = .ok results := by
  rw [BatchResult.encode_eq] at h
  split at h
  · next hlength =>
    cases h
    -- what may be sent is far too short for its lengths not to fit their eight bytes
    have hshort : (WireForm.write (BatchResult.mk results)).length < Numeral.capacity 8 :=
      Nat.lt_of_le_of_lt hlength (by decide)
    rw [BatchResult.decode, (Wire.receive?_eq_some_iff hshort).2 rfl]
  · cases h

/-- The answer to a committed batch tells of its commit, even if its results cannot be encoded. -/
theorem BatchResult.tellsOfCommit_encode (results : List MessageResult) :
    tellsOfCommit (BatchResult.encode results) = true := by
  cases h : BatchResult.encode results with
  | ok bs => rfl
  | error cause => exact BatchResult.isPostCommit_of_encode h

variable {M : Type} [ChainMessage M]

/-- **Refinement.** Of a batch whose channel has a connection and which is authenticated for it:

* it is committed exactly if its direct run gets through;
* if it is, the store is that of the direct run, the events are those there were and after them
  those of the responses in the order of the batch, and a result that is given back decodes to one
  entry for each message in this order, with its type URL and the data of its response;
* if the direct run stops, the error is that of the obstacle, at the place where it was met. -/
theorem Host.execute_refines_direct (host : Host M) (sourcePort destinationPort : PortId)
    (destinationChannel : ChannelId) (ms : List M) (s : State) {connection : ConnectionId}
    (hconnection : host.channels.connection? destinationPort destinationChannel = some connection)
    (hauthenticate : authenticate host.accounts host.config connection sourcePort ms = .ok ()) :
    let direct := host.router.direct ms s
    let executed := host.execute sourcePort destinationPort destinationChannel ms s
    (tellsOfCommit executed.1 = true ↔ direct.obstacle = none) ∧
      (direct.obstacle = none →
        executed.2.store = direct.state.store ∧
        executed.2.events.toList
          = s.events.toList ++ direct.responses.flatMap Response.events ∧
        direct.responses.length = ms.length ∧
        ∀ bytes, executed.1 = .ok bytes →
          BatchResult.decode bytes = .ok (ms.zipWith
            (fun m response => ⟨ChainMessage.typeUrl m, response.data⟩) direct.responses)) ∧
      ∀ obstacle, direct.obstacle = some obstacle →
        executed.1 = .error (obstacle.toHostError direct.responses.length) := by
  intro direct executed
  have hgate : host.gate sourcePort destinationPort destinationChannel ms = .ok () := by
    rw [gate, hconnection]
    exact hauthenticate
  cases hobstacle : direct.obstacle with
  | none =>
    obtain ⟨hanswer, hcommits⟩ := execute_of_through hgate hobstacle
    refine ⟨?_, fun _ => ⟨hcommits.store, hcommits.events, ?_, fun bytes hbytes => ?_⟩, ?_⟩
    · -- both are true
      rw [show executed.1 = _ from hanswer, BatchResult.tellsOfCommit_encode]
      exact iff_of_true rfl rfl
    · -- one response for each message
      exact Router.length_responses_of_obstacle_eq_none hobstacle
    · -- the results were encoded from the responses
      exact BatchResult.decode_of_encode (hanswer.symm.trans hbytes)
    · rintro obstacle ⟨⟩
  | some obstacle =>
    have hexecuted : executed = _ := execute_of_obstacle hgate hobstacle
    rw [hexecuted]
    refine ⟨?_, ?_, ?_⟩
    · -- both are false
      rw [tellsOfCommit, obstacle.isPostCommit_toHostError]
      exact iff_of_false nofun nofun
    · rintro ⟨⟩
    · rintro _ ⟨⟩
      rfl

/-- An account that holds three coins sends two of them twice. The second transfer sees what the
first has left, so it is the second that is cited. -/
theorem Host.execute_overdrawn :
    let coins (n : Fin 16) : Amount := ⟨n, Nat.lt_trans n.isLt (by decide)⟩
    let transfer := Message.send ⟨"ica1", "bob", [⟨"atom", coins 2⟩]⟩
    let funded := Bank.setBalance (.ledger .empty) "ica1" "atom" (coins 3)
    (ofOneAccount.execute ⟨"icacontroller"⟩ ⟨"icahost"⟩ ⟨"channel-0"⟩ [transfer, transfer]
        funded).1
      = .error (.operationFailed 1 (.insufficientFunds "atom" (coins 2) (coins 1))) := by
  intro coins transfer funded
  have hrefines := execute_refines_direct ofOneAccount ⟨"icacontroller"⟩ ⟨"icahost"⟩ ⟨"channel-0"⟩
    [transfer, transfer] funded rfl rfl
  have hobstacle : (ofOneAccount.router.direct [transfer, transfer] funded).obstacle
      = some (.failed (.insufficientFunds "atom" (coins 2) (coins 1))) := by decide +kernel
  have hplace : (ofOneAccount.router.direct [transfer, transfer] funded).responses.length = 1 := by
    decide +kernel
  rw [hrefines.2.2 _ hobstacle, hplace]
  rfl

end RemoteAccount
