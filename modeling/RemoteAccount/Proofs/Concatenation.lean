import RemoteAccount.Proofs.Refinement

/-!
# Batches in two parts

A controller may send its messages in one batch or in two, one after the other. The one batch is
carried out on one branch, which is merged once; the two are carried out on a branch each, and the
second is opened on what the first has been merged into. `Host.execute_append` says how the two ways
compare:

* the one batch is committed exactly if both of the two are, and then store and events are the same;
* its results are those of the two in a row, unless these are too long to be sent together;
* an obstacle that the one batch meets in its second part is met by the second of the two at the
  same message.

Direct runs make this easy, since a direct run of two parts is the run of the second from where the
first has left off (`Router.direct_append`). What is left to say is what commits and obstacles are
in terms of direct runs: `Host.tellsOfCommit_execute_iff` and `Host.execute_stops_iff`.
-/

namespace RemoteAccount

/-! ### Encoded results -/

/-- Results in a row are encoded only if each of the two parts is. -/
theorem BatchResult.exists_encode_of_append {results results' : List MessageResult} {bs : Bytes}
    (h : encode (results ++ results') = .ok bs) :
    (∃ front, encode results = .ok front) ∧ ∃ back, encode results' = .ok back := by
  have hfits : (WireForm.write (BatchResult.mk (results ++ results'))).length ≤ Wire.maxBytes := by
    by_contra hlong
    rw [encode_eq, if_neg hlong] at h
    cases h
  rw [length_write, List.flatMap_append, List.length_append] at hfits
  have hfront := length_write results
  have hback := length_write results'
  refine ⟨⟨_, (encode_eq results).trans (if_pos ?_)⟩, ⟨_, (encode_eq results').trans (if_pos ?_)⟩⟩
  · omega
  · omega

variable {M : Type} [ChainMessage M]

theorem MessageResult.ofResponses_append {ms ms' : List M} {responses responses' : List Response}
    (h : responses.length = ms.length) :
    ofResponses (ms ++ ms') (responses ++ responses')
      = ofResponses ms responses ++ ofResponses ms' responses' :=
  List.zipWith_append h.symm

/-! ### Commits and obstacles -/

theorem Obstacle.toHostError_inj {obstacle obstacle' : Obstacle} {index index' : Nat} :
    obstacle.toHostError index = obstacle'.toHostError index' ↔
      obstacle = obstacle' ∧ index = index' := by
  cases obstacle <;> cases obstacle' <;> simp [toHostError, and_comm]

namespace Host

section Execute

variable {host : Host M} {sourcePort destinationPort : PortId} {destinationChannel : ChannelId}
  {ms ms' : List M} {s : State}

/-- No message is looked at before all of them have been admitted. -/
theorem gate_ne_toHostError (obstacle : Obstacle) (index : Nat) :
    host.gate sourcePort destinationPort destinationChannel ms
      ≠ .error (obstacle.toHostError index) := by
  intro h
  unfold gate authenticate at h
  repeat' split at h
  all_goals cases obstacle <;> cases h

/-- **Two parts are admitted together** exactly if each of them is. -/
theorem gate_append :
    host.gate sourcePort destinationPort destinationChannel (ms ++ ms') = .ok () ↔
      host.gate sourcePort destinationPort destinationChannel ms = .ok () ∧
        host.gate sourcePort destinationPort destinationChannel ms' = .ok () := by
  simp only [gate_eq_ok_iff, List.forall_mem_append]
  constructor
  · rintro ⟨account, haccount, hms, hms'⟩
    exact ⟨⟨account, haccount, hms⟩, ⟨account, haccount, hms'⟩⟩
  · -- the channel and the controller are the same, so the account is
    rintro ⟨⟨account, haccount, hms⟩, ⟨account', haccount', hms'⟩⟩
    cases haccount.symm.trans haccount'
    exact ⟨account, haccount, hms, hms'⟩

/-- **A batch is committed** exactly if it is admitted and its direct run gets through. -/
theorem tellsOfCommit_execute_iff :
    tellsOfCommit (host.execute sourcePort destinationPort destinationChannel ms s).1 = true ↔
      host.gate sourcePort destinationPort destinationChannel ms = .ok () ∧
        (host.router.direct ms s).obstacle = none := by
  constructor
  · intro h
    rcases host.execute_untouched_or_commits sourcePort destinationPort destinationChannel ms s with
      ⟨cause, hcause, huntouched⟩ | ⟨hgate, -, hcommits⟩
    · rw [huntouched, tellsOfCommit, hcause] at h
      cases h
    · exact ⟨hgate, hcommits.through⟩
  · rintro ⟨hgate, hthrough⟩
    rw [(execute_of_through hgate hthrough).1]
    exact BatchResult.tellsOfCommit_encode _

/-- **A batch meets an obstacle** at a message exactly if it is admitted and its direct run stops
there. -/
theorem execute_stops_iff {obstacle : Obstacle} {index : Nat} :
    (host.execute sourcePort destinationPort destinationChannel ms s).1
        = .error (obstacle.toHostError index) ↔
      host.gate sourcePort destinationPort destinationChannel ms = .ok () ∧
        (host.router.direct ms s).obstacle = some obstacle ∧
        (host.router.direct ms s).responses.length = index := by
  constructor
  · intro h
    cases hgate : host.gate sourcePort destinationPort destinationChannel ms with
    | error cause =>
      rw [execute_of_gate_error hgate] at h
      cases h
      exact absurd hgate (gate_ne_toHostError obstacle index)
    | ok _ =>
      refine ⟨rfl, ?_⟩
      cases hobstacle : (host.router.direct ms s).obstacle with
      | none =>
        -- what comes after the last message comes too late for an obstacle
        rw [(execute_of_through hgate hobstacle).1] at h
        have hlate := BatchResult.isPostCommit_of_encode h
        rw [Obstacle.isPostCommit_toHostError] at hlate
        cases hlate
      | some met =>
        rw [execute_of_obstacle hgate hobstacle] at h
        obtain ⟨rfl, hindex⟩ := Obstacle.toHostError_inj.1 (Except.error.inj h)
        exact ⟨rfl, hindex⟩
  · rintro ⟨hgate, hobstacle, rfl⟩
    rw [execute_of_obstacle hgate hobstacle]

/-- What is read after a committed batch is what its direct run has left to be read. -/
theorem get_execute_of_through
    (hgate : host.gate sourcePort destinationPort destinationChannel ms = .ok ())
    (hthrough : (host.router.direct ms s).obstacle = none) :
    (host.execute sourcePort destinationPort destinationChannel ms s).2.get
      = (host.router.direct ms s).state.get :=
  State.store_inj.1 (execute_of_through hgate hthrough).2.store

/-! ### Two parts -/

/-- When the first part has been committed, the direct run of both is that of the first, and then
that of the second from the state that the commit has left. -/
theorem direct_append_of_committed (ms' : List M)
    (hgate : host.gate sourcePort destinationPort destinationChannel ms = .ok ())
    (hthrough : (host.router.direct ms s).obstacle = none) :
    let back := host.router.direct ms'
      (host.execute sourcePort destinationPort destinationChannel ms s).2
    (host.router.direct (ms ++ ms') s).responses
        = (host.router.direct ms s).responses ++ back.responses ∧
      (host.router.direct (ms ++ ms') s).obstacle = back.obstacle ∧
      (host.router.direct (ms ++ ms') s).state.get = back.state.get := by
  intro back
  obtain ⟨hresponses, hobstacle, hget⟩ :=
    Router.direct_congr ms' (get_execute_of_through hgate hthrough).symm
  rw [Router.direct_append, DirectRun.andThen_of_through hthrough]
  exact ⟨congrArg ((host.router.direct ms s).responses ++ ·) hresponses, hobstacle, hget⟩

/-- **Both parts are committed together** exactly if they are one after the other. -/
theorem committed_append_iff :
    tellsOfCommit (host.execute sourcePort destinationPort destinationChannel (ms ++ ms') s).1
        = true ↔
      tellsOfCommit (host.execute sourcePort destinationPort destinationChannel ms s).1 = true ∧
      tellsOfCommit (host.execute sourcePort destinationPort destinationChannel ms'
        (host.execute sourcePort destinationPort destinationChannel ms s).2).1 = true := by
  simp only [tellsOfCommit_execute_iff, gate_append]
  constructor
  · rintro ⟨⟨hgate, hgate'⟩, hthrough⟩
    -- a run that gets through both parts gets through the first
    have hfront : (host.router.direct ms s).obstacle = none := by
      cases hobstacle : (host.router.direct ms s).obstacle with
      | none => rfl
      | some obstacle =>
        rw [Router.direct_append, DirectRun.andThen_of_obstacle hobstacle, hobstacle] at hthrough
        cases hthrough
    rw [(direct_append_of_committed ms' hgate hfront).2.1] at hthrough
    exact ⟨⟨hgate, hfront⟩, hgate', hthrough⟩
  · rintro ⟨⟨hgate, hfront⟩, hgate', hback⟩
    exact ⟨⟨hgate, hgate'⟩, (direct_append_of_committed ms' hgate hfront).2.1.trans hback⟩

/-- Committing both parts together leaves what committing one after the other leaves, and the
results are those of the first and then those of the second. -/
theorem execute_append_of_committed
    (hfront : tellsOfCommit (host.execute sourcePort destinationPort destinationChannel ms s).1
      = true)
    (hback : tellsOfCommit (host.execute sourcePort destinationPort destinationChannel ms'
      (host.execute sourcePort destinationPort destinationChannel ms s).2).1 = true) :
    let whole := host.execute sourcePort destinationPort destinationChannel (ms ++ ms') s
    let front := host.execute sourcePort destinationPort destinationChannel ms s
    let back := host.execute sourcePort destinationPort destinationChannel ms' front.2
    whole.2.store = back.2.store ∧ whole.2.events.toList = back.2.events.toList ∧
      ∃ results results', front.1 = BatchResult.encode results ∧
        back.1 = BatchResult.encode results' ∧
        whole.1 = BatchResult.encode (results ++ results') := by
  intro whole front back
  obtain ⟨hgate, hthrough⟩ := tellsOfCommit_execute_iff.1 (committed_append_iff.2 ⟨hfront, hback⟩)
  obtain ⟨hgateFront, hthroughFront⟩ := tellsOfCommit_execute_iff.1 hfront
  obtain ⟨hgateBack, hthroughBack⟩ := tellsOfCommit_execute_iff.1 hback
  obtain ⟨hresponses, -, hget⟩ := direct_append_of_committed ms' hgateFront hthroughFront
  obtain ⟨hanswer, hcommits⟩ := execute_of_through hgate hthrough
  obtain ⟨hanswerFront, hcommitsFront⟩ := execute_of_through hgateFront hthroughFront
  obtain ⟨hanswerBack, hcommitsBack⟩ := execute_of_through hgateBack hthroughBack
  refine ⟨?_, ?_, _, _, hanswerFront, hanswerBack, ?_⟩
  · calc whole.2.store = (host.router.direct (ms ++ ms') s).state.store := hcommits.store
      _ = (host.router.direct ms' front.2).state.store := State.store_inj.2 hget
      _ = back.2.store := hcommitsBack.store.symm
  · -- the events of the first part stand before those of the second
    rw [hcommits.events, hcommitsBack.events, hcommitsFront.events, List.append_assoc]
    simp only [DirectRun.events, hresponses, List.flatMap_append]
  · rw [hanswer, hresponses, MessageResult.ofResponses_append
      (Router.length_responses_of_obstacle_eq_none hthroughFront)]

end Execute

/-- **One batch or two.** Some messages are carried out in one batch, or the first of them in one
batch and the rest in a second, from the state that the first batch has left.

* The one batch is committed exactly if both of the two are, and then store and events are the same
  either way.
* If it is answered with results, both of the two are, and its results are those of the first and
  then those of the second.
* If both of the two are answered with results, the one batch is answered with all of them, unless
  they are too many to be sent together; it is committed even then.
* If the one batch meets an obstacle behind the first part, the first batch is committed, and the
  second meets the same obstacle at the same message, counted from its own start. -/
theorem execute_append (host : Host M) (sourcePort destinationPort : PortId)
    (destinationChannel : ChannelId) (first second : List M) (s : State) :
    let execute := host.execute sourcePort destinationPort destinationChannel
    let whole := execute (first ++ second) s
    let front := execute first s
    let back := execute second front.2
    (tellsOfCommit whole.1 = true ↔ tellsOfCommit front.1 = true ∧ tellsOfCommit back.1 = true) ∧
      (tellsOfCommit whole.1 = true →
        whole.2.store = back.2.store ∧ whole.2.events.toList = back.2.events.toList) ∧
      (∀ bytes, whole.1 = .ok bytes → ∃ frontBytes backBytes results results',
        front.1 = .ok frontBytes ∧ back.1 = .ok backBytes ∧
          BatchResult.decode frontBytes = .ok results ∧
          BatchResult.decode backBytes = .ok results' ∧
          BatchResult.decode bytes = .ok (results ++ results')) ∧
      (∀ frontBytes backBytes, front.1 = .ok frontBytes → back.1 = .ok backBytes →
        ∃ results results', BatchResult.decode frontBytes = .ok results ∧
          BatchResult.decode backBytes = .ok results' ∧
          let form := WireForm.write (BatchResult.mk (results ++ results'))
          whole.1 = if form.length ≤ Wire.maxBytes then .ok form
            else .error (.encode Wire.tooLong)) ∧
      ∀ (obstacle : Obstacle) (index : Nat), whole.1 = .error (obstacle.toHostError index) →
        first.length ≤ index →
          tellsOfCommit front.1 = true ∧
            back.1 = .error (obstacle.toHostError (index - first.length)) := by
  intro execute whole front back
  refine ⟨committed_append_iff, fun hwhole => ?_, fun bytes hwhole => ?_,
    fun frontBytes backBytes hfront hback => ?_, fun obstacle index hwhole hindex => ?_⟩
  · obtain ⟨hfront, hback⟩ := committed_append_iff.1 hwhole
    obtain ⟨hstore, hevents, -⟩ := execute_append_of_committed hfront hback
    exact ⟨hstore, hevents⟩
  · have hcommitted : tellsOfCommit whole.1 = true := congrArg tellsOfCommit hwhole
    obtain ⟨hfront, hback⟩ := committed_append_iff.1 hcommitted
    obtain ⟨-, -, results, results', hanswerFront, hanswerBack, hanswer⟩ :=
      execute_append_of_committed hfront hback
    -- what can be sent in one form can be sent in two
    have hencode := hanswer.symm.trans hwhole
    obtain ⟨⟨frontBytes, hfrontBytes⟩, backBytes, hbackBytes⟩ :=
      BatchResult.exists_encode_of_append hencode
    exact ⟨frontBytes, backBytes, results, results', hanswerFront.trans hfrontBytes,
      hanswerBack.trans hbackBytes, BatchResult.decode_of_encode hfrontBytes,
      BatchResult.decode_of_encode hbackBytes, BatchResult.decode_of_encode hencode⟩
  · have hcommitted : tellsOfCommit front.1 = true := congrArg tellsOfCommit hfront
    have hcommitted' : tellsOfCommit back.1 = true := congrArg tellsOfCommit hback
    obtain ⟨-, -, results, results', hanswerFront, hanswerBack, hanswer⟩ :=
      execute_append_of_committed hcommitted hcommitted'
    exact ⟨results, results', BatchResult.decode_of_encode (hanswerFront.symm.trans hfront),
      BatchResult.decode_of_encode (hanswerBack.symm.trans hback),
      hanswer.trans (BatchResult.encode_eq _)⟩
  · obtain ⟨hgate, hobstacle, hplace⟩ := execute_stops_iff.1 hwhole
    obtain ⟨hgateFront, hgateBack⟩ := gate_append.1 hgate
    cases hfront : (host.router.direct first s).obstacle with
    | some met =>
      -- a run that stops in the first part stops before its end
      have hlt := Router.length_responses_lt_of_obstacle hfront
      rw [Router.direct_append, DirectRun.andThen_of_obstacle hfront] at hplace
      omega
    | none =>
      obtain ⟨hresponses, hsame, -⟩ := direct_append_of_committed second hgateFront hfront
      have hlength := Router.length_responses_of_obstacle_eq_none hfront
      rw [hresponses, List.length_append, hlength] at hplace
      refine ⟨tellsOfCommit_execute_iff.2 ⟨hgateFront, hfront⟩, ?_⟩
      exact execute_stops_iff.2
        ⟨hgateBack, hsame.symm.trans hobstacle, Nat.eq_sub_of_add_eq' hplace⟩

/-- An account that holds three coins sends two of them twice. In one batch the second transfer is
cited as the second, and nothing is sent. In two batches the first transfer is carried out, and the
second is cited as the first of its own. -/
theorem execute_overdrawn_in_two :
    let coins (n : Fin 16) : Amount := ⟨n, Nat.lt_trans n.isLt (by decide)⟩
    let transfer := Message.send ⟨"ica1", "bob", [⟨"atom", coins 2⟩]⟩
    let funded := Bank.setBalance (.ledger .empty) "ica1" "atom" (coins 3)
    let cause := OperationError.insufficientFunds "atom" (coins 2) (coins 1)
    let execute := ofOneAccount.execute ⟨"icacontroller"⟩ ⟨"icahost"⟩ ⟨"channel-0"⟩
    (execute [transfer, transfer] funded).1 = .error (.operationFailed 1 cause) ∧
      tellsOfCommit (execute [transfer] funded).1 = true ∧
      (execute [transfer] (execute [transfer] funded).2).1 = .error (.operationFailed 0 cause) := by
  intro coins transfer funded cause execute
  have hwhole : (execute [transfer, transfer] funded).1
      = .error (Obstacle.toHostError 1 (.failed cause)) :=
    execute_stops_iff.2 ⟨rfl, by decide +kernel, by decide +kernel⟩
  have hparts := execute_append ofOneAccount ⟨"icacontroller"⟩ ⟨"icahost"⟩ ⟨"channel-0"⟩
    [transfer] [transfer] funded
  exact ⟨hwhole, hparts.2.2.2.2 (.failed cause) 1 hwhole (Nat.le_refl 1)⟩

end Host

end RemoteAccount
