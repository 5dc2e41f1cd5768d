import RemoteAccount.Proofs.Uniform

/-!
# Running a batch directly

The reference against which the carrying out of batches is measured. `Router.direct` takes the
messages of a batch in order and, for each, checks it, looks up its handler and applies the handler
to the state itself: there is no branch, nothing is emitted and nothing is undone. It stops at the
first message that cannot be carried out and keeps the responses up to there, so that their number
is the place of that message.

`Router.carryOut` does the same and emits the events of each response as it goes. Handlers cannot
see events, so this changes nothing for the messages that follow:

* `direct_congr` — a direct run sees what can be read from the state and nothing else;
* `direct_append` — a batch in two parts is run by running the second part where the first has left
  off, unless the first was stopped;
* `carryOutOne_eq` — carrying out one message is applying it and emitting its events;
* `carryOutFrom_direct` — from states with the same reads, carrying out a batch and running it
  directly come to the same results or stop at the same message for the same reason, leave the same
  reads, and what has been emitted is what the responses hold, in the order of the batch.
-/

namespace RemoteAccount

/-- Why a direct run stops at a message. -/
inductive Obstacle
  /-- The message does not make sense. -/
  | invalid (cause : OperationError)
  /-- There is no route for its type URL. -/
  | noRoute (typeUrl : String)
  /-- Its handler fails. -/
  | failed (cause : OperationError)
  deriving DecidableEq

/-- The error that tells of an obstacle met at this place of a batch. -/
def Obstacle.toHostError (index : Nat) : Obstacle → HostError
  | .invalid cause => .invalidOperation index cause
  | .noRoute typeUrl => .noRoute index typeUrl
  | .failed cause => .operationFailed index cause

/-- How a direct run comes out. -/
structure DirectRun where
  /-- The responses of the messages that were carried out, in their order. -/
  responses : List Response
  /-- What has stopped the run, if it did not get through. -/
  obstacle : Option Obstacle
  /-- The state that the run has left. -/
  state : State

/-- The events of the responses, in the order of the batch. -/
def DirectRun.events (run : DirectRun) : List Event :=
  run.responses.flatMap Response.events

/-- Go on with another run where this one has left off, unless something has stopped it. -/
def DirectRun.andThen (run : DirectRun) (next : State → DirectRun) : DirectRun :=
  match run.obstacle with
  | none =>
    let rest := next run.state
    { rest with responses := run.responses ++ rest.responses }
  | some _ => run

theorem DirectRun.andThen_of_through {run : DirectRun} (h : run.obstacle = none)
    (next : State → DirectRun) :
    run.andThen next = { next run.state with
      responses := run.responses ++ (next run.state).responses } := by
  rw [andThen, h]

theorem DirectRun.andThen_of_obstacle {run : DirectRun} {obstacle : Obstacle}
    (h : run.obstacle = some obstacle) (next : State → DirectRun) : run.andThen next = run := by
  rw [andThen, h]

variable {M : Type} [ChainMessage M]

/-- The results of messages that have given these responses. -/
def MessageResult.ofResponses (ms : List M) (responses : List Response) : List MessageResult :=
  ms.zipWith (fun m response => ⟨ChainMessage.typeUrl m, response.data⟩) responses

/-- The answer to a batch that has been run directly, the first message of which has this place.
The results of the messages before it stand in reverse. -/
def DirectRun.answer (run : DirectRun) (index : Nat) (done : List MessageResult) (ms : List M) :
    Except HostError (List MessageResult) :=
  match run.obstacle with
  | none => .ok (done.reverse ++ MessageResult.ofResponses ms run.responses)
  | some obstacle => .error (obstacle.toHostError (index + run.responses.length))

namespace Router

variable (router : Router M)

/-- Check one message and apply its handler to the state. -/
def applyOne (m : M) (s : State) : Except Obstacle Response × State :=
  match ChainMessage.check m with
  | .error cause => (.error (.invalid cause), s)
  | .ok () =>
    match router.find? (ChainMessage.typeUrl m) with
    | none => (.error (.noRoute (ChainMessage.typeUrl m)), s)
    | some handler =>
      match (handler m).run.run s with
      | (.ok response, s) => (.ok response, s)
      | (.error cause, s) => (.error (.failed cause), s)

/-- Take the messages in order and apply each to the state, up to the first that stops the run. -/
def direct : List M → State → DirectRun
  | [], s => ⟨[], none, s⟩
  | m :: ms, s =>
    match router.applyOne m s with
    | (.ok response, s) =>
      let rest := direct ms s
      { rest with responses := response :: rest.responses }
    | (.error obstacle, s) => ⟨[], some obstacle, s⟩

/-! ### One message -/

theorem uniform_applyOne (m : M) : Uniform (router.applyOne m) := by
  unfold applyOne
  split
  · exact .const _
  · split
    · exact .const _
    · next handler _ =>
      have h := (Uniform.run (handler m).run).map (Except.mapError Obstacle.failed)
      convert h using 2 with s
      rcases (handler m).run.run s with ⟨_ | response, t⟩ <;> rfl

theorem events_applyOne (m : M) (s : State) : (router.applyOne m s).2.events = s.events := by
  unfold applyOne
  split
  · rfl
  · split
    · rfl
    · next handler _ =>
      have h := Uniform.events_run (handler m).run s
      split <;> next heq => rwa [heq] at h

/-- **Carrying out one message** is applying it, and emitting the events of its response. -/
theorem carryOutOne_eq (index : Nat) (m : M) (s : State) :
    router.carryOutOne index m s = match router.applyOne m s with
      | (.ok response, s) =>
        (.ok ⟨ChainMessage.typeUrl m, response.data⟩, s.emit response.events)
      | (.error obstacle, s) => (.error (obstacle.toHostError index), s) := by
  unfold carryOutOne dispatch applyOne
  cases hcheck : ChainMessage.check m with
  | error cause => rfl
  | ok _ =>
    cases hfind : router.find? (ChainMessage.typeUrl m) with
    | none => rfl
    | some handler =>
      -- the handler is run once, in either reading on the same state
      simp only [Execution.bind_apply, Execution.ofProgram]
      rcases (handler m).run.run s with ⟨cause | response, t⟩ <;> rfl

/-! ### Batches -/

variable {router}

/-- A message that is carried out has a route, and its handler gives the response. -/
theorem exists_handler_of_applyOne {m : M} {s s' : State}
    {response : Response} (h : router.applyOne m s = (.ok response, s')) :
    ∃ handler, router.find? (ChainMessage.typeUrl m) = some handler ∧
      (handler m).run.run s = (.ok response, s') := by
  rw [applyOne] at h
  split at h
  · cases h
  · split at h
    · cases h
    · next handler hfind =>
      refine ⟨handler, hfind, ?_⟩
      rcases hrun : (handler m).run.run s with ⟨cause | answer, t⟩ <;> rw [hrun] at h <;> cases h
      rfl

/-- A message that makes sense and has a route is carried out if its handler gives a response. -/
theorem applyOne_of_handler {m : M} {handler : Handler M} {s s' : State} {response : Response}
    (hcheck : ChainMessage.check m = .ok ())
    (hroute : router.find? (ChainMessage.typeUrl m) = some handler)
    (hrun : (handler m).run.run s = (.ok response, s')) :
    router.applyOne m s = (.ok response, s') := by
  simp only [applyOne, hcheck, hroute, hrun]

/-- A message that is stopped for want of a route has none. -/
theorem find?_of_applyOne_noRoute {m : M} {s s' : State} {typeUrl : String}
    (h : router.applyOne m s = (.error (.noRoute typeUrl), s')) :
    ChainMessage.typeUrl m = typeUrl ∧ router.find? typeUrl = none := by
  rw [applyOne] at h
  split at h
  · cases h
  · split at h
    · next hfind =>
      cases h
      exact ⟨rfl, hfind⟩
    · next handler _ =>
      -- a handler that fails is no missing route
      rcases hrun : (handler m).run.run s with ⟨_ | _, t⟩ <;> rw [hrun] at h <;> cases h

/-- A message that fails has a route, and it is its handler that fails. -/
theorem exists_handler_of_applyOne_failed {m : M} {s s' : State} {cause : OperationError}
    (h : router.applyOne m s = (.error (.failed cause), s')) :
    ∃ handler, router.find? (ChainMessage.typeUrl m) = some handler ∧
      (handler m).run.run s = (.error cause, s') := by
  rw [applyOne] at h
  split at h
  · cases h
  · split at h
    · cases h
    · next handler hfind =>
      refine ⟨handler, hfind, ?_⟩
      rcases hrun : (handler m).run.run s with ⟨failure | _, t⟩ <;> rw [hrun] at h <;> cases h
      rfl

theorem direct_cons_of_ok {m : M} {ms : List M} {s s' : State} {response : Response}
    (h : router.applyOne m s = (.ok response, s')) :
    router.direct (m :: ms) s =
      { router.direct ms s' with responses := response :: (router.direct ms s').responses } := by
  rw [direct, h]

theorem direct_cons_of_error {m : M} {ms : List M} {s s' : State} {obstacle : Obstacle}
    (h : router.applyOne m s = (.error obstacle, s')) :
    router.direct (m :: ms) s = ⟨[], some obstacle, s'⟩ := by
  rw [direct, h]

theorem length_responses_of_obstacle_eq_none {ms : List M} {s : State}
    (h : (router.direct ms s).obstacle = none) :
    (router.direct ms s).responses.length = ms.length := by
  induction ms generalizing s with
  | nil => rfl
  | cons m ms ih =>
    rcases happly : router.applyOne m s with ⟨obstacle | response, s'⟩
    · rw [direct_cons_of_error happly] at h
      cases h
    · rw [direct_cons_of_ok happly] at h ⊢
      exact congrArg (· + 1) (ih h)

theorem length_responses_lt_of_obstacle {ms : List M} {s : State} {obstacle : Obstacle}
    (h : (router.direct ms s).obstacle = some obstacle) :
    (router.direct ms s).responses.length < ms.length := by
  induction ms generalizing s with
  | nil => cases h
  | cons m ms ih =>
    rcases happly : router.applyOne m s with ⟨met | response, s'⟩
    · rw [direct_cons_of_error happly]
      exact Nat.zero_lt_succ _
    · rw [direct_cons_of_ok happly] at h ⊢
      exact Nat.succ_lt_succ (ih h)

/-- **Where a run stops.** A run that meets an obstacle has carried out the messages in front of one
of them, all of which have routes, and has met the obstacle at this one. -/
theorem exists_stop_of_obstacle {ms : List M} {s : State} {obstacle : Obstacle}
    (h : (router.direct ms s).obstacle = some obstacle) :
    ∃ front m back t t', ms = front ++ m :: back ∧
      front.length = (router.direct ms s).responses.length ∧
      (∀ m' ∈ front, router.contains (ChainMessage.typeUrl m') = true) ∧
      router.applyOne m t = (.error obstacle, t') := by
  induction ms generalizing s with
  | nil => cases h
  | cons m ms ih =>
    rcases happly : router.applyOne m s with ⟨met | response, s'⟩
    · rw [direct_cons_of_error happly] at h ⊢
      cases h
      exact ⟨[], m, ms, s, s', rfl, rfl, nofun, happly⟩
    · rw [direct_cons_of_ok happly] at h ⊢
      obtain ⟨front, stop, back, t, t', rfl, hlength, hrouted, hstop⟩ := ih h
      obtain ⟨handler, hfind, -⟩ := exists_handler_of_applyOne happly
      refine ⟨m :: front, stop, back, t, t', rfl, congrArg (· + 1) hlength, ?_, hstop⟩
      refine List.forall_mem_cons.2 ⟨?_, hrouted⟩
      rw [contains_eq_isSome, hfind]
      rfl

/-- **What a direct run sees** of a state are its reads: from states with the same reads, the same
messages are carried out with the same responses, and the same is read afterwards. -/
theorem direct_congr (ms : List M) {s t : State} (h : s.get = t.get) :
    (router.direct ms s).responses = (router.direct ms t).responses ∧
      (router.direct ms s).obstacle = (router.direct ms t).obstacle ∧
      (router.direct ms s).state.get = (router.direct ms t).state.get := by
  induction ms generalizing s t with
  | nil => exact ⟨rfl, rfl, h⟩
  | cons m ms ih =>
    have hget := (router.uniform_applyOne m).get h
    have hsame := (router.uniform_applyOne m).eq_mk h
    rcases happly : router.applyOne m t with ⟨obstacle | response, t'⟩ <;> rw [happly] at hsame hget
    · rw [direct_cons_of_error hsame, direct_cons_of_error happly]
      exact ⟨rfl, rfl, hget⟩
    · obtain ⟨hresponses, hobstacle, hstate⟩ := ih hget
      rw [direct_cons_of_ok hsame, direct_cons_of_ok happly]
      exact ⟨congrArg (response :: ·) hresponses, hobstacle, hstate⟩

/-- **A batch in two parts**: the second part is run where the first has left off. -/
theorem direct_append (ms ms' : List M) (s : State) :
    router.direct (ms ++ ms') s = (router.direct ms s).andThen (router.direct ms') := by
  induction ms generalizing s with
  | nil => rfl
  | cons m ms ih =>
    rw [List.cons_append]
    rcases happly : router.applyOne m s with ⟨obstacle | response, s'⟩
    · rw [direct_cons_of_error happly, direct_cons_of_error happly]
      rfl
    · rw [direct_cons_of_ok happly, direct_cons_of_ok happly, ih]
      -- the response of this message goes in front, whether or not the rest gets through
      unfold DirectRun.andThen
      cases (router.direct ms s').obstacle <;> rfl

/-- **Carrying out a batch** comes to what running it directly comes to. -/
theorem carryOutFrom_direct (index : Nat) (done : List MessageResult) (ms : List M) {s t : State}
    (h : s.get = t.get) :
    (router.carryOutFrom index done ms s).1 = (router.direct ms t).answer index done ms ∧
      (router.carryOutFrom index done ms s).2.get = (router.direct ms t).state.get ∧
      (router.carryOutFrom index done ms s).2.events.toList
        = s.events.toList ++ (router.direct ms t).events := by
  induction ms generalizing index done s t with
  | nil =>
    refine ⟨?_, h, (List.append_nil _).symm⟩
    exact congrArg Except.ok (List.append_nil _).symm
  | cons m ms ih =>
    have hget := (router.uniform_applyOne m).get h
    have hevents := router.events_applyOne m s
    have hsame := (router.uniform_applyOne m).eq_mk h
    rw [carryOutFrom, Execution.bind_apply, carryOutOne_eq, hsame]
    rcases happly : router.applyOne m t with ⟨obstacle | response, t'⟩ <;> rw [happly] at hget
    · -- the run stops here, and the state is what the message has left
      rw [direct_cons_of_error happly]
      exact ⟨rfl, hget, by rw [hevents]; exact (List.append_nil _).symm⟩
    · -- the rest starts from the state in which the events have been emitted
      rw [direct_cons_of_ok happly]
      have hemit : ((router.applyOne m s).2.emit response.events).get = t'.get :=
        (funext ((router.applyOne m s).2.get_apply_emit response.events)).trans hget
      obtain ⟨hrest, hstate, hmore⟩ :=
        ih (index + 1) (⟨ChainMessage.typeUrl m, response.data⟩ :: done) hemit
      refine ⟨?_, hstate, ?_⟩
      · -- the answer: the result of this message goes before those of the rest
        refine hrest.trans ?_
        unfold DirectRun.answer
        cases (router.direct ms t').obstacle with
        | none =>
          rw [List.reverse_cons, List.append_assoc]
          rfl
        | some obstacle =>
          rw [List.length_cons, Nat.add_assoc, Nat.add_comm 1]
      · -- the events: those of this message come before those of the rest
        refine hmore.trans ?_
        rw [State.emit, State.events_apply_emit, hevents, List.append_assoc]
        rfl

end Router

end RemoteAccount
