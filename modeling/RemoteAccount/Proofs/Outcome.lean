import RemoteAccount.Proofs.DirectRun

/-!
# How a packet comes out

A packet goes through two gates before anything is carried out, and neither looks at the state.
`Host.batchOf` is the batch the packet brings, or the cause for which it brings none: the host is
switched off, the envelope or the batch cannot be read, or the packet asks for something else.
`Host.gate` lets a batch pass or refuses it: the channel must be known and have a connection, the
account must be known, and every message authorized.

Behind the gates the batch is carried out on a branch, and what comes of that is told by its direct
run (`Router.direct`) from the same state:

* `Host.gate_eq_ok_iff` — a batch is admitted if there is an account for which every message speaks;
* `Host.execute_of_gate_error` — a batch that is not admitted leaves the state alone;
* `Host.execute_of_obstacle` — so does one whose direct run stops at an obstacle;
* `Host.execute_of_through` — a batch whose direct run gets through is committed (`Router.Commits`),
  whether or not its results can be encoded.

`Host.execute_untouched_or_commits` and `Host.handle_untouched_or_commits` put this together: what
has not been refused in time has been committed in full.
-/

namespace RemoteAccount

variable {M : Type} [ChainMessage M]

/-! ### Full commits -/

/-- **A full commit.** The direct run of the batch from `s` gets through, and `s'` is what is left
when it has been committed on `s`. -/
structure Router.Commits (router : Router M) (ms : List M) (s s' : State) : Prop where
  /-- Every message is carried out. -/
  through : (router.direct ms s).obstacle = none
  /-- All that the batch writes is in the store. -/
  store : s'.store = (router.direct ms s).state.store
  /-- All events of the batch follow those that there were. -/
  events : s'.events.toList = s.events.toList ++ (router.direct ms s).events
  /-- Nothing else has happened: what `s` has taken are the changes of one branch, on which the
  whole batch was carried out. -/
  merged : ∃ results overlay, router.carryOut ms s.fork = (.ok results, .branch s overlay) ∧
    s' = s.applyAll overlay.changes

theorem Router.carryOut_direct (router : Router M) (ms : List M) {s t : State}
    (h : s.get = t.get) :
    (router.carryOut ms s).1 = (router.direct ms t).answer 0 [] ms ∧
      (router.carryOut ms s).2.get = (router.direct ms t).state.get ∧
      (router.carryOut ms s).2.events.toList
        = s.events.toList ++ (router.direct ms t).events :=
  router.carryOutFrom_direct 0 [] ms h

theorem DirectRun.answer_of_obstacle {run : DirectRun} {ms : List M} {obstacle : Obstacle}
    (h : run.obstacle = some obstacle) :
    run.answer 0 [] ms = .error (obstacle.toHostError run.responses.length) := by
  rw [DirectRun.answer, h]
  exact congrArg (fun index => Except.error (obstacle.toHostError index)) (Nat.zero_add _)

theorem DirectRun.answer_of_through {run : DirectRun} {ms : List M} (h : run.obstacle = none) :
    run.answer 0 [] ms = .ok (MessageResult.ofResponses ms run.responses) := by
  rw [DirectRun.answer, h]
  rfl

/-- A batch whose direct run gets through is committed when it is carried out on a branch. -/
theorem Router.commits_of_through {router : Router M} {ms : List M} {s : State}
    (h : (router.direct ms s).obstacle = none) :
    (Execution.atomically (router.carryOut ms) s).1
        = .ok (MessageResult.ofResponses ms (router.direct ms s).responses) ∧
      router.Commits ms s (Execution.atomically (router.carryOut ms) s).2 := by
  have huniform := router.uniform_carryOut ms
  obtain ⟨hanswer, hget, hevents⟩ := router.carryOut_direct ms (rfl : s.get = s.get)
  rw [DirectRun.answer_of_through h] at hanswer
  obtain ⟨hsame, hcommitGet, hcommitEvents⟩ := huniform.atomically_of_ok hanswer
  refine ⟨hsame, h, State.store_inj.2 (hcommitGet.trans hget), hcommitEvents.trans hevents, ?_⟩
  -- The branch is the one that was opened on `s`.
  have hbranch := huniform.answer (State.get_fork_eq s)
  obtain ⟨overlay, hoverlay⟩ := State.exists_overlay (huniform.parent? s.fork)
  rw [hanswer] at hbranch
  refine ⟨_, overlay, Prod.ext hbranch hoverlay, ?_⟩
  rw [huniform.atomically_eq, ← Prod.eta (router.carryOut ms s.fork), hbranch, hoverlay]
  rfl

/-! ### The gates -/

namespace Host

variable (host : Host M)

/-- The batch that a packet brings, or why it brings none. -/
def batchOf (packet : Packet) : Except HostError (List M) :=
  if host.config.hostEnabled then
    match (JsonForm.parse? packet.data : Option Envelope) with
    | none => .error .decode
    | some envelope =>
      match envelope.type with
      | .executeTx => host.registry.decode envelope.data
      | other => .error (.unsupportedType other.tag)
  else .error .hostDisabled

/-- Whether a batch is carried out at all. -/
def gate (sourcePort destinationPort : PortId) (destinationChannel : ChannelId) (ms : List M) :
    Except HostError Unit :=
  match host.channels.connection? destinationPort destinationChannel with
  | none => .error (.channelNotFound destinationPort.name destinationChannel.name)
  | some connection => authenticate host.accounts host.config connection sourcePort ms

/-- The account that a controller of this name owns, if it is reached over this channel. -/
def account? (sourcePort destinationPort : PortId) (destinationChannel : ChannelId) :
    Option String :=
  (host.channels.connection? destinationPort destinationChannel).bind
    (host.accounts.find? · sourcePort)

/-- **Who gets through.** A batch passes if there is an account, and each of its messages is
permitted and speaks in the name of this account alone. -/
theorem gate_eq_ok_iff {sourcePort destinationPort : PortId} {destinationChannel : ChannelId}
    {ms : List M} :
    host.gate sourcePort destinationPort destinationChannel ms = .ok () ↔
      ∃ account, host.account? sourcePort destinationPort destinationChannel = some account ∧
        ∀ m ∈ ms,
          Authorization.permits host.config.allowMessages (ChainMessage.typeUrl m) = true ∧
            ∀ signer ∈ ChainMessage.signers m, signer = account := by
  unfold gate account?
  cases host.channels.connection? destinationPort destinationChannel with
  | none => simp
  | some connection => exact authenticate_eq_ok_iff

theorem handle_eq (packet : Packet) :
    host.handle packet = (do
      let ms ← Execution.ofResult (host.batchOf packet)
      host.execute packet.sourcePort packet.destinationPort packet.destinationChannel ms) := by
  unfold handle batchOf
  -- the questions are asked in the same order on both sides
  cases host.config.hostEnabled with
  | false => rfl
  | true =>
    rcases (JsonForm.parse? packet.data : Option Envelope) with _ | envelope
    · rfl
    · change (match envelope.type with | .executeTx => _ | other => _) = _
      dsimp only [if_true]
      cases envelope.type <;> rfl

theorem uniform_handle (packet : Packet) : Uniform (host.handle packet) := by
  rw [handle_eq]
  exact (Uniform.ofResult _).bind fun ms => host.uniform_execute _ _ _ ms

theorem handle_of_batchOf_error {packet : Packet} {cause : HostError} (s : State)
    (h : host.batchOf packet = .error cause) : host.handle packet s = (.error cause, s) := by
  rw [handle_eq, h, Execution.bind_apply]
  rfl

theorem handle_of_batchOf {packet : Packet} {ms : List M} (s : State)
    (h : host.batchOf packet = .ok ms) :
    host.handle packet s =
      host.execute packet.sourcePort packet.destinationPort packet.destinationChannel ms s := by
  rw [handle_eq, h, Execution.bind_apply]
  rfl

/-- Counting a packet changes neither the outcome of its batch nor the state that it leaves. -/
theorem receive_of_batchOf {packet : Packet} {ms : List M} (before : Session)
    (h : host.batchOf packet = .ok ms) :
    let received := (host.receive packet).run before
    let executed := host.execute packet.sourcePort packet.destinationPort packet.destinationChannel
      ms before.state
    received.1 = executed.1 ∧ received.2.state = executed.2 := by
  have hhandle := host.handle_of_batchOf before.state h
  exact ⟨congrArg Prod.fst hhandle, congrArg Prod.snd hhandle⟩

/-! ### Carrying a batch out -/

section Execute

variable {host} {sourcePort destinationPort : PortId} {destinationChannel : ChannelId}
  {ms : List M} {s : State}

variable (host sourcePort destinationPort destinationChannel ms) in
/-- A batch is looked at, carried out on a branch, and its results are encoded. -/
theorem execute_eq :
    host.execute sourcePort destinationPort destinationChannel ms = (do
      Execution.ofResult (host.gate sourcePort destinationPort destinationChannel ms)
      let results ← Execution.atomically (host.router.carryOut ms)
      Execution.ofResult (BatchResult.encode results)) := by
  unfold execute gate
  cases host.channels.connection? destinationPort destinationChannel with
  | none =>
    -- what would come after the refusal is never done
    funext s
    rw [Execution.bind_apply]
    rfl
  | some connection => rfl

theorem execute_of_gate
    (h : host.gate sourcePort destinationPort destinationChannel ms = .ok ()) :
    host.execute sourcePort destinationPort destinationChannel ms s =
      match Execution.atomically (host.router.carryOut ms) s with
      | (.ok results, s) => (BatchResult.encode results, s)
      | (.error cause, s) => (.error cause, s) := by
  rw [execute_eq, h, Execution.bind_apply]
  dsimp only [Execution.ofResult_apply]
  rw [Execution.bind_apply]
  rcases Execution.atomically (host.router.carryOut ms) s with ⟨_ | results, t⟩ <;> rfl

/-- A batch that is not admitted leaves the state alone. -/
theorem execute_of_gate_error {cause : HostError}
    (h : host.gate sourcePort destinationPort destinationChannel ms = .error cause) :
    host.execute sourcePort destinationPort destinationChannel ms s = (.error cause, s) := by
  rw [execute_eq, h, Execution.bind_apply]
  rfl

/-- A batch that meets an obstacle leaves the state alone, whatever was done before it was met. -/
theorem execute_of_obstacle {obstacle : Obstacle}
    (h : host.gate sourcePort destinationPort destinationChannel ms = .ok ())
    (hobstacle : (host.router.direct ms s).obstacle = some obstacle) :
    host.execute sourcePort destinationPort destinationChannel ms s =
      (.error (obstacle.toHostError (host.router.direct ms s).responses.length), s) := by
  have hanswer := (host.router.carryOut_direct ms (rfl : s.get = s.get)).1
  rw [DirectRun.answer_of_obstacle hobstacle] at hanswer
  rw [execute_of_gate h, (host.router.uniform_carryOut ms).atomically_of_error hanswer]

/-- A batch that meets no obstacle is committed, and answered with its encoded results. -/
theorem execute_of_through
    (h : host.gate sourcePort destinationPort destinationChannel ms = .ok ())
    (hthrough : (host.router.direct ms s).obstacle = none) :
    (host.execute sourcePort destinationPort destinationChannel ms s).1
        = BatchResult.encode (MessageResult.ofResponses ms (host.router.direct ms s).responses) ∧
      host.router.Commits ms s
        (host.execute sourcePort destinationPort destinationChannel ms s).2 := by
  obtain ⟨hanswer, hcommits⟩ := Router.commits_of_through hthrough
  rw [execute_of_gate h, ← Prod.eta (Execution.atomically _ s), hanswer]
  exact ⟨rfl, hcommits⟩

end Execute

/-! ### Which errors come too late -/

theorem isPostCommit_of_batchOf {packet : Packet} {cause : HostError}
    (h : host.batchOf packet = .error cause) : cause.isPostCommit = false := by
  unfold batchOf Registry.decode at h
  repeat' split at h
  all_goals cases h
  all_goals rfl

theorem isPostCommit_of_gate {sourcePort destinationPort : PortId}
    {destinationChannel : ChannelId} {ms : List M} {cause : HostError}
    (h : host.gate sourcePort destinationPort destinationChannel ms = .error cause) :
    cause.isPostCommit = false := by
  unfold gate authenticate at h
  repeat' split at h
  all_goals cases h
  all_goals rfl

end Host

theorem Obstacle.isPostCommit_toHostError (obstacle : Obstacle) (index : Nat) :
    (obstacle.toHostError index).isPostCommit = false := by
  cases obstacle <;> rfl

theorem BatchResult.isPostCommit_of_encode {results : List MessageResult} {cause : HostError}
    (h : BatchResult.encode results = .error cause) : cause.isPostCommit = true := by
  rw [BatchResult.encode_eq] at h
  split at h
  · cases h
  · cases h
    rfl

/-! ### Nothing or everything -/

namespace Host

variable (host : Host M)

/-- **A batch is committed or has not happened.** Either it is refused with an error that comes in
time, and the state is as it was, or it was admitted and is committed, and the answer is what
encoding its results gives. -/
theorem execute_untouched_or_commits (sourcePort destinationPort : PortId)
    (destinationChannel : ChannelId) (ms : List M) (s : State) :
    (∃ cause, cause.isPostCommit = false ∧
        host.execute sourcePort destinationPort destinationChannel ms s = (.error cause, s)) ∨
      host.gate sourcePort destinationPort destinationChannel ms = .ok () ∧
      (host.execute sourcePort destinationPort destinationChannel ms s).1
        = BatchResult.encode (MessageResult.ofResponses ms (host.router.direct ms s).responses) ∧
      host.router.Commits ms s
        (host.execute sourcePort destinationPort destinationChannel ms s).2 := by
  cases hgate : host.gate sourcePort destinationPort destinationChannel ms with
  | error cause =>
    -- nothing has been done yet
    exact .inl ⟨cause, host.isPostCommit_of_gate hgate, execute_of_gate_error hgate⟩
  | ok _ =>
    cases hobstacle : (host.router.direct ms s).obstacle with
    | some obstacle =>
      -- what has been done is gone with the branch
      exact .inl ⟨_, obstacle.isPostCommit_toHostError _, execute_of_obstacle hgate hobstacle⟩
    | none => exact .inr ⟨rfl, execute_of_through hgate hobstacle⟩

/-- The same of a packet, whose batch must also have been read. -/
theorem handle_untouched_or_commits (packet : Packet) (s : State) :
    (∃ cause, cause.isPostCommit = false ∧ host.handle packet s = (.error cause, s)) ∨
      ∃ ms, host.batchOf packet = .ok ms ∧
        host.gate packet.sourcePort packet.destinationPort packet.destinationChannel ms = .ok () ∧
        (host.handle packet s).1
          = BatchResult.encode
              (MessageResult.ofResponses ms (host.router.direct ms s).responses) ∧
        host.router.Commits ms s (host.handle packet s).2 := by
  cases hbatch : host.batchOf packet with
  | error cause =>
    exact .inl ⟨cause, host.isPostCommit_of_batchOf hbatch, host.handle_of_batchOf_error s hbatch⟩
  | ok ms =>
    rw [host.handle_of_batchOf s hbatch]
    exact (host.execute_untouched_or_commits _ _ _ ms s).imp_right fun h => ⟨ms, rfl, h⟩

/-- A host with one account, which is controlled over one channel and can only make transfers. -/
def ofOneAccount : Host where
  registry := Registry.empty.insert .send
  channels := Channels.empty.insert ⟨"icahost"⟩ ⟨"channel-0"⟩
    ⟨⟨"icacontroller"⟩, ⟨"channel-7"⟩, [⟨"connection-0"⟩]⟩
  accounts := Accounts.empty.insert ⟨"connection-0"⟩ ⟨"icacontroller"⟩ "ica1"
  config := .withAllowMessages [Message.Kind.send.typeUrl]
  router := Router.empty.withBank

/-- A packet to this host, in which the controller of the account asks for a batch. -/
def packetOfOneAccount (ms : List Message) (memo : String) : Packet where
  sequence := 1
  sourcePort := ⟨"icacontroller"⟩
  sourceChannel := ⟨"channel-7"⟩
  destinationPort := ⟨"icahost"⟩
  destinationChannel := ⟨"channel-0"⟩
  data := JsonForm.print (Envelope.execute (WireForm.write (Batch.ofMessages ms)) memo)

end Host

end RemoteAccount
