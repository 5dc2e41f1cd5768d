import RemoteAccount.Host
import RemoteAccount.Proofs.Layers

/-!
# Actions that see the store alone

An action on a state gives an answer and a new state. It is *uniform* (`Uniform`) if all that it
makes of a state is settled by what can be read from it: on two states with the same reads, one of
them a ledger and the other a branch three layers up, it gives the same answer, leaves the same
reads, and adds the same events to those that were there. It leaves the layers as they are.

Uniform actions are closed under everything that programs and executions are made of: reading and
writing (`Uniform.read`, `Uniform.change`), doing one thing after another (`Uniform.andThen`,
`Uniform.bind`), and doing something on a branch (`Uniform.atomically`). A handler is a program, so
it is uniform whatever it does (`Uniform.run`), and with it dispatching a message, carrying out a
batch (`Host.uniform_execute`), and so on up to handling a packet.

What this is for is `Uniform.atomically_of_ok`: a uniform execution comes out on a branch as it
comes out in place, and committing the branch leaves what it would have left in place.
-/

namespace RemoteAccount

/-- An action whose answer, writes and events depend on the reads of the state alone. -/
structure Uniform {α : Type} (x : State → α × State) : Prop where
  /-- The layers stay as they are. -/
  parent? (s : State) : (x s).2.parent? = s.parent?
  /-- The answer is settled by the reads. -/
  answer {s t : State} (h : s.get = t.get) : (x s).1 = (x t).1
  /-- The reads afterwards are settled by the reads before. -/
  get {s t : State} (h : s.get = t.get) : (x s).2.get = (x t).2.get
  /-- Events are added to those there are, and which is settled by the reads. -/
  events {s t : State} (h : s.get = t.get) :
    ∃ es, (x s).2.events.toList = s.events.toList ++ es ∧
      (x t).2.events.toList = t.events.toList ++ es

namespace Uniform

variable {α β : Type}

/-- The answer may be taken from any state with the same reads. -/
theorem eq_mk {x : State → α × State} (hx : Uniform x) {s t : State} (h : s.get = t.get) :
    x s = ((x t).1, (x s).2) :=
  Prod.ext (hx.answer h) rfl

/-! ### Closure -/

/-- An action that leaves the state alone and answers from what it reads. -/
theorem read (f : (Bytes → Option Bytes) → α) : Uniform fun s => (f s.get, s) where
  parent? _ := rfl
  answer h := congrArg f h
  get h := h
  events _ := ⟨[], by simp, by simp⟩

theorem const (a : α) : Uniform fun s => (a, s) :=
  read fun _ => a

theorem change (a : α) (c : Change) : Uniform fun s => (a, s.apply c) where
  parent? s := s.parent?_apply c
  answer _ := rfl
  get h := State.get_apply_congr h c
  events {s t} _ := by
    cases c with
    | write key value => exact ⟨[], by simp, by simp⟩
    | emit es => exact ⟨es, s.events_apply_emit es, t.events_apply_emit es⟩

theorem andThen {x : State → α × State} {f : α → State → β × State} (hx : Uniform x)
    (hf : ∀ a, Uniform (f a)) : Uniform fun s => f (x s).1 (x s).2 where
  parent? s := ((hf _).parent? _).trans (hx.parent? s)
  answer {s t} h := by
    rw [hx.answer h]
    exact (hf _).answer (hx.get h)
  get {s t} h := by
    rw [hx.answer h]
    exact (hf _).get (hx.get h)
  events {s t} h := by
    -- The events of the second action follow those of the first.
    obtain ⟨es, hs, ht⟩ := hx.events h
    rw [hx.answer h]
    obtain ⟨es', hs', ht'⟩ := (hf (x t).1).events (hx.get h)
    exact ⟨es ++ es', by rw [hs', hs, List.append_assoc], by rw [ht', ht, List.append_assoc]⟩

/-- The same action with its answer put differently. -/
theorem map {x : State → α × State} (hx : Uniform x) (f : α → β) :
    Uniform fun s => (f (x s).1, (x s).2) :=
  hx.andThen fun a => const (f a)

/-! ### Programs and executions -/

/-- **Every program is uniform**, and so is every handler. -/
theorem run (p : Program α) : Uniform p.run := by
  -- Every step of a program is uniform, and what comes after it may depend on its answer.
  induction p with
  | pure result => exact const result
  | get key next ih => exact (read fun get => get key).andThen ih
  | write key value next ih => exact (change () (.write key value)).andThen ih

/-- A program emits nothing. -/
theorem events_run (p : Program α) (s : State) : (p.run s).2.events = s.events := by
  induction p generalizing s with
  | pure result => rfl
  | get key next ih => exact ih _ _
  | write key value next ih => exact (ih _ _).trans (s.events_apply_write key value)

theorem bind {x : Execution α} {f : α → Execution β} (hx : Uniform x) (hf : ∀ a, Uniform (f a)) :
    Uniform (x >>= f : Execution β) := by
  -- A failure is followed by something as well, which hands it on and does nothing.
  have h := hx.andThen (f := fun
    | .ok a => f a
    | .error cause => fun s => (.error cause, s)) fun
    | .ok a => hf a
    | .error cause => const (Except.error cause)
  convert h using 2 with s
  rw [Execution.bind_apply]
  rcases x s with ⟨_ | a, t⟩ <;> rfl

theorem pure (a : α) : Uniform (pure a : Execution α) :=
  const (Except.ok a)

theorem throw (cause : HostError) : Uniform (throw cause : Execution α) :=
  const (Except.error cause)

theorem ofResult (result : Except HostError α) : Uniform (Execution.ofResult result) :=
  const result

theorem emit (es : List Event) : Uniform (Execution.emit es) := change _ _

theorem ofProgram (onFailure : OperationError → HostError) (p : StoreM α) :
    Uniform (Execution.ofProgram onFailure p) := by
  have h := (run p.run).map (Except.mapError onFailure)
  convert h using 2 with s
  rw [Execution.ofProgram]
  rcases p.run.run s with ⟨_ | a, t⟩ <;> rfl

/-- Doing something on a branch, in terms of what it would do there: on success the branch is
committed, and on failure the state is as it was. -/
theorem atomically_eq {x : Execution α} (hx : Uniform x) (s : State) :
    Execution.atomically x s = match x s.fork with
      | (.ok a, b) => (.ok a, b.commit)
      | (.error cause, _) => (.error cause, s) := by
  have hparent := hx.parent? s.fork
  rw [Execution.atomically, ExceptT.run]
  rcases h : x s.fork with ⟨cause | a, b⟩
  · -- whatever has been done, the branch is still over `s`
    rw [h] at hparent
    exact congrArg (Prod.mk _) (State.discard_of_parent? hparent)
  · rfl

/-- An execution that fails in place fails on a branch, and the state is as it was. -/
theorem atomically_of_error {x : Execution α} (hx : Uniform x) {s : State} {cause : HostError}
    (h : (x s).1 = .error cause) : Execution.atomically x s = (.error cause, s) := by
  have hbranch : (x s.fork).1 = .error cause := (hx.answer (State.get_fork_eq s)).trans h
  rw [hx.atomically_eq, ← Prod.eta (x s.fork), hbranch]

/-- **A branch comes out as in place.** An execution that succeeds in place gives the same answer on
a branch, and committing the branch leaves the reads and the events that it would have left in
place. -/
theorem atomically_of_ok {x : Execution α} (hx : Uniform x) {s : State} {a : α}
    (h : (x s).1 = .ok a) :
    (Execution.atomically x s).1 = .ok a ∧
      (Execution.atomically x s).2.get = (x s).2.get ∧
      (Execution.atomically x s).2.events.toList = (x s).2.events.toList := by
  have hbranch : (x s.fork).1 = .ok a := (hx.answer (State.get_fork_eq s)).trans h
  have hget : (x s.fork).2.get = (x s).2.get := hx.get (State.get_fork_eq s)
  have hparent : (x s.fork).2.parent? = some s := hx.parent? s.fork
  obtain ⟨es, hfork, hplace⟩ := hx.events (State.get_fork_eq s)
  rw [hx.atomically_eq, ← Prod.eta (x s.fork), hbranch]
  refine ⟨rfl, (State.get_commit_eq _).trans hget, ?_⟩
  -- the branch was opened without events, so it holds those of the execution alone
  rw [State.events_fork] at hfork
  dsimp only
  rw [State.events_commit hparent, hfork, hplace]
  rfl

theorem parent?_atomically {x : Execution α} (hx : Uniform x) (s : State) :
    (Execution.atomically x s).2.parent? = s.parent? := by
  have hparent := hx.parent? s.fork
  rw [hx.atomically_eq]
  rcases h : x s.fork with ⟨cause | a, b⟩
  · rfl
  · rw [h] at hparent
    exact State.parent?_commit hparent

theorem atomically {x : Execution α} (hx : Uniform x) : Uniform (Execution.atomically x) where
  parent? := hx.parent?_atomically
  answer {s t} h := by
    have hsame : (x s).1 = (x t).1 := hx.answer h
    cases ht : (x t).1 with
    | error cause => rw [hx.atomically_of_error (hsame.trans ht), hx.atomically_of_error ht]
    | ok a => rw [(hx.atomically_of_ok (hsame.trans ht)).1, (hx.atomically_of_ok ht).1]
  get {s t} h := by
    have hsame : (x s).1 = (x t).1 := hx.answer h
    cases ht : (x t).1 with
    | error cause =>
      rw [hx.atomically_of_error (hsame.trans ht), hx.atomically_of_error ht]
      exact h
    | ok a =>
      rw [(hx.atomically_of_ok (hsame.trans ht)).2.1, (hx.atomically_of_ok ht).2.1]
      exact hx.get h
  events {s t} h := by
    have hsame : (x s).1 = (x t).1 := hx.answer h
    cases ht : (x t).1 with
    | error cause =>
      -- nothing has been added to either
      rw [hx.atomically_of_error (hsame.trans ht), hx.atomically_of_error ht]
      exact ⟨[], (List.append_nil _).symm, (List.append_nil _).symm⟩
    | ok a =>
      rw [(hx.atomically_of_ok (hsame.trans ht)).2.2, (hx.atomically_of_ok ht).2.2]
      exact hx.events h

end Uniform

/-! ### Batches and packets -/

variable {M : Type} [ChainMessage M]

theorem Router.uniform_dispatch (router : Router M) (index : Nat) (m : M) :
    Uniform (router.dispatch index m) := by
  unfold Router.dispatch
  split
  · exact .throw _
  · exact (Uniform.ofProgram _ _).bind fun response => (Uniform.emit _).bind fun _ => .pure _

theorem Router.uniform_carryOutOne (router : Router M) (index : Nat) (m : M) :
    Uniform (router.carryOutOne index m) := by
  unfold Router.carryOutOne
  split
  · exact .throw _
  · exact (router.uniform_dispatch index m).bind fun _ => .pure _

theorem Router.uniform_carryOutFrom (router : Router M) (index : Nat) (done : List MessageResult)
    (ms : List M) : Uniform (router.carryOutFrom index done ms) := by
  induction ms generalizing index done with
  | nil => exact .pure _
  | cons m ms ih => exact (router.uniform_carryOutOne index m).bind fun _ => ih _ _

theorem Router.uniform_carryOut (router : Router M) (ms : List M) :
    Uniform (router.carryOut ms) :=
  router.uniform_carryOutFrom 0 [] ms

theorem Host.uniform_execute (host : Host M) (sourcePort destinationPort : PortId)
    (destinationChannel : ChannelId) (ms : List M) :
    Uniform (host.execute sourcePort destinationPort destinationChannel ms) := by
  unfold Host.execute
  split
  · exact .throw _
  · exact (Uniform.ofResult _).bind fun _ =>
      (host.router.uniform_carryOut ms).atomically.bind fun _ => .ofResult _

end RemoteAccount
