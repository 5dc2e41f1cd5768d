import RemoteAccount.Proofs.Uniform

/-!
# Branches are transactions

A branch is opened on a state, worked on, and closed by committing it or by discarding it. As long
as it is open, the state underneath is out of reach. What is done to a ledger is therefore a tree
(`Course`): acts on the current state, and brackets, each of which opens a branch, goes through a
course of its own on it, and closes it. Brackets may stand in brackets to any depth, and an act
(`Act`) is anything that can be done to a state, from reading a key to carrying out a whole batch.

`Course.run` goes through a course as it stands, with overlay upon overlay. The reference knows no
branches: `Course.kept` is the list of acts that is left when every committed bracket is erased, so
that what stands in it stays, and every discarded bracket is removed with all that stands in it, and
`Act.runAll` does these acts to the ledger itself.

`Course.transactional` says that the two cannot be told apart:

* the ledger ends up with the same store and the same events;
* every act, at any depth, is answered as it would be after the acts that have been done until then
  and have not been discarded (`Course.answers`). This is also true of acts in brackets that are
  discarded later.

The proof carries along that the current state *mirrors* the ledger of the direct run
(`Mirrors`): the same is read from both, and the events of all its layers together are the events of
that ledger.
-/

namespace RemoteAccount

/-! ### Acts -/

/-- One thing that is done to the current state. -/
inductive Act (M : Type) [ChainMessage M]
  | get (key : Bytes)
  | has (key : Bytes)
  | set (key value : Bytes)
  | delete (key : Bytes)
  | setBalance (address denom : String) (amount : Amount)
  | emit (events : List Event)
  /-- Carry out a transfer without a host. -/
  | send (t : Transfer)
  /-- Carry out one message, given its place in a batch. -/
  | dispatch (router : Router M) (index : Nat) (m : M)
  /-- Carry out a batch on a branch of its own. -/
  | execute (host : Host M) (sourcePort destinationPort : PortId) (destinationChannel : ChannelId)
      (ms : List M)

/-- What an act gives back. -/
inductive Answer
  | done
  | value (value : Option Bytes)
  | has (answer : Bool)
  | sent (outcome : Except OperationError Response)
  | carriedOut (outcome : Except HostError Bytes)

variable {M : Type} [ChainMessage M]

namespace Act

def run : Act M → State → Answer × State
  | .get key, s => (.value (s.get key), s)
  | .has key, s => (.has (s.has key), s)
  | .set key value, s => (.done, s.set key value)
  | .delete key, s => (.done, s.delete key)
  | .setBalance address denom amount, s => (.done, Bank.setBalance s address denom amount)
  | .emit events, s => (.done, s.emit events)
  | .send t, s =>
    let (outcome, s) := (Bank.send t).run.run s
    (.sent outcome, s)
  | .dispatch router index m, s =>
    let (outcome, s) := router.dispatch index m s
    (.carriedOut outcome, s)
  | .execute host sourcePort destinationPort destinationChannel ms, s =>
    let (outcome, s) := host.execute sourcePort destinationPort destinationChannel ms s
    (.carriedOut outcome, s)

/-- Do one thing after another to a state, without any branches. -/
def runAll (acts : List (Act M)) (s : State) : State :=
  acts.foldl (fun s a => (a.run s).2) s

theorem runAll_append (acts more : List (Act M)) (s : State) :
    runAll (acts ++ more) s = runAll more (runAll acts s) :=
  List.foldl_append

theorem uniform_run (a : Act M) : Uniform a.run := by
  cases a with
  | get key => exact .read fun get => Answer.value (get key)
  | has key => exact .read fun get => Answer.has (get key).isSome
  | set key value => exact .change _ _
  | delete key => exact .change _ _
  | setBalance address denom amount => exact .change _ _
  | emit events => exact .change _ _
  | send t => exact (Uniform.run (Bank.send t).run).map Answer.sent
  | dispatch router index m => exact (router.uniform_dispatch index m).map Answer.carriedOut
  | execute host sourcePort destinationPort destinationChannel ms =>
    exact (host.uniform_execute sourcePort destinationPort destinationChannel ms).map
      Answer.carriedOut

theorem parent?_runAll (acts : List (Act M)) (s : State) :
    (runAll acts s).parent? = s.parent? := by
  induction acts generalizing s with
  | nil => rfl
  | cons a acts ih =>
    have hrest := ih (a.run s).2
    exact hrest.trans (a.uniform_run.parent? s)

end Act

/-! ### Courses -/

/-- What is done from one state on, with every branch that is opened closed again. -/
inductive Course (M : Type) [ChainMessage M]
  | done
  | act (a : Act M) (rest : Course M)
  /-- Open a branch, go through a course on it, and commit it. -/
  | committed (inner rest : Course M)
  /-- Open a branch, go through a course on it, and discard it. -/
  | discarded (inner rest : Course M)

namespace Course

/-- Go through a course. The answers stand in the order of the acts, those in brackets included. -/
def run : Course M → State → List Answer × State
  | .done, s => ([], s)
  | .act a rest, s =>
    let (answer, s) := a.run s
    let (answers, s) := rest.run s
    (answer :: answers, s)
  | .committed inner rest, s =>
    let (within, b) := inner.run s.fork
    let (answers, s) := rest.run b.commit
    (within ++ answers, s)
  | .discarded inner rest, s =>
    let (within, b) := inner.run s.fork
    let (answers, s) := rest.run b.discard
    (within ++ answers, s)

/-- The acts that are not discarded, in their order. -/
def kept : Course M → List (Act M)
  | .done => []
  | .act a rest => a :: rest.kept
  | .committed inner rest => inner.kept ++ rest.kept
  | .discarded _ rest => rest.kept

/-- What the acts of a course would give back to somebody who had done to `s` the acts `before` it,
and of the course itself whatever has not been discarded when the act is done. -/
def answers (s : State) (before : List (Act M)) : Course M → List Answer
  | .done => []
  | .act a rest => (a.run (Act.runAll before s)).1 :: rest.answers s (before ++ [a])
  | .committed inner rest => inner.answers s before ++ rest.answers s (before ++ inner.kept)
  | .discarded inner rest => inner.answers s before ++ rest.answers s before

end Course

/-! ### Mirroring -/

/-- The invariant: a state, seen through all of its layers, is as the state of the direct run. -/
structure Mirrors (s direct : State) : Prop where
  /-- The same is read from both. -/
  get : s.get = direct.get
  /-- The events of all layers are the same, in the same order. -/
  stream : s.stream = direct.stream

namespace Mirrors

variable {s direct : State}

theorem refl (s : State) : Mirrors s s := ⟨rfl, rfl⟩

/-- An act is answered alike on both, and they mirror each other afterwards. -/
theorem act (h : Mirrors s direct) (a : Act M) :
    (a.run s).1 = (a.run direct).1 ∧ Mirrors (a.run s).2 (a.run direct).2 := by
  have huniform := a.uniform_run
  obtain ⟨es, hs, hdirect⟩ := huniform.events h.get
  refine ⟨huniform.answer h.get, huniform.get h.get, ?_⟩
  rw [State.stream_of_events (huniform.parent? s) hs,
    State.stream_of_events (huniform.parent? direct) hdirect, h.stream]

/-- Opening a branch changes nothing that can be seen through the layers. -/
theorem fork (h : Mirrors s direct) : Mirrors s.fork direct where
  get := (State.get_fork_eq s).trans h.get
  stream := (State.stream_fork s).trans h.stream

theorem commit (h : Mirrors s direct) : Mirrors s.commit direct where
  get := (State.get_commit_eq s).trans h.get
  stream := (State.stream_commit s).trans h.stream

end Mirrors

/-! ### The simulation -/

namespace Course

theorem parent?_run (c : Course M) (s : State) : (c.run s).2.parent? = s.parent? := by
  induction c generalizing s with
  | done => rfl
  | act a rest ih => exact (ih _).trans (a.uniform_run.parent? s)
  | committed inner rest ihinner ihrest =>
    have hopen : (inner.run s.fork).2.parent? = some s := ihinner s.fork
    exact (ihrest _).trans (State.parent?_commit hopen)
  | discarded inner rest ihinner ihrest =>
    have hopen : (inner.run s.fork).2.parent? = some s := ihinner s.fork
    refine (ihrest _).trans ?_
    rw [State.discard_of_parent? hopen]

/-- A branch that is discarded after a course gives back the state on which it was opened. -/
theorem discard_run_fork (c : Course M) (s : State) : (c.run s.fork).2.discard = s :=
  State.discard_of_parent? (c.parent?_run s.fork)

/-- **The simulation.** A course that starts from a state which mirrors the direct run gives the
answers of the direct run, and its state mirrors the direct run again when its kept acts have been
done there. -/
theorem run_mirrors (c : Course M) {s start : State} {before : List (Act M)}
    (h : Mirrors s (Act.runAll before start)) :
    (c.run s).1 = c.answers start before ∧
      Mirrors (c.run s).2 (Act.runAll (before ++ c.kept) start) := by
  induction c generalizing s before with
  | done =>
    refine ⟨rfl, ?_⟩
    rw [kept, List.append_nil]
    exact h
  | act a rest ih =>
    -- the act joins those that have been done before
    obtain ⟨hanswer, hact⟩ := h.act a
    have hbefore : Act.runAll (before ++ [a]) start = (a.run (Act.runAll before start)).2 :=
      Act.runAll_append before [a] start
    obtain ⟨hanswers, hrest⟩ := ih (hbefore ▸ hact)
    refine ⟨?_, ?_⟩
    · exact congrArg₂ List.cons hanswer hanswers
    · rw [kept, ← List.singleton_append, ← List.append_assoc]
      exact hrest
  | committed inner rest ihinner ihrest =>
    -- the branch mirrors the direct run when it is opened, all the while, and when it is committed
    obtain ⟨hwithin, hinner⟩ := ihinner h.fork
    obtain ⟨hanswers, hrest⟩ := ihrest hinner.commit
    refine ⟨?_, ?_⟩
    · exact congrArg₂ (· ++ ·) hwithin hanswers
    · rw [kept, ← List.append_assoc]
      exact hrest
  | discarded inner rest ihinner ihrest =>
    -- what was done on the branch is answered as if it were kept, and then it is gone
    obtain ⟨hwithin, -⟩ := ihinner h.fork
    have hdiscard : Mirrors (inner.run s.fork).2.discard (Act.runAll before start) := by
      rw [inner.discard_run_fork s]
      exact h
    obtain ⟨hanswers, hrest⟩ := ihrest hdiscard
    refine ⟨?_, hrest⟩
    exact congrArg₂ (· ++ ·) hwithin hanswers

/-- **Branches are transactions.** A course that is gone through on a ledger leaves a ledger with
the store and the events that its kept acts leave when they are done to the ledger itself; and each
of its acts, at whatever depth, gives back what it would give back after the acts that have been
done and not been discarded until then. -/
theorem transactional (c : Course M) (l : Ledger) :
    (c.run (.ledger l)).1 = c.answers (.ledger l) [] ∧
      ∃ left direct : Ledger,
        (c.run (.ledger l)).2 = .ledger left ∧
        Act.runAll c.kept (.ledger l) = .ledger direct ∧
        left.store = direct.store ∧ left.events = direct.events := by
  have hstart : Mirrors (.ledger l) (Act.runAll ([] : List (Act M)) (.ledger l)) :=
    Mirrors.refl (.ledger l)
  obtain ⟨hanswers, hmirrors⟩ := c.run_mirrors hstart
  rw [List.nil_append] at hmirrors
  refine ⟨hanswers, ?_⟩
  -- both have ended where they have started, in a state that is over nothing
  obtain ⟨left, hleft⟩ := State.exists_ledger (c.parent?_run (.ledger l))
  obtain ⟨direct, hdirect⟩ := State.exists_ledger (Act.parent?_runAll c.kept (.ledger l))
  rw [hleft, hdirect] at hmirrors
  -- between ledgers, mirroring is equality of stores and of events
  have hstore : State.store (.ledger left) = State.store (.ledger direct) :=
    State.store_inj.2 hmirrors.get
  have hevents : left.events.toList = direct.events.toList := hmirrors.stream
  exact ⟨left, direct, hleft, hdirect, hstore, Array.toList_inj.1 hevents⟩

/-- A deletion hides a value two layers below, moves down one layer, and is forgotten there. -/
example :
    let inner : Course Message := .act (.delete [1]) (.act (.get [1]) .done)
    let outer : Course Message := .committed inner (.act (.has [1]) .done)
    let c : Course Message := .act (.set [1] [7]) (.discarded outer (.act (.get [1]) .done))
    (c.run (.ledger .empty)).1 = [.done, .done, .value none, .has false, .value (some [7])] := by
  rfl

end Course

end RemoteAccount
