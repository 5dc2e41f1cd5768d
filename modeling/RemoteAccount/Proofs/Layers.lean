import Mathlib.Data.List.Basic
import RemoteAccount.State.Basic

/-!
# Layers of a state

A state is a ledger with a number of branches over it. This module says what each operation on a
state does to the four things that can be told of it: what is read from it (`State.get`), its own
events, its journal, and the state underneath (`State.parent?`). A change touches the top layer
alone (`parent?_apply`); opening a branch and closing it are the only ways to move between layers.

`State.store` is the store as it can be read through all layers, as one finite map:

* `getElem?_store` — it holds under each key what is read from the state;
* `store_inj` — two states have the same store when the same is read from them under every key.

Of a branch over `p`, closing it by `State.commit` gives `p` the reads of the branch
(`State.get_commit`) and lets its events follow those of `p` (`events_commit`), whatever lies below
(`parent?_commit`); closing it by `State.discard` gives `p` back (`discard_of_parent?`).
-/

namespace RemoteAccount

/-! ### Stores -/

/-- Of writes to different keys, the one to this key is found in the store. -/
theorem Store.getElem?_foldl_write (store : Store) {writes : List (Bytes × Option Bytes)}
    (h : writes.Pairwise (·.1 ≠ ·.1)) (k : Bytes) :
    (writes.foldl (fun store w => store.write w.1 w.2) store)[k]? =
      ((writes.find? (·.1 = k)).map (·.2)).getD store[k]? := by
  -- A ledger with this store takes the writes one by one, and its reads are known.
  have hstep : ∀ (writes : List (Bytes × Option Bytes)) (l : Ledger),
      ((State.ledger l).applyAll (writes.map fun w => .write w.1 w.2)).get k
        = (writes.foldl (fun store w => store.write w.1 w.2) l.store)[k]? := by
    intro writes
    induction writes with
    | nil => exact fun _ => rfl
    | cons w writes ih => exact fun l => ih (l.apply (.write w.1 w.2))
  have hread := State.get_applyAll_write (.ledger ⟨store, #[], #[]⟩) h k
  exact (hstep writes ⟨store, #[], #[]⟩).symm.trans hread

namespace State

/-- The store as it can be read through all layers of a state. -/
def store : State → Store
  | .ledger l => l.store
  | .branch parent overlay =>
    overlay.writes.toList.foldl (fun store w => store.write w.1 w.2) parent.store

/-- **The store holds what is read.** -/
theorem getElem?_store (s : State) (k : Bytes) : s.store[k]? = s.get k := by
  induction s with
  | ledger l => rfl
  | branch parent overlay ih =>
    have hkeys : overlay.writes.toList.Pairwise (·.1 ≠ ·.1) :=
      overlay.writes.distinct_keys_toList.imp fun h => by simpa using h
    have hcommit := get_commit (.branch parent overlay) k
    -- What is read from a branch is what its parent would hold if the branch were committed.
    change ((parent.apply (.emit overlay.events.toList)).applyAll _).get k = _ at hcommit
    rw [get_applyAll_write _ hkeys, get_apply_emit] at hcommit
    rw [store, Store.getElem?_foldl_write _ hkeys, ih, hcommit]

/-- States from which the same is read have the same store. -/
theorem store_inj {s t : State} : s.store = t.store ↔ s.get = t.get := by
  constructor
  · intro h
    funext k
    rw [← getElem?_store, h, getElem?_store]
  · intro h
    refine Std.ExtTreeMap.ext_getElem? fun k => ?_
    rw [getElem?_store, getElem?_store, h]

/-! ### Changes -/

variable {s t p : State}

@[simp] theorem parent?_apply (s : State) (c : Change) : (s.apply c).parent? = s.parent? := by
  cases s <;> rfl

@[simp] theorem journal_apply (s : State) (c : Change) :
    (s.apply c).journal = s.journal.push c := by
  cases s with
  | ledger l => exact l.journal_apply c
  | branch parent overlay => exact overlay.journal_apply c

@[simp] theorem events_apply_write (s : State) (key : Bytes) (value : Option Bytes) :
    (s.apply (.write key value)).events = s.events := by
  cases s <;> rfl

@[simp] theorem events_apply_emit (s : State) (es : List Event) :
    (s.apply (.emit es)).events.toList = s.events.toList ++ es := by
  cases s <;> simp [apply, Ledger.apply, Overlay.apply, events]

/-- What is read after a change depends on what was read before it alone. -/
theorem get_apply_congr (h : s.get = t.get) (c : Change) : (s.apply c).get = (t.apply c).get := by
  funext k
  cases c with
  | write key value => rw [get_apply_write, get_apply_write, h]
  | emit es => rw [get_apply_emit, get_apply_emit, h]

@[simp] theorem parent?_applyAll (s : State) (cs : List Change) :
    (s.applyAll cs).parent? = s.parent? := by
  induction cs generalizing s with
  | nil => rfl
  | cons c cs ih => exact (ih (s.apply c)).trans (s.parent?_apply c)

@[simp] theorem journal_applyAll (s : State) (cs : List Change) :
    (s.applyAll cs).journal = s.journal ++ cs := by
  induction cs generalizing s with
  | nil => simp [applyAll]
  | cons c cs ih =>
    refine (ih (s.apply c)).trans ?_
    rw [journal_apply]
    simp

theorem events_applyAll_write (s : State) (writes : List (Bytes × Option Bytes)) :
    (s.applyAll (writes.map fun (key, value) => .write key value)).events = s.events := by
  induction writes generalizing s with
  | nil => rfl
  | cons w writes ih =>
    exact (ih (s.apply (.write w.1 w.2))).trans (s.events_apply_write w.1 w.2)

/-! ### Branches -/

@[simp] theorem events_fork (s : State) : s.fork.events = #[] := rfl

/-- What is read from a fresh branch is what is read from the state it is over. -/
theorem get_fork_eq (s : State) : s.fork.get = s.get :=
  funext s.get_fork

theorem exists_overlay (h : s.parent? = some p) : ∃ overlay, s = .branch p overlay := by
  cases s with
  | ledger l => cases h
  | branch parent overlay =>
    cases h
    exact ⟨overlay, rfl⟩

/-- What is read after a branch has been committed is what was read from the branch. -/
theorem get_commit_eq (s : State) : s.commit.get = s.get :=
  funext s.get_commit

/-- **The events of a branch follow those of its parent** when it is committed. -/
theorem events_commit (h : s.parent? = some p) :
    s.commit.events.toList = p.events.toList ++ s.events.toList := by
  obtain ⟨overlay, rfl⟩ := exists_overlay h
  -- The events are emitted first, and the writes that follow add none.
  change ((p.apply (.emit overlay.events.toList)).applyAll
    (overlay.writes.toList.map _)).events.toList = _
  rw [events_applyAll_write, events_apply_emit]
  rfl

/-- Committing a branch reaches its parent and nothing below. -/
theorem parent?_commit (h : s.parent? = some p) : s.commit.parent? = p.parent? := by
  obtain ⟨overlay, rfl⟩ := exists_overlay h
  exact parent?_applyAll p overlay.changes

theorem discard_of_parent? (h : s.parent? = some p) : s.discard = p := by
  obtain ⟨overlay, rfl⟩ := exists_overlay h
  rfl

theorem exists_ledger (h : s.parent? = none) : ∃ l, s = .ledger l := by
  cases s with
  | ledger l => exact ⟨l, rfl⟩
  | branch parent overlay => cases h

/-! ### Events of all layers -/

/-- The events of all layers, those of the ledger first. -/
def stream : State → List Event
  | .ledger l => l.events.toList
  | .branch parent overlay => parent.stream ++ overlay.events.toList

@[simp] theorem stream_fork (s : State) : s.fork.stream = s.stream :=
  List.append_nil _

/-- Of states over the same parent, one has as many events more than the other in all layers as it
has more itself. -/
theorem stream_of_events {es : List Event} (hparent : t.parent? = s.parent?)
    (hevents : t.events.toList = s.events.toList ++ es) : t.stream = s.stream ++ es := by
  cases hs : s.parent? with
  | none =>
    -- the ledger has no other layer
    obtain ⟨l, rfl⟩ := exists_ledger hs
    obtain ⟨l', rfl⟩ := exists_ledger (hparent.trans hs)
    exact hevents
  | some p =>
    -- below they are the same state, so only the top layer counts
    obtain ⟨overlay, rfl⟩ := exists_overlay hs
    obtain ⟨overlay', rfl⟩ := exists_overlay (hparent.trans hs)
    change p.stream ++ overlay'.events.toList = p.stream ++ overlay.events.toList ++ es
    rw [List.append_assoc]
    exact congrArg (p.stream ++ ·) hevents

/-- Committing a branch moves its events one layer down, where they stand in the same place. -/
@[simp] theorem stream_commit (s : State) : s.commit.stream = s.stream := by
  cases s with
  | ledger l => rfl
  | branch parent overlay =>
    have hopen : (State.branch parent overlay).parent? = some parent := rfl
    exact stream_of_events (parent?_commit hopen) (events_commit hopen)

end State

end RemoteAccount
