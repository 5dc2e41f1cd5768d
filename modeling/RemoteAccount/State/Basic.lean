import RemoteAccount.State.Ledger
import RemoteAccount.State.Overlay

/-!
# States

A state is a ledger, or a branch: an overlay over a parent, which is a state again. Changes to a
branch stay in its overlay. What is read from a branch is what its overlay says, and where it says
nothing, what the parent says; of events a branch shows only its own.

A branch ends in one of two ways. `State.commit` makes its changes in the parent, in the order of
`Overlay.changes`; `State.discard` gives the parent back as it was. Since the parent is part of the
branch, whatever happens on a branch can be undone.

* `get_apply_write`, `get_apply_emit` — a write is read back, at any depth, and nothing else is
  disturbed.
* `get_commit` — committing a branch changes nothing that could be read from it.
-/

namespace RemoteAccount

/-- A ledger, or a branch at some depth over one. -/
inductive State
  | ledger (ledger : Ledger)
  | branch (parent : State) (overlay : Overlay)

namespace State

def get : State → Bytes → Option Bytes
  | .ledger l, key => l.get key
  | .branch parent overlay, key => match overlay.writes[key]? with
    -- a deletion hides the value underneath
    | some value => value
    | none => parent.get key

def has (s : State) (key : Bytes) : Bool :=
  (s.get key).isSome

def apply : State → Change → State
  | .ledger l, change => .ledger (l.apply change)
  | .branch parent overlay, change => .branch parent (overlay.apply change)

def applyAll (s : State) (changes : List Change) : State :=
  changes.foldl apply s

def set (s : State) (key value : Bytes) : State :=
  s.apply (.write key (some value))

def delete (s : State) (key : Bytes) : State :=
  s.apply (.write key none)

def emit (s : State) (events : List Event) : State :=
  s.apply (.emit events)

/-- The events of a ledger, or those of a branch that its parent has not seen yet. -/
def events : State → Array Event
  | .ledger l => l.events
  | .branch _ overlay => overlay.events

/-- The changes a state has taken itself, in their order. What a branch has taken is not in the
journal of its parent. -/
def journal : State → Array Change
  | .ledger l => l.journal
  | .branch _ overlay => overlay.journal

/-- The state a branch is over. A ledger is over none. -/
def parent? : State → Option State
  | .ledger _ => none
  | .branch parent _ => some parent

/-- Open a branch. -/
def fork (s : State) : State :=
  .branch s .empty

/-- Close a branch and make its changes in the parent. A ledger has nothing to close. -/
def commit : State → State
  | .ledger l => .ledger l
  | .branch parent overlay => parent.applyAll overlay.changes

/-- Close a branch and forget its changes. A ledger has nothing to close. -/
def discard : State → State
  | .ledger l => .ledger l
  | .branch parent _ => parent

/-- How many keys a branch would write. A ledger has nothing pending. -/
def pending : State → Nat
  | .ledger _ => 0
  | .branch _ overlay => overlay.pending

/-! ### Reading after a change -/

@[simp] theorem get_fork (s : State) (key : Bytes) : s.fork.get key = s.get key := by
  simp [fork, get, Overlay.empty]

/-- **A write is read back**, and leaves every other key alone. -/
theorem get_apply_write (s : State) (key : Bytes) (value : Option Bytes) (k : Bytes) :
    (s.apply (.write key value)).get k = if key = k then value else s.get k := by
  cases s with
  | ledger l => exact l.store.getElem?_write key value k
  | branch parent overlay =>
    by_cases h : key = k <;> simp [apply, Overlay.apply, get, Std.ExtTreeMap.getElem?_insert, h]

@[simp] theorem get_apply_emit (s : State) (events : List Event) (k : Bytes) :
    (s.apply (.emit events)).get k = s.get k := by
  cases s <;> rfl

/-- Of writes to different keys, the one to this key is read back. -/
theorem get_applyAll_write (s : State) {writes : List (Bytes × Option Bytes)}
    (h : writes.Pairwise (·.1 ≠ ·.1)) (k : Bytes) :
    (s.applyAll (writes.map fun (key, value) => .write key value)).get k =
      ((writes.find? (·.1 = k)).map (·.2)).getD (s.get k) := by
  induction writes generalizing s with
  | nil => rfl
  | cons w writes ih =>
    obtain ⟨hw, h⟩ := List.pairwise_cons.1 h
    have ih := ih (s.apply (.write w.1 w.2)) h
    simp only [applyAll, List.map_cons, List.foldl_cons] at ih ⊢
    rw [ih, get_apply_write, List.find?_cons]
    by_cases hk : w.1 = k
    · -- No later write is to the same key, so none of them hides this one.
      have hnone : writes.find? (·.1 = k) = none :=
        List.find?_eq_none.2 fun v hv => by simpa [← hk] using (hw v hv).symm
      simp [hk, hnone]
    · simp [hk]

/-- **Committing a branch** changes nothing that could be read from it. -/
@[simp] theorem get_commit (s : State) (k : Bytes) : s.commit.get k = s.get k := by
  cases s with
  | ledger l => rfl
  | branch parent overlay =>
    -- An overlay holds a key once, so what the parent is written for `k` is one entry at most.
    have hkeys : overlay.writes.toList.Pairwise (·.1 ≠ ·.1) :=
      overlay.writes.distinct_keys_toList.imp fun h => by simpa using h
    have h := get_applyAll_write (parent.apply (.emit overlay.events.toList)) hkeys k
    simp only [commit, Overlay.changes, applyAll, List.foldl_cons] at h ⊢
    rw [h, get_apply_emit, get]
    -- The list of entries and the look-up by key have to agree on that entry.
    cases hw : overlay.writes[k]? with
    | none =>
      have hnone : overlay.writes.toList.find? (·.1 = k) = none :=
        List.find?_eq_none.2 fun w hw' hk => by
          have := Std.ExtTreeMap.mem_toList_iff_getElem?_eq_some.1 hw'
          simp_all
      simp [hnone]
    | some value =>
      have hmem := Std.ExtTreeMap.mem_toList_iff_getElem?_eq_some.2 hw
      obtain ⟨w, hfind⟩ := Option.isSome_iff_exists.1
        (List.find?_isSome.2 ⟨_, hmem, by simp⟩ : (overlay.writes.toList.find? (·.1 = k)).isSome)
      have hw' := Std.ExtTreeMap.mem_toList_iff_getElem?_eq_some.1
        (List.mem_of_find?_eq_some hfind)
      have hk : w.1 = k := by simpa using List.find?_some hfind
      rw [hk, hw] at hw'
      simp [hfind, Option.some.inj hw']

end State

end RemoteAccount
