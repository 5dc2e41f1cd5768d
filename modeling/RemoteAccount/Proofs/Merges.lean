import Mathlib.Data.Finset.Card
import RemoteAccount.Proofs.Transactions

/-!
# What a merge does to the parent

Validators agree on more than the state they end up with: the changes that a branch makes in its
parent when it is committed come in the same order everywhere. This module says which they are. For
as long as a branch is open its parent is out of reach. Then it is given the events of the branch in
one change, even if there are none, and after that one write for each key that the branch has
written, in the order of the keys. What is written is what the last of the changes to this key has
written, be it a value or a deletion; it does not count whether the parent has the key.

Brackets on the branch do not show in this. A bracket that is committed stands for the changes in
it, and one that is discarded for nothing (`Course.kept`). What the branch has gathered after a
course is therefore told by the list of changes that the course keeps, and `Overlay.Gathers` says
how:

* `Overlay.Gathers.apply` — a change is added at the end of the list;
* `Overlay.Gathers.merge` — so are the changes of a bracket that is committed, although they come
  collapsed to one write for each key;
* `Course.gathers_run` — the invariant holds all along a course;
* `Course.merge_changes` — what this comes to when the branch is committed, and how many keys are
  pending until then.
-/

namespace RemoteAccount

/-- Byte strings that are compared as less are less in the order of their bytes. -/
theorem Bytes.lt_of_compare {as bs : Bytes} (h : compare as bs = .lt) : as < bs := by
  induction as generalizing bs with
  | nil =>
    cases bs with
    | nil => cases h
    | cons b bs => exact List.nil_lt_cons b bs
  | cons a as ih =>
    cases bs with
    | nil => cases h
    | cons b bs =>
      rw [List.compare_eq_compareLex, List.compareLex_cons_cons, Ordering.then_eq_lt] at h
      rw [List.cons_lt_cons_iff]
      rcases h with hfirst | ⟨hsame, hrest⟩
      · exact .inl (Std.compare_eq_lt.1 hfirst)
      · exact .inr ⟨Std.LawfulEqOrd.eq_of_compare hsame, ih hrest⟩

/-! ### Lists of changes -/

namespace Change

def events : Change → List Event
  | .write _ _ => []
  | .emit es => es

/-- The key that a change writes, if it writes one. -/
def key? : Change → Option Bytes
  | .write key _ => some key
  | .emit _ => none

/-- What a change writes under a key, if it writes this key. -/
def writeTo? (k : Bytes) : Change → Option (Option Bytes)
  | .write key value => if key = k then some value else none
  | .emit _ => none

theorem writeTo?_eq_some_iff {k : Bytes} {value : Option Bytes} {c : Change} :
    c.writeTo? k = some value ↔ c = .write k value := by
  cases c with
  | emit es => exact ⟨nofun, nofun⟩
  | write key v =>
    rw [writeTo?]
    by_cases h : key = k
    · rw [if_pos h, Option.some.injEq, write.injEq]
      exact ⟨fun hv => ⟨h, hv⟩, And.right⟩
    · rw [if_neg h, write.injEq]
      exact ⟨nofun, fun hboth => absurd hboth.1 h⟩

/-- The keys that changes write, in the order of the changes. -/
def writtenKeys (cs : List Change) : List Bytes :=
  cs.filterMap key?

theorem mem_writtenKeys {cs : List Change} {k : Bytes} :
    k ∈ writtenKeys cs ↔ ∃ value, .write k value ∈ cs := by
  rw [writtenKeys, List.mem_filterMap]
  constructor
  · rintro ⟨c, hc, hkey⟩
    cases c with
    | emit es => cases hkey
    | write key value =>
      cases hkey
      exact ⟨value, hc⟩
  · rintro ⟨value, hc⟩
    exact ⟨_, hc, rfl⟩

/-- **What the last change to a key** writes there. -/
def lastWrite? (cs : List Change) (k : Bytes) : Option (Option Bytes) :=
  cs.reverse.findSome? (writeTo? k)

theorem lastWrite?_append (cs cs' : List Change) (k : Bytes) :
    lastWrite? (cs ++ cs') k = (lastWrite? cs' k).or (lastWrite? cs k) := by
  rw [lastWrite?, List.reverse_append, List.findSome?_append, lastWrite?, lastWrite?]

theorem lastWrite?_singleton (c : Change) (k : Bytes) : lastWrite? [c] k = c.writeTo? k := by
  rw [lastWrite?, List.reverse_singleton, List.findSome?_singleton]

theorem lastWrite?_eq_some_iff {cs : List Change} {k : Bytes} {value : Option Bytes} :
    lastWrite? cs k = some value ↔
      ∃ earlier later, cs = earlier ++ .write k value :: later ∧
        ∀ other, .write k other ∉ later := by
  rw [lastWrite?, List.findSome?_eq_some_iff]
  constructor
  · rintro ⟨later, c, earlier, hsplit, hc, hlater⟩
    obtain rfl := writeTo?_eq_some_iff.1 hc
    refine ⟨earlier.reverse, later.reverse, ?_, ?_⟩
    · have hreverse := congrArg List.reverse hsplit
      rwa [List.reverse_reverse, List.reverse_append, List.reverse_cons, List.append_assoc,
        List.singleton_append] at hreverse
    · intro other hother
      have hnone := hlater _ (List.mem_reverse.1 hother)
      rw [writeTo?_eq_some_iff.2 rfl] at hnone
      cases hnone
  · rintro ⟨earlier, later, rfl, hlater⟩
    refine ⟨later.reverse, .write k value, earlier.reverse, ?_, writeTo?_eq_some_iff.2 rfl, ?_⟩
    · rw [List.reverse_append, List.reverse_cons, List.append_assoc, List.singleton_append]
    · intro c hc
      -- a later change to the key would be another last one
      cases hwrite : c.writeTo? k with
      | none => rfl
      | some other =>
        rw [writeTo?_eq_some_iff.1 hwrite] at hc
        exact absurd (List.mem_reverse.1 hc) (hlater other)

/-- A key has a last write exactly if it is written. -/
theorem isSome_lastWrite?_iff {cs : List Change} {k : Bytes} :
    (lastWrite? cs k).isSome = true ↔ k ∈ writtenKeys cs := by
  rw [mem_writtenKeys, lastWrite?, List.findSome?_isSome_iff]
  constructor
  · rintro ⟨c, hc, hsome⟩
    obtain ⟨value, hvalue⟩ := Option.isSome_iff_exists.1 hsome
    rw [writeTo?_eq_some_iff.1 hvalue] at hc
    exact ⟨value, List.mem_reverse.1 hc⟩
  · rintro ⟨value, hc⟩
    refine ⟨_, List.mem_reverse.2 hc, ?_⟩
    rw [writeTo?_eq_some_iff.2 rfl, Option.isSome_some]

end Change

open Change

/-! ### What an overlay has gathered -/

namespace Overlay

variable {overlay outer inner : Overlay} {cs cs' : List Change}

/-- **The invariant**: an overlay amounts to these changes. -/
structure Gathers (overlay : Overlay) (cs : List Change) : Prop where
  /-- All events are there, in their order. -/
  events : overlay.events.toList = cs.flatMap Change.events
  /-- For every key there is what the last change to it has written. -/
  writes (k : Bytes) : overlay.writes[k]? = lastWrite? cs k

theorem gathers_empty : empty.Gathers [] where
  events := rfl
  writes _ := Std.ExtTreeMap.getElem?_empty

namespace Gathers

/-- **A change** is added at the end. -/
theorem apply (h : overlay.Gathers cs) (c : Change) : (overlay.apply c).Gathers (cs ++ [c]) := by
  cases c with
  | emit es =>
    refine ⟨?_, fun k => ?_⟩
    · rw [List.flatMap_append, ← h.events]
      simp [Overlay.apply, Change.events]
    · rw [lastWrite?_append, lastWrite?_singleton]
      exact h.writes k
  | write key value =>
    refine ⟨?_, fun k => ?_⟩
    · rw [List.flatMap_append, ← h.events]
      exact (List.append_nil _).symm
    · rw [lastWrite?_append, lastWrite?_singleton, writeTo?, ← h.writes k]
      by_cases hk : key = k <;> simp [Overlay.apply, Std.ExtTreeMap.getElem?_insert, hk]

theorem applyAll (h : overlay.Gathers cs) (cs' : List Change) :
    (cs'.foldl Overlay.apply overlay).Gathers (cs ++ cs') := by
  induction cs' generalizing overlay cs with
  | nil =>
    rw [List.append_nil]
    exact h
  | cons c cs' ih =>
    have hrest := ih (h.apply c)
    rwa [List.append_assoc, List.singleton_append] at hrest

end Gathers

/-! ### What an overlay amounts to -/

/-- The writes of an overlay, in the order of their keys. -/
def entries (overlay : Overlay) : List (Bytes × Option Bytes) :=
  overlay.writes.toList

theorem changes_eq (overlay : Overlay) :
    overlay.changes = .emit overlay.events.toList ::
      overlay.entries.map fun entry => .write entry.1 entry.2 := rfl

theorem mem_entries {k : Bytes} {value : Option Bytes} :
    (k, value) ∈ overlay.entries ↔ overlay.writes[k]? = some value :=
  Std.ExtTreeMap.mem_toList_iff_getElem?_eq_some

/-- Keys stand in increasing order, so each of them stands there once. -/
theorem pairwise_entries (overlay : Overlay) : overlay.entries.Pairwise (·.1 < ·.1) :=
  overlay.writes.ordered_keys_toList.imp Bytes.lt_of_compare

theorem events_changes (overlay : Overlay) :
    overlay.changes.flatMap Change.events = overlay.events.toList := by
  have hnone : (overlay.entries.map fun entry => Change.write entry.1 entry.2).flatMap
      Change.events = [] := by
    rw [List.flatMap_map]
    exact List.flatMap_eq_nil_iff.2 fun _ _ => rfl
  rw [changes_eq, List.flatMap_cons, hnone, List.append_nil]
  rfl

/-- Among the changes of an overlay a key is written once, so its last write is its entry. -/
theorem lastWrite?_changes (overlay : Overlay) (k : Bytes) :
    lastWrite? overlay.changes k = overlay.writes[k]? := by
  -- each side is known by the values that it gives
  ext value
  rw [lastWrite?_eq_some_iff, ← mem_entries, changes_eq]
  constructor
  · rintro ⟨earlier, later, hsplit, -⟩
    have hmem : Change.write k value ∈ earlier ++ .write k value :: later :=
      List.mem_append_right _ List.mem_cons_self
    rw [← hsplit] at hmem
    rcases List.mem_cons.1 hmem with habs | hentry
    · cases habs
    · obtain ⟨entry, hin, heq⟩ := List.mem_map.1 hentry
      cases heq
      exact hin
  · intro hentry
    obtain ⟨front, back, hsplit⟩ := List.append_of_mem hentry
    have hordered := overlay.pairwise_entries
    rw [hsplit, List.pairwise_append] at hordered
    refine ⟨.emit overlay.events.toList :: front.map fun entry => .write entry.1 entry.2,
      back.map fun entry => .write entry.1 entry.2, ?_, ?_⟩
    · rw [hsplit, List.map_append, List.map_cons, List.cons_append]
    · intro other hother
      -- the keys that follow are greater
      obtain ⟨entry, hback, heq⟩ := List.mem_map.1 hother
      cases heq
      exact absurd ((List.pairwise_cons.1 hordered.2.1).1 _ hback) (List.lt_irrefl _)

/-- **A bracket that is committed** adds its changes at the end, collapsed as they are. -/
theorem Gathers.merge (h : outer.Gathers cs) (h' : inner.Gathers cs') :
    (inner.changes.foldl Overlay.apply outer).Gathers (cs ++ cs') := by
  have hmerged := h.applyAll inner.changes
  -- the collapsed changes have the events and the last writes of those that they stand for
  refine ⟨?_, fun k => ?_⟩
  · rw [hmerged.events, List.flatMap_append, List.flatMap_append, events_changes, h'.events]
  · rw [hmerged.writes, lastWrite?_append, lastWrite?_append, lastWrite?_changes, h'.writes]

/-- **The keys that are pending** are those that have been written. -/
theorem Gathers.pending_eq (h : overlay.Gathers cs) :
    overlay.pending = (writtenKeys cs).toFinset.card := by
  have hnodup : overlay.writes.keys.Nodup := by
    refine overlay.writes.distinct_keys.imp ?_
    rintro k _ hne rfl
    exact hne Std.ReflCmp.compare_self
  have hkeys : overlay.writes.keys.toFinset = (writtenKeys cs).toFinset := by
    ext k
    rw [List.mem_toFinset, List.mem_toFinset, Std.ExtTreeMap.mem_keys,
      Std.ExtTreeMap.mem_iff_isSome_getElem?, h.writes, isSome_lastWrite?_iff]
  rw [← hkeys, List.toFinset_card_of_nodup hnodup, Std.ExtTreeMap.length_keys, pending]

end Overlay

theorem State.applyAll_branch (p : State) (overlay : Overlay) (cs : List Change) :
    (State.branch p overlay).applyAll cs = .branch p (cs.foldl Overlay.apply overlay) := by
  induction cs generalizing overlay with
  | nil => rfl
  | cons c cs ih => exact ih (overlay.apply c)

/-! ### Courses on a branch -/

variable {M : Type} [ChainMessage M]

/-- The act that is nothing but a change. -/
def Act.ofChange : Change → Act M
  | .write key (some value) => .set key value
  | .write key none => .delete key
  | .emit es => .emit es

theorem Act.run_ofChange (c : Change) (s : State) :
    ((Act.ofChange c : Act M).run s).2 = s.apply c := by
  cases c with
  | emit es => rfl
  | write key value => cases value <;> rfl

namespace Course

/-- One course after the other. -/
def andThen : Course M → Course M → Course M
  | .done, back => back
  | .act a rest, back => .act a (rest.andThen back)
  | .committed inner rest, back => .committed inner (rest.andThen back)
  | .discarded inner rest, back => .discarded inner (rest.andThen back)

theorem kept_andThen (front back : Course M) :
    (front.andThen back).kept = front.kept ++ back.kept := by
  induction front with
  | done => rfl
  | act a rest ih => rw [andThen, kept, ih, kept, List.cons_append]
  | committed inner rest _ ih => rw [andThen, kept, ih, kept, List.append_assoc]
  | discarded inner rest _ ih => rw [andThen, kept, ih, kept]

/-- The second course is gone through where the first has led. -/
theorem state_andThen (front back : Course M) (s : State) :
    ((front.andThen back).run s).2 = (back.run (front.run s).2).2 := by
  induction front generalizing s with
  | done => rfl
  | act a rest ih => exact ih _
  | committed inner rest _ ih => exact ih _
  | discarded inner rest _ ih => exact ih _

/-- **The invariant holds all along a course.** What a branch has gathered is added to by the
changes that the course keeps, and nothing else has happened to it or to its parent. -/
theorem gathers_run (c : Course M) {p : State} {overlay : Overlay} {before changes : List Change}
    (hkept : c.kept = changes.map Act.ofChange) (h : overlay.Gathers before) :
    ∃ overlay' : Overlay, (c.run (.branch p overlay)).2 = .branch p overlay' ∧
      overlay'.Gathers (before ++ changes) := by
  -- the kept changes come apart where the course does
  induction c generalizing p overlay before changes with
  | done =>
    obtain rfl := List.map_eq_nil_iff.1 hkept.symm
    rw [List.append_nil]
    exact ⟨overlay, rfl, h⟩
  | act a rest ih =>
    obtain ⟨change, changes, rfl, rfl, hrest⟩ := List.map_eq_cons_iff.1 hkept.symm
    obtain ⟨overlay', hrun, hgathers⟩ := ih (p := p) hrest.symm (h.apply change)
    rw [List.append_assoc, List.singleton_append] at hgathers
    refine ⟨overlay', ?_, hgathers⟩
    rw [← hrun]
    exact congrArg (fun s => (rest.run s).2) (Act.run_ofChange change (.branch p overlay))
  | committed inner rest ihinner ihrest =>
    obtain ⟨within, changes, rfl, hinner, hrest⟩ := List.map_eq_append_iff.1 hkept.symm
    -- the bracket starts with nothing, over the branch as it is
    obtain ⟨gathered, hwithin, hgathered⟩ :=
      ihinner (p := .branch p overlay) hinner.symm Overlay.gathers_empty
    rw [List.nil_append] at hgathered
    obtain ⟨overlay', hrun, hgathers⟩ := ihrest (p := p) hrest.symm (h.merge hgathered)
    rw [List.append_assoc] at hgathers
    refine ⟨overlay', ?_, hgathers⟩
    have hcommit : (inner.run (State.branch p overlay).fork).2.commit
        = .branch p (gathered.changes.foldl Overlay.apply overlay) := by
      rw [State.fork, hwithin]
      exact State.applyAll_branch p overlay gathered.changes
    rw [← hrun, ← hcommit]
    rfl
  | discarded inner rest _ ihrest =>
    obtain ⟨overlay', hrun, hgathers⟩ := ihrest (p := p) hkept h
    refine ⟨overlay', ?_, hgathers⟩
    -- whatever has been done in the bracket, the branch is as it was
    have hdiscard := inner.discard_run_fork (.branch p overlay)
    rw [← hrun]
    exact congrArg (fun s => (rest.run s).2) hdiscard

/-- **What a merge does to the parent.** Let a course be gone through on a fresh branch over `s`,
and let what it keeps be these changes.

* Whenever the course has come to a point at which no bracket is open, the parent is still `s`, and
  as many keys are pending as have been written by the changes that have been kept until then.
* When the branch is committed, `s` is given all events in one change, and then writes to keys in
  increasing order. A value is written to a key, or the key deleted, exactly if this is what the
  last of the changes to the key has done.

As `s` may be a branch, all of this holds of an open bracket and the branch below it too: a bracket
does not reach this branch, let alone its parent, before it is committed. -/
theorem merge_changes (c : Course M) {changes : List Change}
    (hkept : c.kept = changes.map Act.ofChange) (s : State) :
    (∀ front back : Course M, c = front.andThen back →
      (c.run s.fork).2 = (back.run (front.run s.fork).2).2 ∧
        (front.run s.fork).2.parent? = some s ∧
        ∃ sofar, sofar <+: changes ∧ front.kept = sofar.map Act.ofChange ∧
          (front.run s.fork).2.pending = (writtenKeys sofar).toFinset.card) ∧
    ∃ writes : List (Bytes × Option Bytes),
      let given := Change.emit (changes.flatMap Change.events) ::
        writes.map fun entry => .write entry.1 entry.2
      (c.run s.fork).2.commit = s.applyAll given ∧
        (c.run s.fork).2.commit.journal.toList = s.journal.toList ++ given ∧
        writes.Pairwise (·.1 < ·.1) ∧
        ∀ k value, (k, value) ∈ writes ↔
          ∃ earlier later, changes = earlier ++ .write k value :: later ∧
            ∀ other, .write k other ∉ later := by
  constructor
  · rintro front back rfl
    refine ⟨front.state_andThen back s.fork, front.parent?_run s.fork, ?_⟩
    rw [kept_andThen] at hkept
    obtain ⟨sofar, rest, rfl, hfront, -⟩ := List.map_eq_append_iff.1 hkept.symm
    obtain ⟨overlay, hrun, hgathers⟩ :=
      front.gathers_run (p := s) hfront.symm Overlay.gathers_empty
    refine ⟨sofar, List.prefix_append sofar rest, hfront.symm, ?_⟩
    rw [State.fork, hrun]
    exact hgathers.pending_eq
  · obtain ⟨overlay, hrun, hgathers⟩ := c.gathers_run (p := s) hkept Overlay.gathers_empty
    rw [List.nil_append] at hgathers
    have hcommit : (c.run s.fork).2.commit = s.applyAll overlay.changes := by
      rw [State.fork, hrun]
      rfl
    rw [Overlay.changes_eq, hgathers.events] at hcommit
    refine ⟨overlay.entries, hcommit, ?_, overlay.pairwise_entries, ?_⟩
    · rw [hcommit, State.journal_applyAll, Array.toList_appendList]
    · intro k value
      rw [Overlay.mem_entries, hgathers.writes, lastWrite?_eq_some_iff]

/-- On a branch, one key is set and set again, and in a bracket a key is deleted that the parent
does not have. What is set in a bracket that is discarded within this bracket is not written. -/
theorem merge_changes_of_brackets :
    let first : Event := ⟨"first", []⟩
    let second : Event := ⟨"second", []⟩
    let inner : Course Message :=
      .act (.delete [1]) (.discarded (.act (.set [9] [9]) .done) (.act (.emit [first]) .done))
    let c : Course Message := .act (.set [2] [4]) (.committed inner
      (.act (.set [2] [5]) (.act (.emit [second]) .done)))
    ∃ writes : List (Bytes × Option Bytes),
      (c.run (State.ledger .empty).fork).2.commit.journal.toList =
        .emit [first, second] :: writes.map (fun entry => .write entry.1 entry.2) ∧
      ([1], none) ∈ writes ∧ ([2], some [5]) ∈ writes ∧ ([2], some [4]) ∉ writes ∧
      ∀ value, ([9], value) ∉ writes := by
  intro first second inner c
  let changes : List Change := [.write [2] (some [4]), .write [1] none, .emit [first],
    .write [2] (some [5]), .emit [second]]
  have hkept : c.kept = changes.map Act.ofChange := rfl
  obtain ⟨writes, -, hjournal, -, hwrites⟩ := (merge_changes c hkept (.ledger .empty)).2
  simp only [← lastWrite?_eq_some_iff] at hwrites
  refine ⟨writes, hjournal, (hwrites _ _).2 rfl, (hwrites _ _).2 rfl, ?_, ?_⟩
  · intro h
    exact absurd ((hwrites _ _).1 h) (by decide)
  · intro value h
    have hnone : lastWrite? changes [9] = none := rfl
    have hlast := (hwrites _ _).1 h
    rw [hnone] at hlast
    cases hlast

end Course

end RemoteAccount
