import RemoteAccount.Bytes.Numeral

/-!
# Reading binary forms

A `Reader` takes a value off the front of a byte string and leaves the rest, or fails. Every number
has a fixed width and every sequence is preceded by its length, so a reader never has to look ahead.

* `Reader.take` takes a number of bytes, and fails if there are fewer.
* `Reader.times` repeats a reader, keeping what it has read in reverse, so that a long sequence
  needs no deep recursion. A length prefix that promises more than there is fails at the end of the
  bytes, however large it is.
* `Reader.whole?` reads a byte string to its end and refuses anything left over.

For each of the basic readers there is a lemma that says exactly when it succeeds: `take_eq_some`,
`nat_eq_some`, `ofOption_eq_some`, and `bind_eq_some` for one reader after another.
-/

namespace RemoteAccount

/-- A way to take a value off the front of a byte string. -/
abbrev Reader (α : Type) := StateT Bytes Option α

namespace Reader

variable {α β : Type}

def take (n : Nat) : Reader Bytes := fun bs =>
  let (front, rest) := bs.splitAt n
  if front.length = n then some (front, rest) else none

/-- Take a number of so many bytes, the least significant first. -/
def nat (width : Nat) : Reader Nat := do
  return Numeral.ofLittle (← take width)

/-- Go on with a value that may be missing. -/
def ofOption (a : Option α) : Reader α :=
  StateT.lift a

/-- Read `n` more values after those already read, which stand in reverse. -/
def times (read : Reader α) : Nat → List α → Reader (List α)
  | 0, done => fun bs => some (done.reverse, bs)
  | n + 1, done => fun bs => match read bs with
    | some (a, rest) => times read n (a :: done) rest
    | none => none

/-- Read a value that takes up the whole of a byte string. -/
def whole? (read : Reader α) (bs : Bytes) : Option α :=
  match read bs with
  | some (a, []) => some a
  | _ => none

/-! ### When readers succeed -/

@[simp] theorem pure_apply (a : α) (bs : Bytes) : (pure a : Reader α) bs = some (a, bs) := rfl

theorem bind_eq_some {r : Reader α} {f : α → Reader β} {bs rest : Bytes} {b : β} :
    (r >>= f) bs = some (b, rest) ↔
      ∃ a mid, r bs = some (a, mid) ∧ f a mid = some (b, rest) := by
  simp [bind, StateT.bind, Option.bind_eq_some_iff]

theorem map_eq_some {f : α → β} {r : Reader α} {bs rest : Bytes} {b : β} :
    (f <$> r) bs = some (b, rest) ↔ ∃ a, r bs = some (a, rest) ∧ f a = b := by
  simp [Functor.map, StateT.map, Option.bind_eq_some_iff]

theorem take_eq_some {n : Nat} {bs front rest : Bytes} :
    take n bs = some (front, rest) ↔ front.length = n ∧ bs = front ++ rest := by
  simp only [take, List.splitAt_eq]
  constructor
  · intro h
    split at h
    · next hl =>
      cases h
      exact ⟨hl, (List.take_append_drop n bs).symm⟩
    · cases h
  · rintro ⟨rfl, rfl⟩
    simp

/-- **A number is read** exactly where its numeral stands. -/
theorem nat_eq_some {width n : Nat} {bs rest : Bytes} :
    nat width bs = some (n, rest) ↔
      n < Numeral.capacity width ∧ bs = Numeral.little width n ++ rest := by
  simp only [nat, bind_eq_some, take_eq_some, pure_apply, Option.some.injEq, Prod.mk.injEq]
  constructor
  · rintro ⟨digits, mid, ⟨rfl, rfl⟩, rfl, rfl⟩
    exact ⟨Numeral.ofLittle_lt digits, by rw [Numeral.little_ofLittle]⟩
  · rintro ⟨h, rfl⟩
    exact ⟨_, _, ⟨Numeral.length_little .., rfl⟩, Numeral.ofLittle_little h, rfl⟩

theorem ofOption_eq_some {o : Option α} {a : α} {bs rest : Bytes} :
    ofOption o bs = some (a, rest) ↔ o = some a ∧ bs = rest := by
  cases o <;> simp [ofOption, StateT.lift, bind]

theorem whole?_eq_some {r : Reader α} {bs : Bytes} {a : α} :
    r.whole? bs = some a ↔ r bs = some (a, []) := by
  unfold whole?
  split <;> simp_all

end Reader

end RemoteAccount
