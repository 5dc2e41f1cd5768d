import RemoteAccount.Bytes.Numeral

/-!
# Amounts

An amount of coins is a natural number that can be written with sixteen bytes. Sums and differences
of amounts are taken only where they are amounts again: `add?` refuses a sum that is too large, and
`sub?` a difference below zero, so money is neither created nor destroyed by a wrap.
-/

namespace RemoteAccount

/-- The number of different amounts. -/
def Amount.bound : Nat := Numeral.capacity 16

/-- An amount of coins. -/
structure Amount where
  val : Nat
  val_lt : val < Amount.bound
  deriving DecidableEq

namespace Amount

/-- The number as an amount, if it is small enough. -/
def ofNat? (n : Nat) : Option Amount :=
  if h : n < bound then some ⟨n, h⟩ else none

def zero : Amount := ⟨0, by decide⟩

/-- The sum of two amounts, if it is an amount. -/
def add? (a b : Amount) : Option Amount :=
  ofNat? (a.val + b.val)

/-- The difference of two amounts, if there is enough to take from. -/
def sub? (a b : Amount) : Option Amount :=
  if b.val ≤ a.val then some ⟨a.val - b.val, Nat.lt_of_le_of_lt (Nat.sub_le _ _) a.val_lt⟩
  else none

instance : ToString Amount := ⟨fun a => toString a.val⟩

@[ext] theorem ext {a b : Amount} (h : a.val = b.val) : a = b := by
  cases a; cases b; cases h; rfl

theorem ofNat?_eq_some_iff {n : Nat} {a : Amount} : ofNat? n = some a ↔ a.val = n := by
  unfold ofNat?
  split
  · next h => exact ⟨fun e => by cases e; rfl, fun e => by cases a; cases e; rfl⟩
  · next h => exact ⟨nofun, fun e => absurd (e ▸ a.val_lt) h⟩

theorem add?_eq_some_iff {a b c : Amount} : a.add? b = some c ↔ c.val = a.val + b.val :=
  ofNat?_eq_some_iff

/-- A difference, put back, gives what it was taken from. -/
theorem sub?_eq_some_iff {a b c : Amount} : a.sub? b = some c ↔ c.val + b.val = a.val := by
  unfold sub?
  split
  · next h =>
    constructor
    · intro e
      cases e
      exact Nat.sub_add_cancel h
    · intro e
      exact congrArg some (ext (by simp; omega))
  · next h => exact ⟨nofun, fun e => absurd (by omega) h⟩

/-- There is no difference exactly if there is not enough to take from. -/
theorem sub?_eq_none_iff {a b : Amount} : a.sub? b = none ↔ a.val < b.val := by
  unfold sub?
  split
  · next h => exact ⟨nofun, fun hless => absurd h (Nat.not_le_of_lt hless)⟩
  · next h => exact ⟨fun _ => Nat.lt_of_not_le h, fun _ => rfl⟩

end Amount

end RemoteAccount
