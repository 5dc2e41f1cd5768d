import Mathlib.Data.List.Basic
import RemoteAccount.Proofs.Transfers

/-!
# Which balances are kept apart

A balance is stored under a key that joins an address and a denomination with a slash. Neither of
the two is searched for slashes, so a key does not tell where the address ends: the balance of `a`
in `b/c` and the balance of `a/b` in `c` are stored in one place. Whoever owns `a/b` can spend what
belongs to `a`.

`Bank.Coincide` says, of addresses and denominations themselves, when this happens: the two are the
same, or a part with a slash at its end has moved from the one side to the other.

* `Bank.key_eq_iff` — two balances have one key exactly if they coincide;
* `Bank.slashes_of_coincide` — different balances coincide only if there is a slash in an address
  and in a denomination, so addresses without slashes are kept apart whatever the denominations are;
* `Bank.isolated` — a transfer, successful or not, and setting a balance reach the balances that
  coincide with those they name, and no others.
-/

namespace RemoteAccount

/-- **Two readings of a separated pair.** Either they are cut at the same separator, or one of them
is cut at a later one, and what lies between has moved. -/
theorem append_cons_eq_append_cons_iff {α : Type} {x : α} {as bs as' bs' : List α} :
    as ++ x :: bs = as' ++ x :: bs' ↔
      (as = as' ∧ bs = bs') ∨ (∃ mid, as' = as ++ x :: mid ∧ bs = mid ++ x :: bs') ∨
        ∃ mid, as = as' ++ x :: mid ∧ bs' = mid ++ x :: bs := by
  constructor
  · intro h
    rcases List.append_eq_append_iff.1 h with ⟨mid, rfl, hmid⟩ | ⟨mid, rfl, hmid⟩
    · -- the second reading is cut later, or at the same place
      cases mid with
      | nil =>
        obtain ⟨-, rfl⟩ := List.cons_eq_cons.1 hmid
        exact .inl ⟨(List.append_nil as).symm, rfl⟩
      | cons y mid =>
        obtain ⟨rfl, rfl⟩ := List.cons_eq_cons.1 hmid
        exact .inr (.inl ⟨mid, rfl, rfl⟩)
    · cases mid with
      | nil =>
        obtain ⟨-, rfl⟩ := List.cons_eq_cons.1 hmid
        exact .inl ⟨List.append_nil as', rfl⟩
      | cons y mid =>
        obtain ⟨rfl, rfl⟩ := List.cons_eq_cons.1 hmid
        exact .inr (.inr ⟨mid, rfl, rfl⟩)
  · rintro (⟨rfl, rfl⟩ | ⟨mid, rfl, rfl⟩ | ⟨mid, rfl, rfl⟩)
    · rfl
    · rw [List.append_assoc, List.cons_append]
    · rw [List.append_assoc, List.cons_append]

namespace Bank

/-- **Balances that are stored in one place.** They are the same, or the address of the one goes on
with a slash and a part with which the denomination of the other begins. -/
def Coincide (address denom address' denom' : String) : Prop :=
  (address = address' ∧ denom = denom') ∨
    (∃ part, address' = address ++ "/" ++ part ∧ denom = part ++ "/" ++ denom') ∨
    ∃ part, address = address' ++ "/" ++ part ∧ denom' = part ++ "/" ++ denom

variable {address denom address' denom' : String}

/-- A text that goes on with a slash, by its characters. -/
theorem exists_part_iff {front back front' back' : String} :
    (∃ part, front' = front ++ "/" ++ part ∧ back = part ++ "/" ++ back') ↔
      ∃ mid, front'.toList = front.toList ++ '/' :: mid ∧
        back.toList = mid ++ '/' :: back'.toList := by
  constructor
  · rintro ⟨part, rfl, rfl⟩
    exact ⟨part.toList, by simp, by simp⟩
  · rintro ⟨mid, hfront, hback⟩
    refine ⟨String.ofList mid, String.toList_inj.1 ?_, String.toList_inj.1 ?_⟩
    · simp [hfront]
    · simp [hback]

/-- **Keys that are the same** belong to balances that coincide. -/
theorem key_eq_iff :
    key address denom = key address' denom' ↔ Coincide address denom address' denom' := by
  have htext : key address denom = key address' denom' ↔
      address.toList ++ '/' :: denom.toList = address'.toList ++ '/' :: denom'.toList := by
    constructor
    · intro h
      have htexts := congrArg String.toList (Bytes.ofText_injective h)
      simpa using htexts
    · intro h
      refine congrArg Bytes.ofText (String.toList_inj.1 ?_)
      simpa using h
  rw [htext, append_cons_eq_append_cons_iff, Coincide, exists_part_iff, exists_part_iff,
    String.toList_inj, String.toList_inj]

instance : Decidable (Coincide address denom address' denom') :=
  decidable_of_iff (key address denom = key address' denom') key_eq_iff

/-- **Slashes make balances coincide.** Different balances that do have one in an address and one in
a denomination. -/
theorem slashes_of_coincide (h : Coincide address denom address' denom')
    (hne : ¬ (address = address' ∧ denom = denom')) :
    ('/' ∈ address.toList ∨ '/' ∈ address'.toList) ∧
      ('/' ∈ denom.toList ∨ '/' ∈ denom'.toList) := by
  rcases h with hsame | ⟨part, rfl, rfl⟩ | ⟨part, rfl, rfl⟩
  · exact absurd hsame hne
  · exact ⟨.inr (by simp), .inl (by simp)⟩
  · exact ⟨.inl (by simp), .inr (by simp)⟩

/-! ### Transfers and balances -/

theorem balance_congr {s t : State} (h : t.get (key address denom) = s.get (key address denom)) :
    balance t address denom = balance s address denom := by
  rw [balance, h, balance]

/-- Setting a balance is seen by the balances that coincide with it. -/
theorem balance_setBalance (s : State) (address denom address' denom' : String)
    (amount : Amount) :
    balance (setBalance s address' denom' amount) address denom =
      if Coincide address denom address' denom' then amount else balance s address denom := by
  by_cases h : Coincide address denom address' denom'
  · rw [if_pos h, balance, get_setBalance, if_pos (key_eq_iff.2 h).symm, balanceOf?_stored]
    rfl
  · rw [if_neg h]
    exact balance_congr (get_setBalance_of_ne fun hkey => h (key_eq_iff.1 hkey.symm))

/-- A transfer leaves alone what coincides with none of its balances. -/
theorem balance_send {t : Transfer} (s : State)
    (h : ∀ coin ∈ t.coins, ¬ Coincide address denom t.sender coin.denom ∧
      ¬ Coincide address denom t.recipient coin.denom) :
    balance ((send t).run.run s).2 address denom = balance s address denom := by
  refine balance_congr ?_
  by_cases hsame : ((send t).run.run s).2.get (key address denom) = s.get (key address denom)
  · exact hsame
  · -- a key that has changed is that of one of the coins, on one of the two sides
    rcases (frame_send t s).changed hsame with ⟨coin, hcoin, hkey⟩ | ⟨coin, hcoin, hkey⟩
    · exact absurd (key_eq_iff.1 hkey) (h coin hcoin).1
    · exact absurd (key_eq_iff.1 hkey) (h coin hcoin).2

/-- **Isolation.** Of the balances in a state:

* a transfer, whether or not it succeeds, leaves alone every balance that coincides with none of
  its sender's and its recipient's in the denominations of its coins;
* setting a balance changes those that coincide with it, and no others;
* balances of different addresses or denominations coincide only if one of the addresses and one of
  the denominations has a slash. -/
theorem isolated (s : State) :
    (∀ (t : Transfer) (address denom : String),
      (∀ coin ∈ t.coins, ¬ Coincide address denom t.sender coin.denom ∧
        ¬ Coincide address denom t.recipient coin.denom) →
      balance ((send t).run.run s).2 address denom = balance s address denom) ∧
    (∀ (address' denom' : String) (amount : Amount) (address denom : String),
      balance (setBalance s address' denom' amount) address denom =
        if Coincide address denom address' denom' then amount else balance s address denom) ∧
    ∀ address denom address' denom' : String, (address, denom) ≠ (address', denom') →
      Coincide address denom address' denom' →
      ('/' ∈ address.toList ∨ '/' ∈ address'.toList) ∧
        ('/' ∈ denom.toList ∨ '/' ∈ denom'.toList) := by
  refine ⟨fun t address denom => balance_send s, fun address' denom' amount address denom => ?_, ?_⟩
  · exact balance_setBalance s address denom address' denom' amount
  · intro address denom address' denom' hne hcoincide
    refine slashes_of_coincide hcoincide ?_
    rintro ⟨rfl, rfl⟩
    exact hne rfl

/-- A transfer in a denomination with a slash, from `ica1` to `bob`, leaves alone what `carol` has
in it, since none of the addresses has a slash. -/
theorem carol_isolated :
    let coins (n : Fin 16) : Amount := ⟨n, Nat.lt_trans n.isLt (by decide)⟩
    let transfer : Transfer := ⟨"ica1", "bob", [⟨"ibc/uatom", coins 2⟩]⟩
    let funded := setBalance (setBalance (.ledger .empty) "ica1" "ibc/uatom" (coins 3))
      "carol" "ibc/uatom" (coins 5)
    balance ((send transfer).run.run funded).2 "carol" "ibc/uatom" = coins 5 := by
  intro coins transfer funded
  have hapart : ∀ coin ∈ transfer.coins, ¬ Coincide "carol" "ibc/uatom" transfer.sender coin.denom ∧
      ¬ Coincide "carol" "ibc/uatom" transfer.recipient coin.denom := by
    decide +kernel
  rw [(isolated funded).1 transfer "carol" "ibc/uatom" hapart]
  decide +kernel

/-- **Slashes break the isolation.** The balance of `ica1` in `ibc/uatom` is neither that of
`ica1/ibc` in `uatom` nor one of `bob`. Yet a transfer of `uatom` from `ica1/ibc` to `bob` succeeds
and takes the whole of it, and setting the balance of `ica1/ibc` in `uatom` sets it. -/
theorem slash_breaks_isolation :
    let coins (n : Fin 16) : Amount := ⟨n, Nat.lt_trans n.isLt (by decide)⟩
    let transfer : Transfer := ⟨"ica1/ibc", "bob", [⟨"uatom", coins 5⟩]⟩
    let funded := setBalance (.ledger .empty) "ica1" "ibc/uatom" (coins 5)
    (∀ coin ∈ transfer.coins, ("ica1", "ibc/uatom") ≠ (transfer.sender, coin.denom) ∧
        ("ica1", "ibc/uatom") ≠ (transfer.recipient, coin.denom)) ∧
      transfer.check = .ok () ∧
      ((send transfer).run.run funded).1 = .ok ⟨[], [transferEvent transfer]⟩ ∧
      balance funded "ica1" "ibc/uatom" = coins 5 ∧
      balance ((send transfer).run.run funded).2 "ica1" "ibc/uatom" = .zero ∧
      balance (.ledger .empty) "ica1" "ibc/uatom" = .zero ∧
      balance (setBalance (.ledger .empty) "ica1/ibc" "uatom" (coins 5)) "ica1" "ibc/uatom"
        = coins 5 := by
  intro coins transfer funded
  decide +kernel

end Bank

end RemoteAccount
