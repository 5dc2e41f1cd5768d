import RemoteAccount.Wire.Form

/-!
# The laws of binary forms

A binary form is *lawful* when writing and reading agree in front of any rest. Which values can be
read back depends on the lengths inside a form: each of them must fit its eight bytes, and
`LawfulWireForm.Fits` says that they do.

* `LawfulWireForm.read_eq_some_iff` — a value is read exactly where its form stands, if it fits. So
  every value has one form and no form is the beginning of another;
* `LawfulWireForm.fits_of_length_lt` — a value fits if its form is shorter than `2 ^ 64` bytes, as
  every byte string is that can be addressed;
* `LawfulWireForm.length_pos` — no form is empty, so a list is no longer than its form.

All the forms of this library are lawful. `receive?_eq_some_iff_fits` and `receive?_eq_some_iff` are
what this comes to for a whole byte string.
-/

namespace RemoteAccount

/-- A binary form in which writing and reading agree. -/
class LawfulWireForm (α : Type) [WireForm α] where
  /-- Every length inside the form of the value fits its eight bytes. -/
  Fits : α → Prop
  length_pos (a : α) : 0 < (WireForm.write a).length
  fits_of_length_lt {a : α} (h : (WireForm.write a).length < Numeral.capacity 8) : Fits a
  read_eq_some_iff {a : α} {bs rest : Bytes} :
    WireForm.read bs = some (a, rest) ↔ Fits a ∧ bs = WireForm.write a ++ rest

open LawfulWireForm

variable {α β : Type}

/-- **Receiving** a value is receiving its form, if the value fits. -/
theorem Wire.receive?_eq_some_iff_fits [WireForm α] [LawfulWireForm α] {a : α} {bs : Bytes} :
    receive? bs = some a ↔ Fits a ∧ bs = WireForm.write a := by
  rw [receive?, Reader.whole?_eq_some, read_eq_some_iff, List.append_nil]

/-- Of the byte strings that are not too long to be addressed, exactly the form of a value is
received as that value. -/
theorem Wire.receive?_eq_some_iff [WireForm α] [LawfulWireForm α] {a : α} {bs : Bytes}
    (h : bs.length < Numeral.capacity 8) :
    receive? bs = some a ↔ bs = WireForm.write a := by
  rw [receive?_eq_some_iff_fits]
  refine ⟨And.right, fun hform => ⟨fits_of_length_lt ?_, hform⟩⟩
  rwa [← hform]

/-! ### Numbers, pairs and records -/

instance : LawfulWireForm UInt8 where
  Fits _ := True
  length_pos _ := Nat.one_pos
  fits_of_length_lt _ := trivial
  read_eq_some_iff {_ bs _} := by
    cases bs <;> simp [WireForm.read, WireForm.write]

instance : LawfulWireForm Amount where
  Fits _ := True
  length_pos a := by simp [WireForm.write]
  fits_of_length_lt _ := trivial
  read_eq_some_iff {a bs rest} := by
    simp only [WireForm.read, WireForm.write, Reader.bind_eq_some, Reader.nat_eq_some,
      Reader.ofOption_eq_some, Amount.ofNat?_eq_some_iff, true_and]
    constructor
    · rintro ⟨n, mid, ⟨-, rfl⟩, rfl, rfl⟩
      rfl
    · rintro rfl
      exact ⟨_, _, ⟨a.val_lt, rfl⟩, rfl, rfl⟩

instance [WireForm α] [WireForm β] [LawfulWireForm α] [LawfulWireForm β] :
    LawfulWireForm (α × β) where
  Fits p := Fits p.1 ∧ Fits p.2
  length_pos p := by
    have := length_pos p.1
    simp only [WireForm.write, List.length_append]
    omega
  fits_of_length_lt {p} h := by
    simp only [WireForm.write, List.length_append] at h
    exact ⟨fits_of_length_lt (by omega), fits_of_length_lt (by omega)⟩
  read_eq_some_iff {p bs rest} := by
    simp only [WireForm.read, WireForm.write, Reader.bind_eq_some, Reader.pure_apply,
      read_eq_some_iff, List.append_assoc, Option.some.injEq, Prod.mk.injEq]
    constructor
    · rintro ⟨a, mid, ⟨ha, rfl⟩, b, mid', ⟨hb, rfl⟩, rfl, rfl⟩
      exact ⟨⟨ha, hb⟩, rfl⟩
    · rintro ⟨⟨ha, hb⟩, rfl⟩
      exact ⟨_, _, ⟨ha, rfl⟩, _, _, ⟨hb, rfl⟩, rfl, rfl⟩

/-- Packing and unpacking keep a form lawful when each undoes the other. -/
@[reducible] def LawfulWireForm.map [WireForm β] [LawfulWireForm β] {unpack : α → β} {pack : β → α}
    (pack_unpack : ∀ a, pack (unpack a) = a) (unpack_pack : ∀ b, unpack (pack b) = b) :
    @LawfulWireForm α (WireForm.map unpack pack) :=
  let _ := WireForm.map unpack pack
  { Fits := fun a => Fits (unpack a)
    length_pos := fun a => length_pos (unpack a)
    fits_of_length_lt := fun h => fits_of_length_lt h
    read_eq_some_iff := fun {a bs rest} => by
      simp only [WireForm.read, WireForm.write, Reader.map_eq_some, read_eq_some_iff]
      constructor
      · rintro ⟨b, hb, rfl⟩
        rwa [unpack_pack]
      · intro h
        exact ⟨_, h, pack_unpack a⟩ }

/-! ### Lists and texts -/

/-- A list is no longer than the forms of its items. -/
theorem Wire.length_le_length_flatMap [WireForm α] [LawfulWireForm α] (as : List α) :
    as.length ≤ (as.flatMap WireForm.write).length := by
  induction as with
  | nil => simp
  | cons a as ih =>
    have := length_pos a
    rw [List.flatMap_cons, List.length_append, List.length_cons]
    omega

/-- The form of a list is eight bytes for the number of its items, and then the forms of all. -/
theorem Wire.length_write_list [WireForm α] (as : List α) :
    (WireForm.write as).length = 8 + (as.flatMap WireForm.write).length := by
  change (Numeral.little 8 as.length ++ as.flatMap WireForm.write).length = _
  rw [List.length_append, Numeral.length_little]

/-- No item has a longer form than all items together. -/
theorem Wire.length_write_le_of_mem [WireForm α] {a : α} {as : List α} (h : a ∈ as) :
    (WireForm.write a).length ≤ (as.flatMap WireForm.write).length := by
  obtain ⟨front, back, rfl⟩ := List.append_of_mem h
  simp only [List.flatMap_append, List.flatMap_cons, List.length_append]
  omega

/-- **Items are read**, behind those already read, exactly where their forms stand. -/
theorem Reader.times_eq_some_iff [WireForm α] [LawfulWireForm α] {n : Nat} {done as : List α}
    {bs rest : Bytes} :
    times WireForm.read n done bs = some (as, rest) ↔
      ∃ more, as = done.reverse ++ more ∧ more.length = n ∧ (∀ a ∈ more, Fits a) ∧
        bs = more.flatMap WireForm.write ++ rest := by
  induction n generalizing done bs with
  | zero =>
    simp only [times, Option.some.injEq, Prod.mk.injEq]
    constructor
    · rintro ⟨rfl, rfl⟩
      exact ⟨[], by simp, rfl, nofun, rfl⟩
    · rintro ⟨more, rfl, hlength, -, rfl⟩
      rw [List.length_eq_zero_iff.1 hlength]
      simp
  | succ n ih =>
    simp only [times]
    constructor
    · intro h
      split at h
      · next a mid hread =>
        obtain ⟨ha, rfl⟩ := read_eq_some_iff.1 hread
        obtain ⟨more, rfl, rfl, hmore, rfl⟩ := ih.1 h
        refine ⟨a :: more, by simp, rfl, ?_, by simp⟩
        exact List.forall_mem_cons.2 ⟨ha, hmore⟩
      · cases h
    · rintro ⟨more, rfl, hlength, hmore, rfl⟩
      cases more with
      | nil => cases hlength
      | cons a more =>
        obtain ⟨ha, hmore⟩ := List.forall_mem_cons.1 hmore
        rw [List.flatMap_cons, List.append_assoc, read_eq_some_iff.2 ⟨ha, rfl⟩]
        exact ih.2 ⟨more, by simp, Nat.succ.inj hlength, hmore, rfl⟩

instance [WireForm α] [LawfulWireForm α] : LawfulWireForm (List α) where
  Fits as := as.length < Numeral.capacity 8 ∧ ∀ a ∈ as, Fits a
  length_pos as := by
    rw [Wire.length_write_list]
    omega
  fits_of_length_lt {as} h := by
    -- A list is no longer than its form, so its length fits the eight bytes in front of it.
    have hcount := Wire.length_le_length_flatMap as
    rw [Wire.length_write_list] at h
    refine ⟨by omega, fun a ha => fits_of_length_lt ?_⟩
    have hitem := Wire.length_write_le_of_mem ha
    omega
  read_eq_some_iff {as bs rest} := by
    simp only [WireForm.read, WireForm.write, Reader.bind_eq_some, Reader.nat_eq_some,
      Reader.times_eq_some_iff, List.append_assoc]
    constructor
    · rintro ⟨n, mid, ⟨hn, rfl⟩, more, rfl, rfl, hmore, rfl⟩
      exact ⟨⟨hn, hmore⟩, rfl⟩
    · rintro ⟨⟨hcount, hitems⟩, rfl⟩
      exact ⟨_, _, ⟨hcount, rfl⟩, as, rfl, rfl, hitems, rfl⟩

instance : LawfulWireForm String where
  Fits text := Fits (Bytes.ofText text)
  length_pos text := length_pos (Bytes.ofText text)
  fits_of_length_lt {text} h := (fits_of_length_lt h : Fits (Bytes.ofText text))
  read_eq_some_iff {text bs rest} := by
    -- Reading goes through the bytes of the text, and these are valid UTF-8.
    change Wire.readText bs = _ ↔ _ ∧ bs = Wire.writeText text ++ rest
    simp only [Wire.readText, Wire.writeText, Reader.bind_eq_some, Reader.ofOption_eq_some,
      read_eq_some_iff, Bytes.text?_eq_some_iff]
    constructor
    · rintro ⟨_, mid, hread, rfl, rfl⟩
      exact hread
    · intro h
      exact ⟨_, _, h, rfl, rfl⟩

end RemoteAccount
