import RemoteAccount.Bytes.Basic

/-!
# Numerals in base 256

Numbers are written with a fixed number of bytes, least significant byte first in messages and
most significant byte first in the store.

* `Numeral.little` and `Numeral.big` write the low `width` bytes of a number in either order;
  `Numeral.ofLittle` and `Numeral.ofBig` read a numeral of any length.
* `ofLittle_little`, `ofBig_big` — a number below `Numeral.capacity width` is read back.
* `little_ofLittle` — a numeral is the one written, at its own length, for the number it denotes.
-/

namespace RemoteAccount.Numeral

/-- The low `width` bytes of a number, the least significant first. -/
def little : Nat → Nat → Bytes
  | 0, _ => []
  | width + 1, n => UInt8.ofNat n :: little width (n / 256)

/-- The number a numeral denotes, its least significant byte first. -/
def ofLittle : Bytes → Nat
  | [] => 0
  | b :: bs => b.toNat + 256 * ofLittle bs

/-- The low `width` bytes of a number, the most significant first. -/
def big (width n : Nat) : Bytes :=
  (little width n).reverse

/-- The number a numeral denotes, its most significant byte first. -/
def ofBig (bs : Bytes) : Nat :=
  ofLittle bs.reverse

/-- How many numbers have a numeral of so many bytes. -/
def capacity : Nat → Nat
  | 0 => 1
  | width + 1 => capacity width * 256

@[simp] theorem length_little (width n : Nat) : (little width n).length = width := by
  induction width generalizing n with
  | zero => rfl
  | succ width ih => simp [little, ih]

@[simp] theorem length_big (width n : Nat) : (big width n).length = width := by
  simp [big]

/-- **Numbers are read back**, as long as they fit the width. -/
theorem ofLittle_little {width n : Nat} (h : n < capacity width) :
    ofLittle (little width n) = n := by
  induction width generalizing n with
  | zero =>
    have hn : n = 0 := by simpa [capacity] using h
    simp [hn, little, ofLittle]
  | succ width ih =>
    have hdiv : n / 256 < capacity width := by
      rw [capacity] at h
      omega
    simp only [little, ofLittle, ih hdiv, UInt8.toNat_ofNat']
    omega

theorem ofBig_big {width n : Nat} (h : n < capacity width) : ofBig (big width n) = n := by
  simp [ofBig, big, ofLittle_little h]

theorem ofLittle_lt (bs : Bytes) : ofLittle bs < capacity bs.length := by
  induction bs with
  | nil => simp [ofLittle, capacity]
  | cons b bs ih =>
    have hb := b.toNat_lt
    simp only [ofLittle, List.length_cons, capacity]
    omega

theorem ofBig_lt (bs : Bytes) : ofBig bs < capacity bs.length := by
  simpa [ofBig] using ofLittle_lt bs.reverse

/-- **Numerals are unique**: writing what a numeral denotes, at its own length, gives it again. -/
theorem little_ofLittle (bs : Bytes) : little bs.length (ofLittle bs) = bs := by
  induction bs with
  | nil => rfl
  | cons b bs ih =>
    -- The first byte is the remainder by 256 and the others are the quotient.
    have hb := b.toNat_lt
    have hdiv : (b.toNat + 256 * ofLittle bs) / 256 = ofLittle bs := by omega
    have hlow : UInt8.ofNat (b.toNat + 256 * ofLittle bs) = b := by
      apply UInt8.toNat_inj.1
      simp
    simp [little, ofLittle, hdiv, hlow, ih]

end RemoteAccount.Numeral
