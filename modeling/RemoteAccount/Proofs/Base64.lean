import Mathlib.Data.Option.Basic
import RemoteAccount.Bytes.Base64

/-!
# Base64 there and back

Base64 cuts bytes into numbers of six bits (`Base64.sextets`) and writes a digit for each. Reading
puts the numbers together again. In between stand only the laws of the alphabet: every number below
64 has a digit of its own, and none of the digits is the pad character.

* `Base64.encode_eq` — the base64 form of bytes is the digits of their sextets and then the padding;
* `Base64.decode?_map_digit` — digits are read as what their numbers make up, however much of the
  padding is left;
* `Base64.bytesOnto?_sextets` — the sextets of bytes make up these bytes;
* `Base64.decode?_encode` — so bytes are read back from their base64 form;
* `Base64.decode?_eq_some_iff` — and from nothing else but this form with some of its padding
  missing, because numbers that make up bytes are their sextets
  (`Base64.eq_sextets_of_bytesOnto?`).
-/

namespace RemoteAccount.Base64

/-! ### The alphabet -/

theorem value?_digit {n : Nat} (h : n < 64) : value? (digit n) = some n := by
  have hall : ∀ n : Fin 64, value? (digit n) = some n.val := by decide
  exact hall ⟨n, h⟩

theorem mapM_value?_map_digit {values : List Nat} (h : ∀ n ∈ values, n < 64) :
    (values.map digit).mapM value? = some values := by
  rw [mapM_eq_some_iff, List.map_map]
  exact List.map_congr_left fun n hn => value?_digit (h n hn)

/-- What may stand in a base64 form: a digit or the pad character. -/
def IsCharacter (c : UInt8) : Prop :=
  c = pad ∨ ∃ n < 64, c = digit n

theorem digit_ne_pad {n : Nat} (h : n < 64) : digit n ≠ pad := by
  intro heq
  have hvalue := value?_digit h
  rw [heq] at hvalue
  cases hvalue

/-! ### Writing -/

/-- The numbers of six bits that bytes are cut into. What a last group lacks is filled up with zero
bits. -/
def sextets : Bytes → List Nat
  | a :: b :: c :: rest =>
    a.toNat / 4 :: (a.toNat % 4 * 16 + b.toNat / 16) :: (b.toNat % 16 * 4 + c.toNat / 64)
      :: c.toNat % 64 :: sextets rest
  | [a, b] => [a.toNat / 4, a.toNat % 4 * 16 + b.toNat / 16, b.toNat % 16 * 4]
  | [a] => [a.toNat / 4, a.toNat % 4 * 16]
  | [] => []

theorem lt_of_mem_sextets {bs : Bytes} {n : Nat} (h : n ∈ sextets bs) : n < 64 := by
  fun_induction sextets bs with
  | case1 a b c rest ih =>
    have ha := a.toNat_lt
    have hb := b.toNat_lt
    have hc := c.toNat_lt
    simp only [List.mem_cons] at h
    rcases h with rfl | rfl | rfl | rfl | h
    · omega
    · omega
    · omega
    · omega
    · exact ih h
  | case2 a b =>
    have ha := a.toNat_lt
    have hb := b.toNat_lt
    simp only [List.mem_cons, List.not_mem_nil, or_false] at h
    omega
  | case3 a =>
    have ha := a.toNat_lt
    simp only [List.mem_cons, List.not_mem_nil, or_false] at h
    omega
  | case4 => cases h

/-- The pad characters behind so many digits. -/
def pads (digits : Nat) : Bytes :=
  List.replicate (padding digits) pad

/-- A group of four digits needs no padding. -/
theorem pads_add_four (digits : Nat) : pads (digits + 4) = pads digits := by
  rw [pads, pads, padding, padding, Nat.add_mod_right]

theorem digitsOnto_eq (done bs : Bytes) :
    digitsOnto done bs = done.reverse ++ ((sextets bs).map digit ++ pads (sextets bs).length) := by
  fun_induction digitsOnto done bs with
  | case1 done a b c rest ih =>
    -- a whole group leaves the padding to the groups behind it
    rw [ih, sextets]
    simp [pads_add_four]
  | case2 done a b => simp [sextets, pads, padding]
  | case3 done a => simp [sextets, pads, padding, List.replicate]
  | case4 done => simp [sextets, pads, padding]

/-- **Writing.** A base64 form is the digits of the sextets, and then the padding. -/
theorem encode_eq (bs : Bytes) :
    encode bs = (sextets bs).map digit ++ pads (sextets bs).length :=
  digitsOnto_eq [] bs

theorem isCharacter_of_mem_encode {bs : Bytes} {c : UInt8} (h : c ∈ encode bs) : IsCharacter c := by
  rw [encode_eq, List.mem_append] at h
  rcases h with h | h
  · obtain ⟨n, hn, rfl⟩ := List.mem_map.1 h
    exact .inr ⟨n, lt_of_mem_sextets hn, rfl⟩
  · exact .inl (List.eq_of_mem_replicate h)

/-! ### Reading -/

/-- **Reading.** Digits with some of their padding are read as what the numbers make up. -/
theorem decode?_map_digit {values : List Nat} {k : Nat} (h : ∀ n ∈ values, n < 64)
    (hk : k ≤ padding values.length) :
    decode? (values.map digit ++ List.replicate k pad) = bytesOnto? [] values := by
  have hdigits : ((values.map digit ++ List.replicate k pad).reverse.dropWhile (· = pad)).reverse
      = values.map digit := by
    have hpads : ∀ c ∈ (List.replicate k pad).reverse, decide (c = pad) = true := by simp
    rw [List.reverse_append, List.dropWhile_append_of_pos hpads]
    -- the last digit is not a pad character
    cases values.eq_nil_or_concat with
    | inl hnil => rw [hnil]; rfl
    | inr hconcat =>
      obtain ⟨front, n, rfl⟩ := hconcat
      have hn := digit_ne_pad (h n (by simp))
      simp [hn]
  have hguard : (guard ((values.map digit ++ List.replicate k pad).length ≤
      (values.map digit).length + padding (values.map digit).length) : Option Unit) = some () :=
    if_pos (by simpa using hk)
  rw [decode?, hdigits, hguard, mapM_value?_map_digit h]
  rfl

/-- The first byte of a group. -/
theorem ofNat_first (a b : UInt8) :
    UInt8.ofNat (a.toNat / 4 * 4 + (a.toNat % 4 * 16 + b.toNat / 16) / 16) = a := by
  have hb := b.toNat_lt
  have hnat : a.toNat / 4 * 4 + (a.toNat % 4 * 16 + b.toNat / 16) / 16 = a.toNat := by omega
  rw [hnat, UInt8.ofNat_toNat]

/-- The second byte of a group. -/
theorem ofNat_second (a b c : UInt8) :
    UInt8.ofNat ((a.toNat % 4 * 16 + b.toNat / 16) % 16 * 16
      + (b.toNat % 16 * 4 + c.toNat / 64) / 4) = b := by
  have hb := b.toNat_lt
  have hc := c.toNat_lt
  have hnat : (a.toNat % 4 * 16 + b.toNat / 16) % 16 * 16 + (b.toNat % 16 * 4 + c.toNat / 64) / 4
      = b.toNat := by omega
  rw [hnat, UInt8.ofNat_toNat]

/-- The third byte of a group. -/
theorem ofNat_third (b c : UInt8) :
    UInt8.ofNat ((b.toNat % 16 * 4 + c.toNat / 64) % 4 * 64 + c.toNat % 64) = c := by
  have hc := c.toNat_lt
  have hnat : (b.toNat % 16 * 4 + c.toNat / 64) % 4 * 64 + c.toNat % 64 = c.toNat := by omega
  rw [hnat, UInt8.ofNat_toNat]

/-- **The sextets of bytes** make up these bytes, behind those already put together. -/
theorem bytesOnto?_sextets (done bs : Bytes) :
    bytesOnto? done (sextets bs) = some (done.reverse ++ bs) := by
  fun_induction sextets bs generalizing done with
  | case1 a b c rest ih =>
    rw [bytesOnto?, ofNat_first, ofNat_second, ofNat_third, ih]
    simp
  | case2 a b =>
    -- a missing byte is like a zero byte
    have hsecond := ofNat_second a b 0
    rw [UInt8.toNat_zero, Nat.zero_div, Nat.add_zero] at hsecond
    rw [bytesOnto?, if_pos (Nat.mul_mod_left _ 4), ofNat_first, hsecond]
    simp
  | case3 a =>
    have hfirst := ofNat_first a 0
    rw [UInt8.toNat_zero, Nat.zero_div, Nat.add_zero] at hfirst
    rw [bytesOnto?, if_pos (Nat.mul_mod_left _ 16), hfirst]
    simp
  | case4 => rw [bytesOnto?, List.append_nil]

/-- **Bytes are read back** from their base64 form. -/
theorem decode?_encode (bs : Bytes) : decode? (encode bs) = some bs := by
  rw [encode_eq, pads, decode?_map_digit (fun _ => lt_of_mem_sextets) (Nat.le_refl _)]
  exact bytesOnto?_sextets [] bs

/-! ### What is read -/

/-- A character that stands for a number is the digit of this number. -/
theorem eq_digit_of_value? {c : UInt8} {n : Nat} (h : value? c = some n) :
    n < 64 ∧ c = digit n := by
  have hall : ∀ c : Fin 256, ∀ n ∈ value? (UInt8.ofNat c), n < 64 ∧ UInt8.ofNat c = digit n := by
    decide +kernel
  have hc := hall ⟨c.toNat, c.toNat_lt⟩ n
  simp only [UInt8.ofNat_toNat] at hc
  exact hc h

theorem eq_map_digit_of_mapM_value? {digits : Bytes} {values : List Nat}
    (h : digits.mapM value? = some values) :
    (∀ n ∈ values, n < 64) ∧ digits = values.map digit := by
  induction digits generalizing values with
  | nil =>
    cases h
    exact ⟨nofun, rfl⟩
  | cons c digits ih =>
    rw [mapM_eq_some_iff] at h
    cases values with
    | nil => cases h
    | cons n values =>
      obtain ⟨hc, hdigits⟩ := List.cons.inj h
      obtain ⟨hn, rfl⟩ := eq_digit_of_value? hc
      obtain ⟨hvalues, rfl⟩ := ih (mapM_eq_some_iff.2 hdigits)
      exact ⟨List.forall_mem_cons.2 ⟨hn, hvalues⟩, rfl⟩

/-- Numbers of six bits make up bytes only if they are the sextets of these bytes. -/
theorem eq_sextets_of_bytesOnto? {done out : Bytes} {values : List Nat}
    (hvalues : ∀ n ∈ values, n < 64) (h : bytesOnto? done values = some out) :
    ∃ bs, out = done.reverse ++ bs ∧ values = sextets bs := by
  fun_induction bytesOnto? done values with
  | case1 done w x y z rest ih =>
    simp only [List.forall_mem_cons] at hvalues
    obtain ⟨hw, hx, hy, hz, hrest⟩ := hvalues
    obtain ⟨bs, rfl, rfl⟩ := ih hrest h
    refine ⟨UInt8.ofNat (w * 4 + x / 16) :: UInt8.ofNat (x % 16 * 16 + y / 4)
      :: UInt8.ofNat (y % 4 * 64 + z) :: bs, by simp, ?_⟩
    simp only [sextets, UInt8.toNat_ofNat', List.cons.injEq, and_true]
    omega
  | case2 done w x y hy =>
    simp only [List.forall_mem_cons] at hvalues
    obtain ⟨hw, hx, hy', -⟩ := hvalues
    cases h
    refine ⟨[UInt8.ofNat (w * 4 + x / 16), UInt8.ofNat (x % 16 * 16 + y / 4)], by simp, ?_⟩
    simp only [sextets, UInt8.toNat_ofNat', List.cons.injEq, and_true]
    omega
  | case3 => cases h
  | case4 done w x hx =>
    simp only [List.forall_mem_cons] at hvalues
    obtain ⟨hw, hx', -⟩ := hvalues
    cases h
    refine ⟨[UInt8.ofNat (w * 4 + x / 16)], by simp, ?_⟩
    simp only [sextets, UInt8.toNat_ofNat', List.cons.injEq, and_true]
    omega
  | case5 => cases h
  | case6 => cases h
  | case7 =>
    cases h
    exact ⟨[], by simp, rfl⟩

/-- Between a base64 form and its digits some of the padding may be missing. -/
theorem eq_replicate_of_append_eq_encode {text bs : Bytes} {k : Nat}
    (h : text ++ List.replicate k pad = encode bs) :
    ∃ j ≤ padding (sextets bs).length, text = (sextets bs).map digit ++ List.replicate j pad := by
  rw [encode_eq, pads] at h
  rcases List.append_eq_append_iff.1 h with ⟨kept, hdigits, hpads⟩ | ⟨kept, htext, hpads⟩
  · -- what is missing cannot reach back into the digits
    cases kept with
    | nil => exact ⟨0, Nat.zero_le _, by simpa using hdigits.symm⟩
    | cons c kept =>
      have hreplicate : c ∈ List.replicate k pad := by
        rw [hpads]
        exact List.mem_append_left _ List.mem_cons_self
      have hc : c = pad := List.eq_of_mem_replicate hreplicate
      have hmem : c ∈ (sextets bs).map digit := hdigits ▸ List.mem_append_right _ List.mem_cons_self
      obtain ⟨n, hn, hdigit⟩ := List.mem_map.1 hmem
      exact absurd (hdigit.trans hc) (digit_ne_pad (lt_of_mem_sextets hn))
  · refine ⟨kept.length, ?_, ?_⟩
    · have hlength := congrArg List.length hpads
      rw [List.length_replicate, List.length_append] at hlength
      omega
    · have hkept : ∀ c ∈ kept, c = pad := fun c hc =>
        List.eq_of_mem_replicate (hpads ▸ List.mem_append_left _ hc)
      rw [htext, ← List.eq_replicate_of_mem hkept]

/-- A text is what is left of it without pad characters at its end, and then pad characters. -/
theorem exists_eq_append_replicate (text : Bytes) :
    ∃ j, text = (text.reverse.dropWhile (· = pad)).reverse ++ List.replicate j pad := by
  have hpads : ∀ c ∈ (text.reverse.takeWhile (· = pad)).reverse, c = pad := fun c hc =>
    of_decide_eq_true (List.all_eq_true.1 List.all_takeWhile c (List.mem_reverse.1 hc))
  refine ⟨(text.reverse.takeWhile (· = pad)).reverse.length, ?_⟩
  rw [← List.eq_replicate_of_mem hpads, ← List.reverse_append, List.takeWhile_append_dropWhile,
    List.reverse_reverse]

/-- **What can be read.** A text is read as bytes exactly if it is their base64 form, of which some
of the padding may be missing. -/
theorem decode?_eq_some_iff {text bs : Bytes} :
    decode? text = some bs ↔ ∃ k, text ++ List.replicate k pad = encode bs := by
  constructor
  · intro h
    obtain ⟨_, hguard, h⟩ := Option.bind_eq_some_iff.1 h
    obtain ⟨values, hvalues, hbytes⟩ := Option.bind_eq_some_iff.1 h
    obtain ⟨hlt, hdigits⟩ := eq_map_digit_of_mapM_value? hvalues
    obtain ⟨bs, rfl, rfl⟩ := eq_sextets_of_bytesOnto? hlt hbytes
    obtain ⟨j, htext⟩ := exists_eq_append_replicate text
    rw [hdigits] at hguard htext
    -- there is no more padding than the digits ask for
    have hlength : text.length ≤ ((sextets bs).map digit).length
        + padding ((sextets bs).map digit).length := (Option.guard_eq_some' _).1 hguard
    rw [htext, List.length_append, List.length_replicate, List.length_map] at hlength
    refine ⟨padding (sextets bs).length - j, ?_⟩
    rw [encode_eq, pads, htext, List.append_assoc, List.replicate_append_replicate,
      Nat.add_sub_of_le (by omega)]
  · rintro ⟨k, h⟩
    obtain ⟨j, hj, rfl⟩ := eq_replicate_of_append_eq_encode h
    rw [decode?_map_digit (fun _ => lt_of_mem_sextets) hj]
    exact bytesOnto?_sextets [] bs

end RemoteAccount.Base64
