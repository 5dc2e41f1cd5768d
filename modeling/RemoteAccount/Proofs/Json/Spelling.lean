import RemoteAccount.Proofs.Json.Printed

/-!
# The spellings of a text

A text has many spellings in JSON. Each of its bytes may stand by itself, unless it is a quotation
mark, a backslash or a control character, some may be written as a letter behind a backslash, and a
character may be written by its number, or by two numbers that are the halves of a surrogate pair.
`Json.Spells` is the relation between what is written and the bytes that are meant.

* Reading resolves a spelling from the left. What has been read so far stands in reverse, and a
  first half waits for the second (`Json.Completes`, `Json.ReadsOn`).
* `Json.textOfRaw?_eq_some_iff` — so what is read is the text that is spelled, if there is one.
* `Json.spells_rawOfText` — a text is written in one of its spellings, so it is read back.
-/

namespace RemoteAccount

/-! ### Characters of ASCII -/

/-- The form of a character of ASCII is one byte. -/
theorem Bytes.ofText_singleton {b : UInt8} (h : b < 128) :
    ofText (String.singleton (Char.ofNat b.toNat)) = [b] := by
  have hall : ∀ n : Fin 128,
      ofText (String.singleton (Char.ofNat n)) = [UInt8.ofNat n] := by
    decide
  have hb := hall ⟨b.toNat, h⟩
  rwa [UInt8.ofNat_toNat] at hb

/-- Bytes of ASCII are a text. -/
theorem Bytes.exists_ofText {bs : Bytes} (h : ∀ b ∈ bs, b < 128) : ∃ s, bs = ofText s := by
  induction bs with
  | nil => exact ⟨"", rfl⟩
  | cons b bs ih =>
    obtain ⟨hb, hbs⟩ := List.forall_mem_cons.1 h
    obtain ⟨s, rfl⟩ := ih hbs
    refine ⟨String.singleton (Char.ofNat b.toNat) ++ s, ?_⟩
    rw [ofText_append, ofText_singleton hb]
    rfl

namespace Json

/-! ### Spellings -/

/-- The number that four hexadecimal digits stand for. -/
def unit? (a b c d : UInt8) : Option Nat := do
  return (← hexValue? a) * 0x1000 + (← hexValue? b) * 0x100 + (← hexValue? c) * 0x10
    + (← hexValue? d)

/-- The form of the character with this number. -/
def codeBytes (code : Nat) : Bytes :=
  Bytes.ofText (String.singleton (Char.ofNat code))

/-- **What is written between quotation marks spells these bytes.** -/
inductive Spells : Bytes → Bytes → Prop
  | nil : Spells [] []
  | plain {b : UInt8} {raw bs : Bytes} (hb : IsPlain b) (h : Spells raw bs) :
      Spells (b :: raw) (b :: bs)
  | letter {b c : UInt8} {raw bs : Bytes} (hc : unescape? c = some b) (h : Spells raw bs) :
      Spells (backslash :: c :: raw) (b :: bs)
  /-- A number that is no half of a pair is that of a character. -/
  | unit {a b c d : UInt8} {n : Nat} {raw bs : Bytes} (hn : unit? a b c d = some n)
      (hhigh : isHighHalf n = false) (hlow : isLowHalf n = false) (h : Spells raw bs) :
      Spells (backslash :: 'u'.toUInt8 :: a :: b :: c :: d :: raw) (codeBytes n ++ bs)
  /-- A first half needs the second right behind it. -/
  | pair {a b c d a' b' c' d' : UInt8} {high low : Nat} {raw bs : Bytes}
      (hn : unit? a b c d = some high) (hhigh : isHighHalf high = true)
      (hn' : unit? a' b' c' d' = some low) (hlow : isLowHalf low = true) (h : Spells raw bs) :
      Spells (backslash :: 'u'.toUInt8 :: a :: b :: c :: d :: backslash :: 'u'.toUInt8 :: a' :: b'
        :: c' :: d' :: raw) (codeBytes (joinHalves high low) ++ bs)

/-- A letter that means something may stand behind a backslash. -/
theorem isEscape_of_unescape? {b c : UInt8} (h : unescape? c = some b) :
    Scan.isEscape c = true := by
  unfold unescape? at h
  unfold Scan.isEscape
  grind

theorem isHex_of_unit? {a b c d : UInt8} {n : Nat} (h : unit? a b c d = some n) :
    IsHex a ∧ IsHex b ∧ IsHex c ∧ IsHex d := by
  simp only [unit?, Option.bind_eq_bind, Option.bind_eq_some_iff] at h
  obtain ⟨w, hw, x, hx, y, hy, z, hz, -⟩ := h
  simp [IsHex, hw, hx, hy, hz]

/-- What spells something may stand between quotation marks. -/
theorem isRaw_of_spells {raw bs : Bytes} (h : Spells raw bs) : IsRaw raw := by
  induction h with
  | nil => exact .nil
  | plain hb _ ih => exact .plain hb ih
  | letter hc _ ih => exact .escape (isEscape_of_unescape? hc) ih
  | unit hn _ _ _ ih =>
    obtain ⟨ha, hb, hc, hd⟩ := isHex_of_unit? hn
    exact .unicode ha hb hc hd ih
  | pair hn _ hn' _ _ ih =>
    obtain ⟨ha, hb, hc, hd⟩ := isHex_of_unit? hn
    obtain ⟨ha', hb', hc', hd'⟩ := isHex_of_unit? hn'
    exact .unicode ha hb hc hd (.unicode ha' hb' hc' hd' ih)

/-- What is written spells these bytes, behind a first half if one is waiting. -/
def Completes : Option Nat → Bytes → Bytes → Prop
  | none, raw, bs => Spells raw bs
  | some high, raw, bs => ∃ a b c d low rest more,
      raw = backslash :: 'u'.toUInt8 :: a :: b :: c :: d :: rest ∧ unit? a b c d = some low ∧
        isLowHalf low = true ∧ Spells rest more ∧ bs = codeBytes (joinHalves high low) ++ more

/-- A byte that may stand by itself spells itself, and completes no pair. -/
theorem completes_plain_iff {b : UInt8} {raw out : Bytes} {high : Option Nat} (hb : IsPlain b) :
    Completes high (b :: raw) out ↔ high = none ∧ ∃ bs, Spells raw bs ∧ out = b :: bs := by
  cases high with
  | none =>
    constructor
    · intro h
      cases h with
      | plain _ h => exact ⟨rfl, _, h, rfl⟩
      | _ => exact absurd rfl hb.2.1
    · rintro ⟨-, bs, h, rfl⟩
      exact .plain hb h
  | some high =>
    constructor
    · rintro ⟨a, b, c, d, low, rest, more, hraw, -⟩
      cases hraw
      exact absurd rfl hb.2.1
    · rintro ⟨⟨⟩, -⟩

/-- So does a letter behind a backslash. -/
theorem completes_letter_iff {b c : UInt8} {raw out : Bytes} {high : Option Nat}
    (hc : unescape? c = some b) :
    Completes high (backslash :: c :: raw) out ↔
      high = none ∧ ∃ bs, Spells raw bs ∧ out = b :: bs := by
  cases high with
  | none =>
    constructor
    · intro h
      cases h with
      | plain hb _ => exact absurd rfl hb.2.1
      | letter hb h =>
        cases hc.symm.trans hb
        exact ⟨rfl, _, h, rfl⟩
      | _ => cases hc
    · rintro ⟨-, bs, h, rfl⟩
      exact .letter hc h
  | some high =>
    constructor
    · rintro ⟨a, b, c, d, low, rest, more, hraw, -⟩
      cases hraw
      cases hc
    · rintro ⟨⟨⟩, -⟩

/-- A number spells its character or completes a pair, unless it is a first half. -/
theorem completes_unit_iff {a b c d : UInt8} {n : Nat} {raw out : Bytes} {high : Option Nat}
    (hn : unit? a b c d = some n) :
    Completes high (backslash :: 'u'.toUInt8 :: a :: b :: c :: d :: raw) out ↔
      match high with
      | none =>
        if isHighHalf n = true then Completes (some n) raw out
        else isLowHalf n = false ∧ ∃ bs, Spells raw bs ∧ out = codeBytes n ++ bs
      | some high =>
        isLowHalf n = true ∧ ∃ bs, Spells raw bs ∧ out = codeBytes (joinHalves high n) ++ bs := by
  cases high with
  | none =>
    constructor
    · intro h
      cases h with
      | plain hb _ => exact absurd rfl hb.2.1
      | letter hb _ => cases hb
      | unit hn' hhigh hlow h =>
        -- both numbers are those of the same four digits
        cases hn.symm.trans hn'
        simp only [hhigh]
        exact ⟨hlow, _, h, rfl⟩
      | pair hn' hhigh hlow hlow' h =>
        cases hn.symm.trans hn'
        simp only [hhigh]
        exact ⟨_, _, _, _, _, _, _, rfl, hlow, hlow', h, rfl⟩
    · intro h
      dsimp only at h
      split at h
      · next hhigh =>
        obtain ⟨a', b', c', d', low, rest, more, rfl, hlow, hlow', h, hout⟩ := h
        rw [hout]
        exact .pair hn hhigh hlow hlow' h
      · next hhigh =>
        obtain ⟨hlow, bs, h, rfl⟩ := h
        exact .unit hn (Bool.eq_false_iff.2 hhigh) hlow h
  | some high =>
    constructor
    · rintro ⟨a', b', c', d', low, rest, more, hraw, hlow, hlow', h, hout⟩
      cases hraw
      cases hn.symm.trans hlow
      exact ⟨hlow', more, h, hout⟩
    · rintro ⟨hlow, bs, h, hout⟩
      exact ⟨a, b, c, d, n, raw, bs, rfl, hn, hlow, h, hout⟩

/-! ### Reading -/

/-- A byte that may stand behind a backslash means something there. -/
theorem exists_unescape?_of_isEscape {c : UInt8} (h : Scan.isEscape c = true) :
    ∃ b, unescape? c = some b := by
  have hall : ∀ n : Fin 256, Scan.isEscape (UInt8.ofNat n) = true →
      (unescape? (UInt8.ofNat n)).isSome = true := by
    decide +kernel
  have hc := hall ⟨c.toNat, c.toNat_lt⟩
  rw [UInt8.ofNat_toNat] at hc
  exact Option.isSome_iff_exists.1 (hc h)

namespace TextScan

/-- The bytes of a string of which this much is still to be read. -/
def read? (s : TextScan) (raw : Bytes) : Option Bytes :=
  (raw.foldlM step? s).bind finish?

theorem read?_cons (s : TextScan) (b : UInt8) (raw : Bytes) :
    s.read? (b :: raw) = (s.step? b).bind fun next => next.read? raw := by
  rw [read?, List.foldlM_cons, Option.bind_eq_bind, Option.bind_assoc]
  rfl

variable (done : Bytes) (high : Option Nat) (raw : Bytes)

theorem read?_plain {b : UInt8} (hb : IsPlain b) :
    read? ⟨done, high, .plain⟩ (b :: raw) =
      (pushByte? ⟨done, high, .plain⟩ b).bind fun next => next.read? raw := by
  rw [read?_cons, step?]
  simp only [hb.2.1, if_false]

theorem read?_letter {b c : UInt8} (hc : unescape? c = some b) :
    read? ⟨done, high, .plain⟩ (backslash :: c :: raw) =
      (pushByte? ⟨done, high, .plain⟩ b).bind fun next => next.read? raw := by
  -- the letter is not the one that takes digits
  have hu : c ≠ 'u'.toUInt8 := by
    rintro rfl
    cases hc
  simp only [read?_cons, step?, if_true, hu, if_false, hc, Option.bind_some]
  rfl

theorem read?_unit {a b c d : UInt8} {n : Nat} (hn : unit? a b c d = some n) :
    read? ⟨done, high, .plain⟩ (backslash :: 'u'.toUInt8 :: a :: b :: c :: d :: raw) =
      (pushUnit? ⟨done, high, .plain⟩ n).bind fun next => next.read? raw := by
  simp only [unit?, Option.bind_eq_bind, Option.bind_eq_some_iff, Option.pure_def,
    Option.some.injEq] at hn
  obtain ⟨w, hw, x, hx, y, hy, z, hz, rfl⟩ := hn
  -- the digits are read from the left
  have hcode : (((0 * 16 + w) * 16 + x) * 16 + y) * 16 + z
      = w * 0x1000 + x * 0x100 + y * 0x10 + z := by
    omega
  simp only [read?_cons, step?, if_true, hw, hx, hy, hz, Option.bind_some, hcode]
  rfl

end TextScan

/-- What is read of the rest of a string is what this rest spells, behind what has been read. -/
def ReadsOn (raw : Bytes) : Prop :=
  ∀ high done out, TextScan.read? ⟨done, high, .plain⟩ raw = some out ↔
    ∃ bs, Completes high raw bs ∧ out = done.reverse ++ bs

theorem readsOn_nil : ReadsOn [] := by
  intro high done out
  cases high with
  | none =>
    constructor
    · intro h
      cases h
      exact ⟨[], .nil, (List.append_nil _).symm⟩
    · rintro ⟨bs, h, rfl⟩
      cases h
      rw [List.append_nil]
      rfl
  | some high =>
    constructor
    · intro h
      cases h
    · rintro ⟨bs, ⟨a, b, c, d, low, rest, more, hraw, -⟩, -⟩
      cases hraw

/-- What spells a byte is read as this byte, unless the second half of a pair is due. -/
theorem readsOn_of_byte {written raw : Bytes} {b : UInt8} (hraw : ReadsOn raw)
    (hread : ∀ done high, TextScan.read? ⟨done, high, .plain⟩ written =
      (TextScan.pushByte? ⟨done, high, .plain⟩ b).bind fun next => next.read? raw)
    (hspells : ∀ high out, Completes high written out ↔
      high = none ∧ ∃ bs, Spells raw bs ∧ out = b :: bs) : ReadsOn written := by
  intro high done out
  rw [hread]
  simp only [hspells]
  cases high with
  | none =>
    refine (hraw none (b :: done) out).trans ?_
    constructor
    · rintro ⟨bs, h, rfl⟩
      exact ⟨b :: bs, ⟨rfl, bs, h, rfl⟩, by simp⟩
    · rintro ⟨_, ⟨-, bs, h, rfl⟩, rfl⟩
      exact ⟨bs, h, by simp⟩
  | some high =>
    constructor
    · intro h
      cases h
    · rintro ⟨_, ⟨⟨⟩, -⟩, -⟩

/-- A number is read as its character, as the first half of a pair or as the second. -/
theorem readsOn_unit {a b c d : UInt8} {n : Nat} {raw : Bytes} (hraw : ReadsOn raw)
    (hn : unit? a b c d = some n) :
    ReadsOn (backslash :: 'u'.toUInt8 :: a :: b :: c :: d :: raw) := by
  intro high done out
  rw [TextScan.read?_unit done high raw hn]
  simp only [completes_unit_iff hn]
  -- the form of a character goes behind what has been read
  have hcode (code : Nat) :
      TextScan.read? ⟨(codeBytes code).reverse ++ done, none, .plain⟩ raw = some out ↔
        ∃ bs, (∃ more, Spells raw more ∧ bs = codeBytes code ++ more) ∧
          out = done.reverse ++ bs := by
    refine (hraw none _ out).trans ?_
    constructor
    · rintro ⟨bs, h, rfl⟩
      exact ⟨_, ⟨bs, h, rfl⟩, by simp⟩
    · rintro ⟨_, ⟨bs, h, rfl⟩, rfl⟩
      exact ⟨bs, h, by simp⟩
  cases high with
  | none =>
    by_cases hhigh : isHighHalf n = true
    · -- a first half is kept until the second comes
      simp only [TextScan.pushUnit?, hhigh, if_true, Option.bind_some]
      exact hraw (some n) done out
    · cases hlow : isLowHalf n with
      | true => simp [TextScan.pushUnit?, hhigh, hlow]
      | false =>
        simp only [TextScan.pushUnit?, hhigh, hlow, Bool.false_eq_true, if_false, Option.bind_some,
          true_and]
        exact hcode n
  | some high =>
    -- a first half is waiting, so anything but a second half is refused
    cases hlow : isLowHalf n with
    | false => simp [TextScan.pushUnit?, hlow]
    | true =>
      simp only [TextScan.pushUnit?, hlow, if_true, Option.bind_some, true_and]
      exact hcode (joinHalves high n)

theorem exists_unit?_of_isHex {a b c d : UInt8} (ha : IsHex a) (hb : IsHex b) (hc : IsHex c)
    (hd : IsHex d) : ∃ n, unit? a b c d = some n := by
  obtain ⟨w, hw⟩ := Option.isSome_iff_exists.1 ha
  obtain ⟨x, hx⟩ := Option.isSome_iff_exists.1 hb
  obtain ⟨y, hy⟩ := Option.isSome_iff_exists.1 hc
  obtain ⟨z, hz⟩ := Option.isSome_iff_exists.1 hd
  refine ⟨w * 0x1000 + x * 0x100 + y * 0x10 + z, ?_⟩
  rw [unit?, hw, hx, hy, hz]
  rfl

theorem readsOn_of_isRaw {raw : Bytes} (hraw : IsRaw raw) : ReadsOn raw := by
  -- each way to go on is one step of the scan, whether or not a first half is waiting
  induction hraw with
  | nil => exact readsOn_nil
  | @plain b raw hb _ ih =>
    exact readsOn_of_byte ih (fun done high => TextScan.read?_plain done high raw hb)
      fun _ _ => completes_plain_iff hb
  | @escape c raw hc _ ih =>
    obtain ⟨b, hb⟩ := exists_unescape?_of_isEscape hc
    exact readsOn_of_byte ih (fun done high => TextScan.read?_letter done high raw hb)
      fun _ _ => completes_letter_iff hb
  | unicode ha hb hc hd _ ih =>
    obtain ⟨n, hn⟩ := exists_unit?_of_isHex ha hb hc hd
    exact readsOn_unit ih hn

/-- **Reading a string** finds the text that is spelled. -/
theorem textOfRaw?_eq_some_iff {raw : Bytes} {text : String} (hraw : IsRaw raw) :
    textOfRaw? raw = some text ↔ Spells raw (Bytes.ofText text) := by
  have hread : textOfRaw? raw = (TextScan.read? ⟨[], none, .plain⟩ raw).bind Bytes.text? := by
    rw [textOfRaw?, TextScan.read?, Option.bind_assoc]
    rfl
  rw [hread, Option.bind_eq_some_iff]
  constructor
  · rintro ⟨bs, hbs, htext⟩
    -- nothing has been read before and no first half is waiting
    obtain ⟨spelled, h, hsame⟩ := (readsOn_of_isRaw hraw none [] bs).1 hbs
    rw [← Bytes.text?_eq_some_iff.1 htext, hsame]
    exact h
  · intro h
    exact ⟨_, (readsOn_of_isRaw hraw none [] _).2 ⟨_, h, rfl⟩, Bytes.text?_ofText text⟩

theorem textOfRaw?_of_spells {raw : Bytes} {text : String} (h : Spells raw (Bytes.ofText text)) :
    textOfRaw? raw = some text :=
  (textOfRaw?_eq_some_iff (isRaw_of_spells h)).2 h

/-! ### Writing -/

theorem hexValue?_hexDigit {n : Nat} (h : n < 16) : hexValue? (hexDigit n) = some n := by
  have hall : ∀ n : Fin 16, hexValue? (hexDigit n) = some n.val := by decide
  exact hall ⟨n, h⟩

/-- A control character may be written by its number. -/
theorem spells_control {b : UInt8} (hb : b < 0x20) {raw bs : Bytes} (h : Spells raw bs) :
    Spells (backslash :: 'u'.toUInt8 :: '0'.toUInt8 :: '0'.toUInt8 :: hexDigit (b.toNat / 16)
      :: hexDigit (b.toNat % 16) :: raw) (b :: bs) := by
  have hlt : b.toNat < 0x20 := hb
  have hunit : unit? '0'.toUInt8 '0'.toUInt8 (hexDigit (b.toNat / 16)) (hexDigit (b.toNat % 16))
      = some b.toNat := by
    have hzero : hexValue? '0'.toUInt8 = some 0 := by decide
    have hsum : 0 * 0x1000 + 0 * 0x100 + b.toNat / 16 * 0x10 + b.toNat % 16 = b.toNat := by omega
    rw [unit?, hzero, hexValue?_hexDigit (by omega), hexValue?_hexDigit (by omega)]
    exact congrArg some hsum
  have hhigh : isHighHalf b.toNat = false := by
    simp [isHighHalf]
    omega
  have hlow : isLowHalf b.toNat = false := by
    simp [isLowHalf]
    omega
  -- it is a character of ASCII, so its form is one byte
  have hcode : codeBytes b.toNat = [b] := Bytes.ofText_singleton (UInt8.lt_trans hb (by decide))
  have hspells := Spells.unit hunit hhigh hlow h
  rwa [hcode] at hspells

/-- **A byte is written** by itself, as a letter behind a backslash, or by its number. -/
theorem spells_escapeByte (b : UInt8) {raw bs : Bytes} (h : Spells raw bs) :
    Spells (escapeByte b ++ raw) (b :: bs) := by
  unfold escapeByte
  split
  · next hb => subst hb; exact .letter rfl h
  split
  · next hb => subst hb; exact .letter rfl h
  split
  · next hb => subst hb; exact .letter rfl h
  split
  · next hb => subst hb; exact .letter rfl h
  split
  · next hb => subst hb; exact .letter rfl h
  split
  · next hb => subst hb; exact .letter rfl h
  split
  · next hb => subst hb; exact .letter rfl h
  split
  · next hcontrol => exact spells_control hcontrol h
  · next hquote hbackslash _ _ _ _ _ hcontrol => exact .plain ⟨hquote, hbackslash, hcontrol⟩ h

/-- **A text is written** in one of its spellings. -/
theorem spells_rawOfText (text : String) : Spells (rawOfText text) (Bytes.ofText text) := by
  unfold rawOfText
  induction Bytes.ofText text with
  | nil => exact .nil
  | cons b bs ih =>
    rw [List.flatMap_cons]
    exact spells_escapeByte b ih

theorem isRaw_rawOfText (text : String) : IsRaw (rawOfText text) :=
  isRaw_of_spells (spells_rawOfText text)

@[simp] theorem textOfRaw?_rawOfText (text : String) : textOfRaw? (rawOfText text) = some text :=
  textOfRaw?_of_spells (spells_rawOfText text)

end Json

end RemoteAccount
