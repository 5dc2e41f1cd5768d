import Mathlib.Algebra.GroupWithZero.Nat
import RemoteAccount.Batch

/-!
# The wire format of batches

`WireFormat` sets down the bytes of a batch, without a word about how they are read:

* a count or a length is a number of eight bytes, the least significant first;
* a text is the length of its UTF-8 form and then this form;
* a list is the number of its items and then the items;
* an amount is a number of sixteen bytes, the least significant first;
* a message is packed as the text of its type URL, the length of its value, and its value, which
  holds its fields one after the other;
* a batch is the list of its packed messages.

A byte string is the form of a batch (`WireFormat.IsForm`) if it is these bytes and the counts in it
are numbers of eight bytes. Below `2 ^ 64` bytes the latter goes without saying.

`Registry.decode_exactly` says that a host which knows some of the kinds of `Message` decodes the
forms of the batches of these kinds, the empty one apart, to these batches and nothing else to
anything. It rests on the laws of binary forms, which hold of every form by itself, and on
`WireFormat.write_batch`: batches are written in this format.
-/

namespace RemoteAccount

/-! ### The format -/

namespace WireFormat

/-- A count or a length. -/
def count (n : Nat) : Bytes :=
  Numeral.little 8 n

/-- Bytes behind their length. -/
def sized (bs : Bytes) : Bytes :=
  count bs.length ++ bs

def text (s : String) : Bytes :=
  sized (Bytes.ofText s)

/-- Items behind their number. -/
def items (forms : List Bytes) : Bytes :=
  count forms.length ++ forms.flatten

def coin (c : Coin) : Bytes :=
  text c.denom ++ Numeral.little 16 c.amount.val

/-- What a message says. -/
def value : Message → Bytes
  | .send t => text t.sender ++ text t.recipient ++ items (t.coins.map coin)
  | .put p => text p.owner ++ text p.key ++ text p.value
  | .orphan o => text o.owner
  | .vote v => items (v.voters.map text)

/-- A message as it stands in a batch. -/
def packed (m : Message) : Bytes :=
  text m.typeUrl ++ sized (value m)

def batch (ms : List Message) : Bytes :=
  items (ms.map packed)

/-- **The form of a batch.** The number of its messages and the lengths of their values can be
written with eight bytes. Every other count stands inside of a value, and is smaller. -/
structure IsForm (ms : List Message) (bs : Bytes) : Prop where
  eq : bs = batch ms
  count_lt : ms.length < 2 ^ 64
  length_lt : ∀ m ∈ ms, (value m).length < 2 ^ 64

end WireFormat

/-! ### What is written is in the format -/

namespace WireFormat

theorem length_sized (bs : Bytes) : (sized bs).length = 8 + bs.length := by
  rw [sized, count, List.length_append, Numeral.length_little]

theorem write_bytes (bs : Bytes) : WireForm.write bs = sized bs := by
  have hbytes : bs.flatMap WireForm.write = bs := List.flatMap_singleton' bs
  exact congrArg (count bs.length ++ ·) hbytes

theorem write_text (s : String) : WireForm.write s = text s :=
  write_bytes (Bytes.ofText s)

theorem write_items {α : Type} [WireForm α] {form : α → Bytes}
    (h : ∀ a, WireForm.write a = form a) (as : List α) :
    WireForm.write as = items (as.map form) := by
  have hitems : as.flatMap WireForm.write = (as.map form).flatten := by
    rw [List.flatMap_def, funext h]
  rw [items, List.length_map, ← hitems]
  rfl

theorem write_coin (c : Coin) : WireForm.write c = coin c :=
  congrArg (· ++ Numeral.little 16 c.amount.val) (write_text c.denom)

example : WireForm.write (⟨"a", ⟨258, by decide⟩⟩ : Coin) =
    [1, 0, 0, 0, 0, 0, 0, 0, 97] ++ [2, 1, 0, 0, 0, 0, 0, 0, 0, 0, 0, 0, 0, 0, 0, 0] := by
  decide

theorem value_eq (m : Message) : m.value = value m := by
  cases m with
  | send t =>
    change WireForm.write t.sender ++ (WireForm.write t.recipient ++ WireForm.write t.coins) = _
    rw [write_text, write_text, write_items write_coin, ← List.append_assoc]
    rfl
  | put p =>
    change WireForm.write p.owner ++ (WireForm.write p.key ++ WireForm.write p.value) = _
    rw [write_text, write_text, write_text, ← List.append_assoc]
    rfl
  | orphan o => exact write_text o.owner
  | vote v => exact write_items write_text v.voters

theorem write_packed (m : Message) : WireForm.write (PackedMessage.ofMessage m) = packed m := by
  change WireForm.write m.typeUrl ++ WireForm.write m.value = _
  rw [write_text, write_bytes, value_eq]
  rfl

/-- **Batches are written in the format.** -/
theorem write_batch (ms : List Message) : WireForm.write (Batch.ofMessages ms) = batch ms := by
  change WireForm.write (ms.map PackedMessage.ofMessage) = _
  rw [batch, write_items (fun _ => rfl) (ms.map PackedMessage.ofMessage), List.map_map]
  exact congrArg items (List.map_congr_left fun m _ => write_packed m)

/-! ### The counts of a batch -/

/-- The type URL of a message is short. -/
theorem length_typeUrl_lt (m : Message) : (Bytes.ofText m.typeUrl).length < 2 ^ 64 := by
  rw [Message.typeUrl]
  cases m.kind <;> decide

/-- The lengths inside a packed message fit if that of its value does. -/
theorem fits_ofMessage_iff {m : Message} :
    LawfulWireForm.Fits (PackedMessage.ofMessage m) ↔ (value m).length < 2 ^ 64 := by
  rw [← value_eq]
  constructor
  · rintro ⟨-, hvalue, -⟩
    exact hvalue
  · intro hvalue
    exact ⟨⟨length_typeUrl_lt m, fun _ _ => trivial⟩, hvalue, fun _ _ => trivial⟩

theorem fits_ofMessages_iff {ms : List Message} :
    LawfulWireForm.Fits (Batch.ofMessages ms) ↔
      ms.length < 2 ^ 64 ∧ ∀ m ∈ ms, (value m).length < 2 ^ 64 := by
  change (ms.map PackedMessage.ofMessage).length < _ ∧
    (∀ packed ∈ ms.map PackedMessage.ofMessage, LawfulWireForm.Fits packed) ↔ _
  rw [List.length_map, List.forall_mem_map]
  simp only [fits_ofMessage_iff]
  rfl

/-- **The form of a batch is received as the batch**, and nothing else is. -/
theorem receive?_eq_some_iff {ms : List Message} {bs : Bytes} :
    Wire.receive? bs = some (Batch.ofMessages ms) ↔ IsForm ms bs := by
  rw [Wire.receive?_eq_some_iff_fits, fits_ofMessages_iff, write_batch]
  constructor
  · rintro ⟨⟨hcount, hlength⟩, rfl⟩
    exact ⟨rfl, hcount, hlength⟩
  · rintro ⟨rfl, hcount, hlength⟩
    exact ⟨⟨hcount, hlength⟩, rfl⟩

/-- In a form that can be addressed no count is too large. -/
theorem isForm_of_length_lt {ms : List Message} (h : (batch ms).length < 2 ^ 64) :
    IsForm ms (batch ms) := by
  rw [← write_batch] at h
  obtain ⟨hcount, hlength⟩ := fits_ofMessages_iff.1 (LawfulWireForm.fits_of_length_lt h)
  exact ⟨rfl, hcount, hlength⟩

/-- The lengths of the packed values can be written with eight bytes. -/
theorem IsForm.length_value_lt {ms : List Message} {bs : Bytes} (h : IsForm ms bs) :
    ∀ p ∈ (Batch.ofMessages ms).messages, p.value.length < 2 ^ 64 := by
  intro p hp
  obtain ⟨m, hm, rfl⟩ := List.mem_map.1 hp
  have hvalue : (PackedMessage.ofMessage m).value = value m := value_eq m
  rw [hvalue]
  exact h.length_lt m hm

/-- No form is the beginning of another, and a form tells the packed messages. -/
theorem IsForm.ofMessages_eq {ms ms' : List Message} {bs rest : Bytes} (h : IsForm ms bs)
    (h' : IsForm ms' (bs ++ rest)) : Batch.ofMessages ms = Batch.ofMessages ms' ∧ rest = [] := by
  have hread : WireForm.read (bs ++ rest) = some (Batch.ofMessages ms, rest) := by
    rw [LawfulWireForm.read_eq_some_iff, fits_ofMessages_iff, write_batch, h.eq]
    exact ⟨⟨h.count_lt, h.length_lt⟩, rfl⟩
  -- the same bytes are read only once
  have hread' : WireForm.read (bs ++ rest) = some (Batch.ofMessages ms', []) :=
    Reader.whole?_eq_some.1 (receive?_eq_some_iff.2 h')
  exact Prod.mk.inj (Option.some.inj (hread.symm.trans hread'))

/-! ### Sending -/

theorem pack?_eq (m : Message) :
    PackedMessage.pack? m =
      if (value m).length ≤ Wire.maxBytes then some (.ofMessage m) else none := by
  rw [← value_eq]
  change (Wire.bounded? m.value).map _ = _
  rw [Wire.bounded?]
  split <;> rfl

/-- No value is longer than the batch it stands in. -/
theorem length_value_le {m : Message} {ms : List Message} (h : m ∈ ms) :
    (value m).length ≤ (batch ms).length := by
  obtain ⟨front, back, rfl⟩ := List.append_of_mem h
  simp only [batch, items, packed, sized, List.map_append, List.map_cons, List.flatten_append,
    List.flatten_cons, List.length_append]
  omega

/-- **Batches are sent in their form**, if it is not too long. A value that is too long by itself
makes no difference, since then so is the batch. -/
theorem encode_eq (ms : List Message) :
    Batch.encode ms =
      if (batch ms).length ≤ Wire.maxBytes then .ok (batch ms)
      else .error (.encode Wire.tooLong) := by
  have hsend : Wire.send? (Batch.ofMessages ms) =
      if (batch ms).length ≤ Wire.maxBytes then some (batch ms) else none := by
    rw [Wire.send?, write_batch, Wire.bounded?]
  have hbatch : (ms.mapM PackedMessage.pack?).bind (fun packed => Wire.send? (Batch.mk packed)) =
      Wire.send? (Batch.ofMessages ms) := by
    by_cases hlong : ∃ m ∈ ms, ¬ (value m).length ≤ Wire.maxBytes
    · -- the message cannot be packed, and the batch could not be sent
      obtain ⟨m, hm, hlong⟩ := hlong
      have hpacked : ms.mapM PackedMessage.pack? = none := by
        rw [Option.eq_none_iff_forall_ne_some]
        intro packed hpacked
        have hmem : PackedMessage.pack? m ∈ ms.map PackedMessage.pack? := List.mem_map_of_mem hm
        rw [mapM_eq_some_iff.1 hpacked, pack?_eq, if_neg hlong] at hmem
        simp at hmem
      rw [hpacked, hsend, if_neg fun hlength => hlong (Nat.le_trans (length_value_le hm) hlength)]
      rfl
    · have hpacked : ms.mapM PackedMessage.pack? = some (ms.map PackedMessage.ofMessage) := by
        rw [mapM_eq_some_iff, List.map_map]
        refine List.map_congr_left fun m hm => ?_
        rw [pack?_eq, if_pos (Classical.byContradiction fun h => hlong ⟨m, hm, h⟩)]
        rfl
      rw [hpacked]
      rfl
  rw [Batch.encode, hbatch, hsend]
  by_cases hlength : (batch ms).length ≤ Wire.maxBytes
  · rw [if_pos hlength, if_pos hlength]
  · rw [if_neg hlength, if_neg hlength]

/-- What is sent is the form of the batch. -/
theorem isForm_of_encode {ms : List Message} {bs : Bytes} (h : Batch.encode ms = .ok bs) :
    IsForm ms bs := by
  rw [encode_eq] at h
  split at h
  · next hlength =>
    cases h
    exact isForm_of_length_lt (Nat.lt_of_le_of_lt hlength (by decide))
  · cases h

end WireFormat

/-! ### Registries of kinds -/

namespace Registry

/-- Bytes that are decoded hold packed messages, each of which is unpacked. -/
theorem exists_packed_of_decode {M : Type} [ChainMessage M] {registry : Registry M} {bs : Bytes}
    {ms : List M} (h : registry.decode bs = .ok ms) :
    ∃ packed, Wire.receive? bs = some (Batch.mk packed) ∧
      packed.map registry.unpack? = ms.map some := by
  unfold decode at h
  split at h
  · next unpacked hunpacked =>
    cases h
    obtain ⟨⟨packed⟩, hreceived, hall⟩ := Option.bind_eq_some_iff.1 hunpacked
    obtain ⟨_, -, hmapM⟩ := Option.bind_eq_some_iff.1 hall
    exact ⟨packed, hreceived, mapM_eq_some_iff.1 hmapM⟩
  · cases h

/-- The registry of some of the kinds of `Message`. -/
def ofKinds (kinds : List Message.Kind) : Registry :=
  kinds.foldl insert empty

theorem find?_insert (r : Registry) (k : Message.Kind) (typeUrl : String) :
    (r.insert k).find? typeUrl =
      if k.typeUrl = typeUrl then some (Message.ofValue? k) else r.find? typeUrl := by
  simp [find?, insert, register, Std.ExtTreeMap.getElem?_insert]

theorem find?_foldl_insert (r : Registry) (kinds : List Message.Kind) (typeUrl : String) :
    (kinds.foldl insert r).find? typeUrl =
      ((kinds.find? (·.typeUrl = typeUrl)).map Message.ofValue?).or (r.find? typeUrl) := by
  induction kinds generalizing r with
  | nil => rfl
  | cons k kinds ih =>
    rw [List.foldl_cons, ih, find?_insert, List.find?_cons]
    by_cases hurl : k.typeUrl = typeUrl
    · -- a later kind of the same type URL is the same kind
      cases hlater : kinds.find? (·.typeUrl = typeUrl) with
      | none => simp [hurl]
      | some l =>
        have hl : l.typeUrl = typeUrl := by simpa using List.find?_some hlater
        rw [Message.Kind.typeUrl_injective (hurl.trans hl.symm)]
        simp [hl]
    · simp [hurl]

/-- What is registered is the way to read the kind of the type URL. -/
theorem find?_ofKinds (kinds : List Message.Kind) (typeUrl : String) :
    (ofKinds kinds).find? typeUrl =
      (kinds.find? (·.typeUrl = typeUrl)).map Message.ofValue? := by
  have hempty : (empty : Registry).find? typeUrl = none := by simp [find?, empty]
  rw [ofKinds, find?_foldl_insert, hempty, Option.or_none]

theorem exists_of_find?_ofKinds {kinds : List Message.Kind} {typeUrl : String}
    {decoder : Bytes → Option Message} (h : (ofKinds kinds).find? typeUrl = some decoder) :
    ∃ k, k.typeUrl = typeUrl ∧ decoder = Message.ofValue? k := by
  rw [find?_ofKinds] at h
  obtain ⟨k, hk, rfl⟩ := Option.map_eq_some_iff.1 h
  exact ⟨k, by simpa using List.find?_some hk, rfl⟩

/-- The type URL of a message is registered exactly if its kind is among the kinds. -/
theorem contains_ofKinds_iff {kinds : List Message.Kind} {m : Message} :
    (ofKinds kinds).contains m.typeUrl = true ↔ m.kind ∈ kinds := by
  rw [contains, find?_ofKinds, Option.isSome_map, List.find?_isSome]
  constructor
  · rintro ⟨k, hk, hurl⟩
    rwa [← Message.Kind.typeUrl_injective (of_decide_eq_true hurl)]
  · intro h
    exact ⟨m.kind, h, decide_eq_true rfl⟩

/-- **Unpacking** a value that is not too long gives exactly the message that was packed, if its
kind is registered. -/
theorem unpack?_eq_some_iff {kinds : List Message.Kind} {packed : PackedMessage} {m : Message}
    (h : packed.value.length < 2 ^ 64) :
    (ofKinds kinds).unpack? packed = some m ↔
      (ofKinds kinds).contains m.typeUrl = true ∧ packed = .ofMessage m := by
  constructor
  · intro hm
    obtain ⟨decoder, hfind, hm⟩ := Option.bind_eq_some_iff.1 hm
    have hurl : m.typeUrl = packed.typeUrl := (ofKinds kinds).typeUrl_eq hfind hm
    obtain ⟨k, -, rfl⟩ := exists_of_find?_ofKinds hfind
    obtain ⟨body, hbody, rfl⟩ := Option.map_eq_some_iff.1 hm
    -- the value is used up by what it says, so it is the value of the message
    have hvalue : packed.value = WireForm.write body := (Wire.receive?_eq_some_iff h).1 hbody
    refine ⟨?_, ?_⟩
    · rw [contains, hurl, hfind]
      rfl
    · calc packed = ⟨packed.typeUrl, packed.value⟩ := rfl
        _ = .ofMessage (Message.ofBody k body) := by
            rw [← hurl, hvalue, ← Message.value_ofBody]
            rfl
  · rintro ⟨hcontains, rfl⟩
    obtain ⟨decoder, hfind⟩ := Option.isSome_iff_exists.1 hcontains
    obtain ⟨k, hk, rfl⟩ := exists_of_find?_ofKinds hfind
    -- the type URL tells the kind
    have hkind : k = m.kind := Message.Kind.typeUrl_injective hk
    subst hkind
    exact Option.bind_eq_some_iff.2 ⟨_, hfind, Message.ofValue?_value h⟩

theorem mapM_unpack?_eq_some_iff {kinds : List Message.Kind} {packed : List PackedMessage}
    {ms : List Message} (h : ∀ p ∈ packed, p.value.length < 2 ^ 64) :
    packed.mapM (ofKinds kinds).unpack? = some ms ↔
      (∀ m ∈ ms, (ofKinds kinds).contains m.typeUrl = true) ∧
        packed = ms.map PackedMessage.ofMessage := by
  induction packed generalizing ms with
  | nil => cases ms <;> simp
  | cons p packed ih =>
    obtain ⟨hp, hrest⟩ := List.forall_mem_cons.1 h
    rw [List.mapM_cons]
    simp only [Option.bind_eq_bind, Option.bind_eq_some_iff, unpack?_eq_some_iff hp, ih hrest]
    constructor
    · rintro ⟨m, ⟨hm, rfl⟩, ms', ⟨hms, rfl⟩, heq⟩
      cases heq
      exact ⟨List.forall_mem_cons.2 ⟨hm, hms⟩, rfl⟩
    · rintro ⟨hms, hpacked⟩
      cases ms with
      | nil => cases hpacked
      | cons m ms =>
        obtain ⟨hm, hms⟩ := List.forall_mem_cons.1 hms
        cases hpacked
        exact ⟨m, ⟨hm, rfl⟩, ms, ⟨hms, rfl⟩, rfl⟩

theorem unpackAll?_eq_some_iff {kinds : List Message.Kind} {batch : Batch} {ms : List Message}
    (h : ∀ p ∈ batch.messages, p.value.length < 2 ^ 64) :
    (ofKinds kinds).unpackAll? batch = some ms ↔
      ms ≠ [] ∧ (∀ m ∈ ms, (ofKinds kinds).contains m.typeUrl = true) ∧
        batch = .ofMessages ms := by
  obtain ⟨packed⟩ := batch
  have hbatch : Batch.mk packed = .ofMessages ms ↔ packed = ms.map PackedMessage.ofMessage :=
    Batch.mk.injEq _ _ ▸ Iff.rfl
  rw [hbatch, ← mapM_unpack?_eq_some_iff h, unpackAll?, Option.bind_eq_bind,
    Option.bind_eq_some_iff]
  constructor
  · rintro ⟨_, hguard, hms⟩
    refine ⟨?_, hms⟩
    rintro rfl
    -- nothing but an empty batch is unpacked to no message
    obtain ⟨-, rfl⟩ := (mapM_unpack?_eq_some_iff h).1 hms
    cases hguard
  · rintro ⟨hne, hms⟩
    obtain ⟨-, rfl⟩ := (mapM_unpack?_eq_some_iff h).1 hms
    refine ⟨(), ?_, hms⟩
    cases ms with
    | nil => exact absurd rfl hne
    | cons m ms => rfl

/-- **Decoding** gives a batch exactly if it is not empty, all of its kinds are registered, and the
bytes are its form. -/
theorem decode_eq_ok_iff {kinds : List Message.Kind} {bs : Bytes} {ms : List Message} :
    (ofKinds kinds).decode bs = .ok ms ↔
      ms ≠ [] ∧ (∀ m ∈ ms, (ofKinds kinds).contains m.typeUrl = true) ∧
        WireFormat.IsForm ms bs := by
  have hdecode : (ofKinds kinds).decode bs = .ok ms ↔
      (Wire.receive? bs).bind (ofKinds kinds).unpackAll? = some ms := by
    rw [decode]
    cases (Wire.receive? bs).bind (ofKinds kinds).unpackAll? <;> simp
  rw [hdecode, Option.bind_eq_some_iff]
  constructor
  · rintro ⟨batch, hbatch, hms⟩
    -- the values of a batch that was read have lengths of eight bytes
    obtain ⟨⟨-, hfits⟩, -⟩ := Wire.receive?_eq_some_iff_fits.1 hbatch
    obtain ⟨hne, hregistered, rfl⟩ :=
      (unpackAll?_eq_some_iff fun p hp => (hfits p hp).2.1).1 hms
    exact ⟨hne, hregistered, WireFormat.receive?_eq_some_iff.1 hbatch⟩
  · rintro ⟨hne, hregistered, hform⟩
    refine ⟨_, WireFormat.receive?_eq_some_iff.2 hform, ?_⟩
    exact (unpackAll?_eq_some_iff hform.length_value_lt).2 ⟨hne, hregistered, rfl⟩

/-- **Forms are told apart**: no form is the beginning of another, and a form belongs to one
batch. -/
theorem eq_of_isForm {ms ms' : List Message} {bs rest : Bytes} (h : WireFormat.IsForm ms bs)
    (h' : WireFormat.IsForm ms' (bs ++ rest)) : ms = ms' ∧ rest = [] := by
  obtain ⟨hmessages, hrest⟩ := h.ofMessages_eq h'
  refine ⟨?_, hrest⟩
  -- a registry of all kinds unpacks the same packed messages to either batch
  have hall (m : Message) : m.kind ∈ [Message.Kind.send, .put, .orphan, .vote] := by
    cases m.kind <;> decide
  have hms := (mapM_unpack?_eq_some_iff h.length_value_lt).2
    ⟨fun m _ => contains_ofKinds_iff.2 (hall m), rfl⟩
  have hms' := (mapM_unpack?_eq_some_iff h.length_value_lt).2
    ⟨fun m _ => contains_ofKinds_iff.2 (hall m), congrArg Batch.messages hmessages⟩
  exact Option.some.inj (hms.symm.trans hms')

/-- A form is decoded to its batch, if the host knows all that is in it, and if anything is. -/
theorem decode_of_isForm {kinds : List Message.Kind} {ms : List Message} {bs : Bytes}
    (h : WireFormat.IsForm ms bs) :
    (ofKinds kinds).decode bs =
      if ms ≠ [] ∧ ∀ m ∈ ms, (ofKinds kinds).contains m.typeUrl = true then .ok ms
      else .error .decode := by
  split
  · next hknown => exact decode_eq_ok_iff.2 ⟨hknown.1, hknown.2, h⟩
  · next hunknown =>
    refine decode_eq_error fun ms' hms' => hunknown ?_
    obtain ⟨hne, hknown, hform⟩ := decode_eq_ok_iff.1 hms'
    -- the bytes are the form of no other batch
    obtain ⟨rfl, -⟩ := eq_of_isForm h ((List.append_nil bs).symm ▸ hform)
    exact ⟨hne, hknown⟩

/-- **The codec of batches accepts exactly the wire format.**

A registry of some kinds decodes a byte string of any length to a batch if and only if the batch is
not empty, all of its type URLs are registered, and the byte string is its form; to every other
byte string it answers that it cannot be decoded. A type URL is registered if the kind is among
those of the registry. Below `2 ^ 64` bytes the form of a batch is `WireFormat.batch`; it belongs to
no other batch and is not the beginning of the form of one, so nothing may follow it. And a batch is
encoded as `WireFormat.batch`, up to 1048576 bytes. -/
theorem decode_exactly (kinds : List Message.Kind) :
    (∀ bs ms, (ofKinds kinds).decode bs = .ok ms ↔
      ms ≠ [] ∧ (∀ m ∈ ms, (ofKinds kinds).contains m.typeUrl = true) ∧
        WireFormat.IsForm ms bs) ∧
    (∀ bs, (∀ ms, (ofKinds kinds).decode bs ≠ .ok ms) →
      (ofKinds kinds).decode bs = .error .decode) ∧
    (∀ m : Message, (ofKinds kinds).contains m.typeUrl = true ↔ m.kind ∈ kinds) ∧
    (∀ ms bs, bs.length < 2 ^ 64 → (WireFormat.IsForm ms bs ↔ bs = WireFormat.batch ms)) ∧
    (∀ ms ms' bs rest, WireFormat.IsForm ms bs → WireFormat.IsForm ms' (bs ++ rest) →
      ms = ms' ∧ rest = []) ∧
    ∀ ms : List Message, Batch.encode ms =
      if (WireFormat.batch ms).length ≤ 1048576 then .ok (WireFormat.batch ms)
      else .error (.encode "the size limit has been reached") := by
  refine ⟨fun _ _ => decode_eq_ok_iff, fun _ => decode_eq_error, fun _ => contains_ofKinds_iff, ?_,
    fun _ _ _ _ => eq_of_isForm, WireFormat.encode_eq⟩
  intro ms bs hbs
  constructor
  · exact fun h => h.eq
  · rintro rfl
    exact WireFormat.isForm_of_length_lt hbs

/-- One byte behind the value of a message spoils the batch, although the length of the value counts
it. -/
example :
    let value := WireFormat.text "ica1" ++ [0]
    let batch := WireFormat.items [WireFormat.text "/kv.v1.MsgOrphan" ++ WireFormat.sized value]
    ((ofKinds [.orphan]).decode batch).toOption = none := by
  decide +kernel

end Registry

end RemoteAccount
