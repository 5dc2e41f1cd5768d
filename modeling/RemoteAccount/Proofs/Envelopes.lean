import Mathlib.Data.List.Forall2
import Mathlib.Data.List.Nodup
import Mathlib.Data.Option.Basic
import RemoteAccount.Proofs.Json.Lawful
import RemoteAccount.Proofs.Json.Rendered

/-!
# Which envelopes can be read

All validators have to agree on what is an envelope and what is none. `Envelope.HeldBy` says which
envelope some fields hold, by their names and values alone: nothing but a type, data and a memo is
there, none of them twice, and only the memo may be missing; all of them are strings, and the data
is the base64 form of some bytes, of which the padding may be missing in part. The order of the
fields, the blanks around them and the spelling of their names and values make no difference.

`Envelope.parses_exactly` says that these envelopes are read, and nothing else:

* an object is read as the envelope that its fields hold (`Envelope.ofJson?_object_iff`);
* an array of two or three items is read as the object of these items under the names in their order
  (`Envelope.ofJson?_array_iff`);
* behind a value there may be blanks and nothing else (`Json.parse?_append_of_renders`).
-/

namespace RemoteAccount

namespace Json

/-! ### What values say -/

/-- The value is a string that spells this text. -/
def Says (json : Json) (text : String) : Prop :=
  ∃ raw, json = .text raw ∧ Spells raw (Bytes.ofText text)

/-- The value is a string of the base64 form of these bytes, of which some of the padding may be
missing. -/
def SaysBytes (json : Json) (bs : Bytes) : Prop :=
  ∃ text dropped, json.Says text ∧
    Bytes.ofText text ++ List.replicate dropped Base64.pad = Base64.encode bs

theorem text?_eq_some_iff {json : Json} {text : String} (h : json.WellFormed) :
    json.text? = some text ↔ json.Says text := by
  cases json with
  | text raw =>
    have hraw : IsRaw raw := h (.text raw) List.mem_cons_self
    refine (textOfRaw?_eq_some_iff hraw).trans ?_
    constructor
    · exact fun hspells => ⟨raw, rfl, hspells⟩
    · rintro ⟨_, ⟨⟩, hspells⟩
      exact hspells
  | _ =>
    constructor
    · intro htext
      cases htext
    · rintro ⟨raw, ⟨⟩, -⟩

theorem bytes?_eq_some_iff {json : Json} {bs : Bytes} (h : json.WellFormed) :
    json.bytes? = some bs ↔ json.SaysBytes bs := by
  rw [bytes?, Option.bind_eq_bind, Option.bind_eq_some_iff]
  simp only [text?_eq_some_iff h, Base64.decode?_eq_some_iff]
  constructor
  · rintro ⟨text, hsays, dropped, hencode⟩
    exact ⟨text, dropped, hsays, hencode⟩
  · rintro ⟨text, dropped, hsays, hencode⟩
    exact ⟨text, hsays, dropped, hencode⟩

/-! ### What members hold -/

/-- The keys of the members spell the names of the fields, and the values are the same. -/
def Spell (members : List (Bytes × Json)) (fields : List (String × Json)) : Prop :=
  List.Forall₂ (fun member field =>
    Spells member.1 (Bytes.ofText field.1) ∧ member.2 = field.2) members fields

theorem members?_of_spell {members : List (Bytes × Json)} {fields : List (String × Json)}
    (h : Spell members fields) : members? members = some fields := by
  rw [members?, mapM_eq_some_iff]
  induction h with
  | nil => rfl
  | @cons member field members fields hmember _ ih =>
    obtain ⟨key, value⟩ := member
    obtain ⟨hname, hvalue⟩ := hmember
    have hfirst : (textOfRaw? key).map (·, value) = some field := by
      rw [textOfRaw?_of_spells hname, Option.map_some]
      exact congrArg some (Prod.ext rfl hvalue)
    rw [List.map_cons, List.map_cons, ih]
    exact congrArg (· :: fields.map some) hfirst

theorem wellFormed_of_spell {members : List (Bytes × Json)} {fields : List (String × Json)}
    (hvalues : ∀ member ∈ members, member.2.WellFormed) (h : Spell members fields) :
    ∀ field ∈ fields, field.2.WellFormed := by
  induction h with
  | nil => exact nofun
  | cons hmember _ ih =>
    obtain ⟨hvalue, hrest⟩ := List.forall_mem_cons.1 hvalues
    exact List.forall_mem_cons.2 ⟨hmember.2 ▸ hvalue, ih hrest⟩

/-- A record is written with members that spell its fields. -/
theorem spell_ofFields (fields : List (String × Json)) :
    Spell (fields.map fun (name, value) => (rawOfText name, value)) fields := by
  induction fields with
  | nil => exact .nil
  | cons field fields ih => exact .cons ⟨spells_rawOfText field.1, rfl⟩ ih

/-- A closed record is read name by name, if it knows all names that are there. -/
theorem fields?_object_iff {names : List String} {members : List (Bytes × Json)}
    {fields : List (String × Json)} {found : List (Option Json)}
    (hmembers : members? members = some fields) :
    fields? .refused names (.object members) = some found ↔
      (∀ field ∈ fields, field.1 ∈ names) ∧ names.map (field? fields) = found.map some := by
  have hguard : (UnknownKeys.refused = .skipped ∨
      fields.all (fun (key, _) => key ∈ names) = true) ↔ ∀ field ∈ fields, field.1 ∈ names := by
    simp
  rw [fields?, hmembers, Option.bind_eq_bind, Option.bind_some, Option.bind_eq_bind,
    Option.bind_eq_some_iff]
  constructor
  · rintro ⟨_, hknown, hread⟩
    exact ⟨hguard.1 ((Option.guard_eq_some' _).1 hknown), mapM_eq_some_iff.1 hread⟩
  · rintro ⟨hknown, hread⟩
    exact ⟨(), (Option.guard_eq_some' _).2 (hguard.2 hknown), mapM_eq_some_iff.2 hread⟩

/-- A name under which one value or none is found stands for one field at most. -/
theorem count_le_one_of_field? {fields : List (String × Json)} {name : String}
    {found : Option Json} (h : field? fields name = some found) :
    (fields.map Prod.fst).count name ≤ 1 := by
  have hcount : (fields.map Prod.fst).count name = (fields.filter (·.1 = name)).length := by
    rw [List.count_eq_countP, List.countP_map, List.countP_eq_length_filter]
    rfl
  rw [hcount]
  unfold field? at h
  split at h
  · next heq => simp [heq]
  · next heq => simp [heq]
  · cases h

theorem mem_of_field? {fields : List (String × Json)} {name : String} {value : Json}
    (h : field? fields name = some (some value)) : (name, value) ∈ fields := by
  unfold field? at h
  split at h
  · cases h
  · next key found heq =>
    cases h
    have hmem : (key, value) ∈ fields.filter (·.1 = name) := heq ▸ List.mem_cons_self
    obtain ⟨hfield, hkey⟩ := List.mem_filter.1 hmem
    rwa [← of_decide_eq_true hkey]
  · cases h

theorem notMem_of_field? {fields : List (String × Json)} {name : String}
    (h : field? fields name = some none) : name ∉ fields.map Prod.fst := by
  unfold field? at h
  split at h
  · next heq =>
    intro hmem
    obtain ⟨field, hfield, hname⟩ := List.mem_map.1 hmem
    exact List.filter_eq_nil_iff.1 heq field hfield (decide_eq_true hname)
  · cases h
  · cases h

end Json

namespace Envelope

/-- **The fields hold the envelope.** -/
structure HeldBy (fields : List (String × Json)) (envelope : Envelope) : Prop where
  /-- No other names are known. -/
  known : ∀ field ∈ fields, field.1 ∈ ["type", "data", "memo"]
  /-- No field is there twice. -/
  once : (fields.map Prod.fst).Nodup
  tag : ∃ value, ("type", value) ∈ fields ∧ value.Says envelope.tag
  data : ∃ value, ("data", value) ∈ fields ∧ value.SaysBytes envelope.data
  /-- The memo may be missing, and is empty then. -/
  memo : (∃ value, ("memo", value) ∈ fields ∧ value.Says envelope.memo) ∨
    "memo" ∉ fields.map Prod.fst ∧ envelope.memo = ""

/-- What an envelope is made of. -/
theorem ofJson?_eq_some_iff {json : Json} {envelope : Envelope} :
    JsonForm.ofJson? json = some envelope ↔
      ∃ tag data memo,
        Json.fields? .refused ["type", "data", "memo"] json = some [some tag, some data, memo] ∧
          tag.text? = some envelope.tag ∧ data.bytes? = some envelope.data ∧
          memo.elim (some "") Json.text? = some envelope.memo := by
  constructor
  · intro h
    obtain ⟨found, hfound, h⟩ := Option.bind_eq_some_iff.1 h
    split at h
    · next tag data memo =>
      obtain ⟨tagText, htag, h⟩ := Option.bind_eq_some_iff.1 h
      obtain ⟨bs, hdata, h⟩ := Option.bind_eq_some_iff.1 h
      obtain ⟨memoText, hmemo, h⟩ := Option.bind_eq_some_iff.1 h
      cases h
      exact ⟨tag, data, memo, hfound, htag, hdata, hmemo⟩
    · cases h
  · rintro ⟨tag, data, memo, hfound, htag, hdata, hmemo⟩
    simp only [JsonForm.ofJson?, hfound, htag, hdata, hmemo, Option.bind_eq_bind, Option.bind_some]
    rfl

/-- If only three names are known and each stands for one field at most, then no name stands for
two. -/
theorem nodup_of_field? {fields : List (String × Json)} {tag data memo : Option Json}
    (hknown : ∀ field ∈ fields, field.1 ∈ ["type", "data", "memo"])
    (htag : Json.field? fields "type" = some tag) (hdata : Json.field? fields "data" = some data)
    (hmemo : Json.field? fields "memo" = some memo) : (fields.map Prod.fst).Nodup := by
  rw [List.nodup_iff_count_le_one]
  intro name
  by_cases hname : name ∈ fields.map Prod.fst
  · -- a name that is there is known
    obtain ⟨field, hfield, rfl⟩ := List.mem_map.1 hname
    have hmem := hknown field hfield
    simp only [List.mem_cons, List.not_mem_nil, or_false] at hmem
    rcases hmem with htype | htype | htype
    · exact htype ▸ Json.count_le_one_of_field? htag
    · exact htype ▸ Json.count_le_one_of_field? hdata
    · exact htype ▸ Json.count_le_one_of_field? hmemo
  · rw [List.count_eq_zero_of_not_mem hname]
    exact Nat.zero_le 1

/-- **An object** is read as the envelope that its fields hold. -/
theorem ofJson?_object_iff {members : List (Bytes × Json)} {fields : List (String × Json)}
    (h : (Json.object members).WellFormed) (hspell : Json.Spell members fields)
    {envelope : Envelope} :
    JsonForm.ofJson? (Json.object members) = some envelope ↔ envelope.HeldBy fields := by
  have hmembers := Json.members?_of_spell hspell
  have hvalues : ∀ field ∈ fields, field.2.WellFormed :=
    Json.wellFormed_of_spell
      (fun member hmember => (Json.wellFormed_object_iff.1 h member hmember).2) hspell
  rw [ofJson?_eq_some_iff]
  -- three look-ups of names on the one side, membership on the other
  simp only [Json.fields?_object_iff hmembers, List.map_cons, List.map_nil, List.cons.injEq,
    and_true]
  constructor
  · rintro ⟨tag, data, memo, ⟨hknown, htag, hdata, hmemo⟩, htagText, hbytes, hmemoText⟩
    have htagMem := Json.mem_of_field? htag
    have hdataMem := Json.mem_of_field? hdata
    refine ⟨hknown, nodup_of_field? hknown htag hdata hmemo,
      ⟨tag, htagMem, (Json.text?_eq_some_iff (hvalues _ htagMem)).1 htagText⟩,
      ⟨data, hdataMem, (Json.bytes?_eq_some_iff (hvalues _ hdataMem)).1 hbytes⟩, ?_⟩
    cases memo with
    | none => exact .inr ⟨Json.notMem_of_field? hmemo, (Option.some.inj hmemoText).symm⟩
    | some memo =>
      have hmemoMem := Json.mem_of_field? hmemo
      exact .inl ⟨memo, hmemoMem, (Json.text?_eq_some_iff (hvalues _ hmemoMem)).1 hmemoText⟩
  · rintro ⟨hknown, honce, ⟨tag, htagMem, htag⟩, ⟨data, hdataMem, hdata⟩, hmemo⟩
    have htagText := (Json.text?_eq_some_iff (hvalues _ htagMem)).2 htag
    have hbytes := (Json.bytes?_eq_some_iff (hvalues _ hdataMem)).2 hdata
    rcases hmemo with ⟨memo, hmemoMem, hmemo⟩ | ⟨hmissing, hempty⟩
    · have hmemoText := (Json.text?_eq_some_iff (hvalues _ hmemoMem)).2 hmemo
      exact ⟨tag, data, some memo, ⟨hknown, Json.field?_of_mem honce htagMem,
        Json.field?_of_mem honce hdataMem, Json.field?_of_mem honce hmemoMem⟩, htagText, hbytes,
        hmemoText⟩
    · -- no field has the name of the memo, so it is read as empty
      exact ⟨tag, data, none, ⟨hknown, Json.field?_of_mem honce htagMem,
        Json.field?_of_mem honce hdataMem, Json.field?_of_notMem hmissing⟩, htagText, hbytes,
        congrArg some hempty.symm⟩

/-- There is no data in less than two items. -/
theorem HeldBy.two_le_length {items : List Json} {envelope : Envelope}
    (h : envelope.HeldBy (["type", "data", "memo"].zip items)) : 2 ≤ items.length := by
  obtain ⟨value, hmem, -⟩ := h.data
  match items with
  | [] => cases hmem
  | [item] => simp at hmem
  | _ :: _ :: _ => simp

/-- **An array** of two or three items is read as the envelope that they hold in their order. -/
theorem ofJson?_array_iff {items : List Json} (h : (Json.array items).WellFormed)
    {envelope : Envelope} :
    JsonForm.ofJson? (Json.array items) = some envelope ↔
      (items.length = 2 ∨ items.length = 3) ∧
        envelope.HeldBy (["type", "data", "memo"].zip items) := by
  by_cases hlength : items.length ≤ 3
  · -- the items under their names are an object, and this case is known
    have hobject : (Json.ofFields (["type", "data", "memo"].zip items)).WellFormed :=
      Json.wellFormed_ofFields fun field hfield =>
        Json.wellFormed_array_iff.1 h field.2 (List.of_mem_zip hfield).2
    have hread : JsonForm.ofJson? (Json.ofFields (["type", "data", "memo"].zip items))
        = some envelope ↔ envelope.HeldBy (["type", "data", "memo"].zip items) :=
      ofJson?_object_iff hobject (Json.spell_ofFields _)
    rw [ofJson?_eq_some_iff, Json.fields?_array .refused (by decide) hlength,
      ← ofJson?_eq_some_iff]
    refine hread.trans ⟨fun hheld => ⟨?_, hheld⟩, fun hheld => hheld.2⟩
    have htwo := hheld.two_le_length
    omega
  · -- there are more items than names
    constructor
    · intro hread
      obtain ⟨tag, data, memo, hfields, -⟩ := ofJson?_eq_some_iff.1 hread
      obtain ⟨_, hguard, -⟩ := Option.bind_eq_some_iff.1 hfields
      exact absurd ((Option.guard_eq_some' _).1 hguard) hlength
    · rintro ⟨hitems, -⟩
      omega

/-- **Which envelopes can be read.**

* An object is read as the envelope that its fields hold, and not at all if they hold none. The
  fields may stand in any order, their names and values in any spelling, and there may be blanks
  around all tokens.
* An array is read as the envelope that its items hold as type, data and memo, if it has two or
  three of them.
* Behind a value, whatever it is, a byte that is no blank spoils it. -/
theorem parses_exactly :
    (∀ fields members bs (envelope : Envelope), Json.Spell members fields →
      (Json.object members).Renders bs →
        (JsonForm.parse? bs = some envelope ↔ envelope.HeldBy fields)) ∧
    (∀ items bs (envelope : Envelope), (Json.array items).Renders bs →
      (JsonForm.parse? bs = some envelope ↔
        (items.length = 2 ∨ items.length = 3) ∧
          envelope.HeldBy (["type", "data", "memo"].zip items))) ∧
    ∀ (json : Json) (bs rest : Bytes), json.Renders bs →
      (∃ b ∈ rest, Json.isSpace b = false) →
        (JsonForm.parse? (bs ++ rest) : Option Envelope) = none := by
  refine ⟨fun fields members bs envelope hspell hbs => ?_, fun items bs envelope hbs => ?_,
    fun json bs rest hbs hrest => ?_⟩
  · rw [JsonForm.parse?, Json.parse?_of_renders hbs]
    exact ofJson?_object_iff hbs.wellFormed hspell
  · rw [JsonForm.parse?, Json.parse?_of_renders hbs]
    exact ofJson?_array_iff hbs.wellFormed
  · rw [JsonForm.parse?]
    cases hparse : Json.parse? (bs ++ rest) with
    | none => rfl
    | some other =>
      -- a number is no envelope
      obtain ⟨literal, rfl⟩ := Json.parse?_append_of_renders hbs hrest hparse
      rfl

/-- This envelope begins with its memo, the name of which is spelled with an escape. There is a
blank in front of each of its tokens, and one of the two pad characters of its data is missing. It
is read, but not with a letter behind it. -/
theorem parses_loosely :
    let members : List (Bytes × Json) :=
      [(Bytes.ofText "mem\\u006f", Json.ofText "hi"),
        (Json.rawOfText "data", Json.ofText "Zm9vYg="),
        (Json.rawOfText "type", Json.ofText "TYPE_EXECUTE_TX")]
    let bs := (Json.object members).tokens.flatMap fun t => 0x20 :: t.bytes
    JsonForm.parse? bs = some (execute (Bytes.ofText "foob") "hi") ∧
      (JsonForm.parse? (bs ++ Bytes.ofText " x") : Option Envelope) = none := by
  intro members bs
  have hkey : Json.IsRaw (Bytes.ofText "mem\\u006f") :=
    .plain (by decide) (.plain (by decide) (.plain (by decide)
      (.unicode (by decide) (by decide) (by decide) (by decide) .nil)))
  have htext (text : String) : (Json.ofText text).WellFormed :=
    Json.wellFormed_text (Json.isRaw_rawOfText text)
  have hsays (text : String) : (Json.ofText text).Says text :=
    ⟨_, rfl, Json.spells_rawOfText text⟩
  have hblank : ∀ b ∈ ([0x20] : Bytes), Json.isSpace b = true :=
    List.forall_mem_singleton.2 (by decide)
  have hrenders : (Json.object members).Renders bs := by
    refine ⟨Json.wellFormed_object_iff.2 ?_, Json.spaced_flatMap hblank _⟩
    simp only [members, List.forall_mem_cons]
    exact ⟨⟨hkey, htext _⟩, ⟨Json.isRaw_rawOfText _, htext _⟩, ⟨Json.isRaw_rawOfText _, htext _⟩,
      nofun⟩
  have hspell : Json.Spell members [("memo", Json.ofText "hi"), ("data", Json.ofText "Zm9vYg="),
      ("type", Json.ofText "TYPE_EXECUTE_TX")] :=
    .cons ⟨(Json.textOfRaw?_eq_some_iff hkey).1 (by decide), rfl⟩
      (Json.spell_ofFields
        [("data", Json.ofText "Zm9vYg="), ("type", Json.ofText "TYPE_EXECUTE_TX")])
  refine ⟨(parses_exactly.1 _ members bs _ hspell hrenders).2 ⟨?_, ?_, ?_, ?_, ?_⟩,
    parses_exactly.2.2 _ bs _ hrenders ⟨'x'.toUInt8, by decide, by decide⟩⟩
  · simp
  · decide
  · exact ⟨Json.ofText "TYPE_EXECUTE_TX", by simp, hsays _⟩
  · exact ⟨Json.ofText "Zm9vYg=", by simp, "Zm9vYg=", 1, hsays _, by decide⟩
  · exact .inl ⟨Json.ofText "hi", by simp, hsays _⟩

end Envelope

end RemoteAccount
