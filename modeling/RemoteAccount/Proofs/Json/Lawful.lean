import RemoteAccount.Acknowledgement
import RemoteAccount.Packet
import RemoteAccount.Proofs.Base64
import RemoteAccount.Proofs.Json.Spelling

/-!
# The laws of JSON forms

A JSON form is *lawful* when a value is written with proper strings and numbers and read back as
itself. Then it is read back from the bytes that are printed for it
(`JsonForm.parse?_print`).

Three forms carry all others:

* a text is written with escapes, and it is the text that is spelled (`Json.text?_ofText`);
* bytes are written as the text of their base64 form, which needs no escapes
  (`Json.bytes?_ofBytes`);
* a record is an object of its fields, and each field is found under its name, unless two of them
  have the same (`Json.fields?_ofFields`).
-/

namespace RemoteAccount

namespace Json

/-! ### Texts -/

/-- **Texts are read back** from their JSON form. -/
@[simp] theorem text?_ofText (text : String) : (ofText text).text? = some text :=
  textOfRaw?_rawOfText text

theorem escapeByte_of_isPlain {b : UInt8} (h : IsPlain b) : escapeByte b = [b] := by
  obtain ⟨hquote, hbackslash, hcontrol⟩ := h
  have hne {c : UInt8} (hc : c < 0x20) : b ≠ c := by
    rintro rfl
    exact hcontrol hc
  simp [escapeByte, hquote, hbackslash, hcontrol, hne]

/-! ### Bytes -/

/-- What may stand in a base64 form is a character of ASCII, and is written by itself. -/
theorem isPlain_of_isCharacter {c : UInt8} (h : Base64.IsCharacter c) : c < 128 ∧ IsPlain c := by
  have hall : ∀ n : Fin 64, Base64.digit n < 128 ∧ IsPlain (Base64.digit n) := by decide
  rcases h with rfl | ⟨n, hn, rfl⟩
  · decide
  · exact hall ⟨n, hn⟩

/-- Plain bytes are written by themselves. -/
theorem flatMap_escapeByte_of_isPlain {bs : Bytes} (h : ∀ b ∈ bs, IsPlain b) :
    bs.flatMap escapeByte = bs := by
  calc bs.flatMap escapeByte = bs.flatMap fun b => [b] := by
        rw [List.flatMap_def, List.flatMap_def,
          List.map_congr_left fun b hb => escapeByte_of_isPlain (h b hb)]
    _ = bs := List.flatMap_singleton' bs

/-- The base64 form of bytes is a text that needs no escapes. -/
theorem exists_rawOfText_eq_encode (bs : Bytes) :
    ∃ text, rawOfText text = Base64.encode bs ∧ Bytes.ofText text = Base64.encode bs := by
  obtain ⟨text, htext⟩ := Bytes.exists_ofText fun c hc =>
    (isPlain_of_isCharacter (Base64.isCharacter_of_mem_encode hc)).1
  refine ⟨text, ?_, htext.symm⟩
  rw [rawOfText, ← htext]
  exact flatMap_escapeByte_of_isPlain fun c hc =>
    (isPlain_of_isCharacter (Base64.isCharacter_of_mem_encode hc)).2

theorem wellFormed_ofBytes (bs : Bytes) : (ofBytes bs).WellFormed := by
  obtain ⟨text, hraw, -⟩ := exists_rawOfText_eq_encode bs
  rw [ofBytes, ← hraw]
  exact wellFormed_text (isRaw_rawOfText text)

/-- **Bytes are read back** from their JSON form. -/
@[simp] theorem bytes?_ofBytes (bs : Bytes) : (ofBytes bs).bytes? = some bs := by
  obtain ⟨text, hraw, htext⟩ := exists_rawOfText_eq_encode bs
  rw [ofBytes, bytes?, ← hraw, text?, textOfRaw?_rawOfText, Option.bind_eq_bind, Option.bind_some,
    htext, Base64.decode?_encode]

/-! ### Records -/

theorem members?_ofFields (fields : List (String × Json)) :
    members? (fields.map fun (name, value) => (rawOfText name, value)) = some fields := by
  rw [members?, mapM_eq_some_iff, List.map_map]
  exact List.map_congr_left fun field _ => by simp

/-- A field whose name no other field has is found under its name. -/
theorem field?_of_mem {fields : List (String × Json)} (hnodup : (fields.map Prod.fst).Nodup)
    {field : String × Json} (h : field ∈ fields) :
    field? fields field.1 = some (some field.2) := by
  -- no field before it has its name, and none behind it
  obtain ⟨front, back, rfl⟩ := List.append_of_mem h
  rw [List.map_append, List.map_cons, List.nodup_append, List.nodup_cons] at hnodup
  obtain ⟨-, ⟨hback, -⟩, hfront⟩ := hnodup
  have hfrontNil : front.filter (·.1 = field.1) = [] := by
    rw [List.filter_eq_nil_iff]
    intro other hother heq
    exact hfront _ (List.mem_map_of_mem hother) _ List.mem_cons_self (of_decide_eq_true heq)
  have hbackNil : back.filter (·.1 = field.1) = [] := by
    rw [List.filter_eq_nil_iff]
    intro other hother heq
    exact hback (List.mem_map.2 ⟨other, hother, of_decide_eq_true heq⟩)
  have hfilter : (front ++ field :: back).filter (·.1 = field.1) = [field] := by
    simp [List.filter_append, hfrontNil, hbackNil]
  rw [field?, hfilter]

/-- Under a name that no field has nothing is found. -/
theorem field?_of_notMem {fields : List (String × Json)} {name : String}
    (h : name ∉ fields.map Prod.fst) : field? fields name = some none := by
  have hfilter : fields.filter (·.1 = name) = [] := by
    rw [List.filter_eq_nil_iff]
    intro field hfield heq
    exact h (List.mem_map.2 ⟨field, hfield, of_decide_eq_true heq⟩)
  rw [field?, hfilter]

/-- **Fields are found** under their names, and nothing is found under the names that are left, if
no name stands for two of them. -/
theorem map_field?_zip {names : List String} {values : List Json} (hnodup : names.Nodup)
    (hlength : values.length ≤ names.length) :
    names.map (field? (names.zip values)) =
      (values.map some ++ List.replicate (names.length - values.length) none).map some := by
  obtain ⟨front, rest, rfl, hfront⟩ : ∃ front rest, names = front ++ rest ∧
      front.length = values.length :=
    ⟨names.take values.length, names.drop values.length, (List.take_append_drop _ _).symm,
      List.length_take_of_le hlength⟩
  have hzip : (front ++ rest).zip values = front.zip values := by
    calc (front ++ rest).zip values = (front ++ rest).zip (values ++ []) := by rw [List.append_nil]
      _ = front.zip values ++ rest.zip [] := List.zip_append hfront
      _ = front.zip values := by rw [List.zip_nil_right, List.append_nil]
  have hfst : (front.zip values).map Prod.fst = front := List.map_fst_zip (Nat.le_of_eq hfront)
  have hsnd : (front.zip values).map Prod.snd = values :=
    List.map_snd_zip (Nat.le_of_eq hfront.symm)
  obtain ⟨hnames, -, hapart⟩ := List.nodup_append.1 hnodup
  have hfound : front.map (field? (front.zip values)) = (values.map some).map some := by
    have hfields : ((front.zip values).map Prod.fst).map (field? (front.zip values)) =
        (((front.zip values).map Prod.snd).map some).map some := by
      rw [List.map_map, List.map_map, List.map_map]
      exact List.map_congr_left fun field h => field?_of_mem (by rwa [hfst]) h
    rwa [hfst, hsnd] at hfields
  have hmissing : rest.map (field? (front.zip values)) =
      (List.replicate rest.length none).map some := by
    rw [List.map_replicate, ← List.map_const']
    refine List.map_congr_left fun name hname => field?_of_notMem ?_
    rw [hfst]
    exact fun hmem => hapart name hmem name hname rfl
  rw [hzip, List.map_append, List.map_append, hfound, hmissing, List.length_append, hfront,
    Nat.add_sub_cancel_left]

/-- A record whose keys are known is read name by name. -/
theorem fields?_ofFields_eq (unknown : UnknownKeys) {names : List String}
    {fields : List (String × Json)} (hknown : ∀ field ∈ fields, field.1 ∈ names) :
    fields? unknown names (ofFields fields) = names.mapM (field? fields) := by
  have hguard : (guard (unknown = .skipped ∨ fields.all fun (key, _) => key ∈ names) :
      Option Unit) = some () :=
    if_pos (.inr (List.all_eq_true.2 fun field h => decide_eq_true (hknown field h)))
  rw [ofFields, fields?, members?_ofFields, Option.bind_eq_bind, Option.bind_some, hguard]
  rfl

/-- **An array is read as a record** of its items under the first of the names. -/
theorem fields?_array (unknown : UnknownKeys) {names : List String} {items : List Json}
    (hnodup : names.Nodup) (hlength : items.length ≤ names.length) :
    fields? unknown names (array items) =
      fields? unknown names (ofFields (names.zip items)) := by
  have hguard : (guard (items.length ≤ names.length) : Option Unit) = some () := if_pos hlength
  rw [fields?, hguard, fields?_ofFields_eq unknown fun field h => (List.of_mem_zip h).1,
    mapM_eq_some_iff.2 (map_field?_zip hnodup hlength)]
  rfl

/-- **A record is read back** field by field, if no two of its fields have the same name. -/
theorem fields?_ofFields (unknown : UnknownKeys) (names : List String) (values : List Json)
    (hnodup : names.Nodup) (hlength : names.length = values.length) :
    fields? unknown names (ofFields (names.zip values)) = some (values.map some) := by
  have hzip := map_field?_zip hnodup (Nat.le_of_eq hlength.symm)
  rw [hlength, Nat.sub_self, List.replicate_zero, List.append_nil] at hzip
  rw [fields?_ofFields_eq unknown fun field h => (List.of_mem_zip h).1]
  exact mapM_eq_some_iff.2 hzip

theorem wellFormed_ofFields {fields : List (String × Json)}
    (h : ∀ field ∈ fields, field.2.WellFormed) : (ofFields fields).WellFormed := by
  refine wellFormed_object_iff.2 fun member hmember => ?_
  obtain ⟨field, hfield, rfl⟩ := List.mem_map.1 hmember
  exact ⟨isRaw_rawOfText field.1, h field hfield⟩

end Json

/-! ### Lawful forms -/

/-- A JSON form in which writing and reading agree. -/
class LawfulJsonForm (α : Type) [JsonForm α] : Prop where
  wellFormed_toJson (a : α) : (JsonForm.toJson a).WellFormed
  ofJson?_toJson (a : α) : JsonForm.ofJson? (JsonForm.toJson a) = some a

open LawfulJsonForm

/-- **Values are read back** from what is printed for them. -/
theorem JsonForm.parse?_print {α : Type} [JsonForm α] [LawfulJsonForm α] (a : α) :
    parse? (print a) = some a := by
  rw [parse?, print, Json.parse?_print (wellFormed_toJson a)]
  exact ofJson?_toJson a

/-- No two values are printed alike. -/
theorem JsonForm.print_inj {α : Type} [JsonForm α] [LawfulJsonForm α] {a b : α} :
    print a = print b ↔ a = b := by
  refine ⟨fun h => ?_, congrArg print⟩
  have hparse : (parse? (print a) : Option α) = parse? (print b) := by rw [h]
  rw [parse?_print, parse?_print] at hparse
  exact Option.some.inj hparse

instance : LawfulJsonForm String where
  wellFormed_toJson text := Json.wellFormed_text (Json.isRaw_rawOfText text)
  ofJson?_toJson text := Json.text?_ofText text

instance : LawfulJsonForm Envelope where
  wellFormed_toJson envelope := by
    refine Json.wellFormed_ofFields fun field hfield => ?_
    simp only [List.mem_cons, List.not_mem_nil, or_false] at hfield
    rcases hfield with rfl | rfl | rfl
    · exact wellFormed_toJson envelope.tag
    · exact Json.wellFormed_ofBytes envelope.data
    · exact wellFormed_toJson envelope.memo
  ofJson?_toJson envelope := by
    have hfields : Json.fields? .refused ["type", "data", "memo"] (JsonForm.toJson envelope) = _ :=
      Json.fields?_ofFields .refused ["type", "data", "memo"] [Json.ofText envelope.tag,
        Json.ofBytes envelope.data, Json.ofText envelope.memo] (by decide) rfl
    simp [JsonForm.ofJson?, hfields]

instance : LawfulJsonForm Acknowledgement where
  wellFormed_toJson acknowledgement := by
    cases acknowledgement with
    | result data =>
      refine Json.wellFormed_ofFields fun field hfield => ?_
      cases List.mem_singleton.1 hfield
      exact Json.wellFormed_ofBytes data
    | error text =>
      refine Json.wellFormed_ofFields fun field hfield => ?_
      cases List.mem_singleton.1 hfield
      exact wellFormed_toJson text
  ofJson?_toJson acknowledgement := by
    cases acknowledgement with
    | result data => simp [JsonForm.ofJson?, JsonForm.toJson, Json.ofFields]
    | error text => simp [JsonForm.ofJson?, JsonForm.toJson, Json.ofFields]

end RemoteAccount
