/-!
# Byte strings

Everything that crosses a channel, and every key and value of the store, is a list of bytes.
This module names that type and ties it to text.

* `Bytes.ofText` is the UTF-8 form of a text, and `Bytes.text?` reads it back.
* `Bytes.text?_eq_some_iff` — a byte string is the UTF-8 form of at most one text, and `text?`
  finds it: `text? bs = some s` exactly when `bs` is the form of `s`.

Byte strings are compared in the order of their bytes, which is the order `compare` gives to lists.

What is carried as a list is read item by item, and as a whole or not at all. `mapM_eq_some_iff` is
the law of that, for lists of anything.
-/

namespace RemoteAccount

abbrev Bytes := List UInt8

namespace Bytes

def ofText (text : String) : Bytes :=
  text.toByteArray.data.toList

/-- The text whose UTF-8 form this is, if it is the form of any. -/
def text? (bs : Bytes) : Option String :=
  String.fromUTF8? bs.toByteArray

/-- **Reading UTF-8.** The bytes are read exactly when they are the form of a text, and that text
is the answer. -/
theorem text?_eq_some_iff {bs : Bytes} {text : String} :
    text? bs = some text ↔ bs = ofText text := by
  constructor
  · intro h
    simp only [text?, String.fromUTF8?] at h
    split at h
    · cases h
      simp [ofText, String.fromUTF8]
    · cases h
  · rintro rfl
    -- A text carries the proof that its bytes are valid UTF-8.
    have hvalid : (ofText text).toByteArray = text.toByteArray := by
      simp [ofText, ByteArray.ext_iff]
    simp only [text?, String.fromUTF8?]
    rw [dif_pos (by rw [hvalid]; exact text.isValidUTF8)]
    simp [String.fromUTF8, hvalid]

@[simp] theorem text?_ofText (text : String) : text? (ofText text) = some text :=
  text?_eq_some_iff.2 rfl

/-- The form of two texts together is that of the one and then that of the other. -/
theorem ofText_append (s t : String) : ofText (s ++ t) = ofText s ++ ofText t := by
  simp [ofText]

theorem ofText_injective {s t : String} (h : ofText s = ofText t) : s = t := by
  have h' := text?_ofText s
  rw [h, text?_ofText] at h'
  exact (Option.some.inj h').symm

end Bytes

/-- **Reading item by item.** A list is read as another exactly if each of its items is. -/
theorem mapM_eq_some_iff {α β : Type} {read : α → Option β} {as : List α} {bs : List β} :
    as.mapM read = some bs ↔ as.map read = bs.map some := by
  induction as generalizing bs with
  | nil => cases bs <;> simp
  | cons a as ih =>
    rw [List.mapM_cons]
    cases ha : read a with
    | none => cases bs <;> simp [ha]
    | some b =>
      cases bs with
      | nil => simp [ha, Option.bind_eq_some_iff]
      | cons c bs =>
        rw [List.map_cons, List.map_cons, ha, List.cons.injEq, Option.some.injEq, ← ih]
        simp only [Option.bind_eq_bind, Option.bind_some, Option.bind_eq_some_iff]
        constructor
        · rintro ⟨_, has, heq⟩
          cases heq
          exact ⟨rfl, has⟩
        · rintro ⟨rfl, has⟩
          exact ⟨bs, has, rfl⟩

end RemoteAccount
