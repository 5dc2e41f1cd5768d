import RemoteAccount.BatchResult
import RemoteAccount.Proofs.WireFormat

/-!
# The wire format of results

The answer to a batch goes back in the same kind of format as the batch has come in: a list of
results, each of them the text of a type URL and then bytes behind their length
(`ResultFormat.results`). Unlike a batch, the list may be empty, and there is nothing to look up.

A byte string is the form of some results (`ResultFormat.IsForm`) if it is these bytes and the
counts in it are numbers of eight bytes, as all counts of a form below `2 ^ 64` bytes are.

* `ResultFormat.write_results` — results are written in the format;
* `ResultFormat.length_results` — how long a form is, counted from the lengths of the texts and of
  the data alone;
* `ResultFormat.receive?_eq_some_iff` — a form is received as the results it is the form of, and
  nothing else is received.

`BatchResult.codec_exact` puts this together: results and their forms determine each other.
-/

namespace RemoteAccount

namespace ResultFormat

open WireFormat

/-! ### The format -/

/-- What one message has given back. -/
def result (r : MessageResult) : Bytes :=
  text r.typeUrl ++ sized r.data

def results (rs : List MessageResult) : Bytes :=
  items (rs.map result)

/-- **The form of results.** Their number, and the lengths of each of them, can be written with
eight bytes. -/
structure IsForm (rs : List MessageResult) (bs : Bytes) : Prop where
  eq : bs = results rs
  count_lt : rs.length < 2 ^ 64
  typeUrl_lt : ∀ r ∈ rs, (Bytes.ofText r.typeUrl).length < 2 ^ 64
  data_lt : ∀ r ∈ rs, r.data.length < 2 ^ 64

/-- How many bytes some results take up. -/
def size (rs : List MessageResult) : Nat :=
  8 + (rs.map fun r => 16 + r.typeUrl.utf8ByteSize + r.data.length).sum

/-! ### What is written is in the format -/

theorem write_result (r : MessageResult) : WireForm.write r = result r := by
  change WireForm.write r.typeUrl ++ WireForm.write r.data = _
  rw [write_text, write_bytes]
  rfl

/-- **Results are written in the format.** -/
theorem write_results (rs : List MessageResult) :
    WireForm.write (BatchResult.mk rs) = results rs :=
  write_items write_result rs

theorem length_result (r : MessageResult) :
    (result r).length = 16 + r.typeUrl.utf8ByteSize + r.data.length := by
  have htext : (Bytes.ofText r.typeUrl).length = r.typeUrl.utf8ByteSize := by
    simp [Bytes.ofText]
  rw [result, text, List.length_append, length_sized, length_sized, htext]
  omega

/-- **The length of a form.** Every count takes eight bytes, and there are two in each result. -/
theorem length_results (rs : List MessageResult) : (results rs).length = size rs := by
  have hitems : ((rs.map result).map List.length).sum =
      (rs.map fun r => 16 + r.typeUrl.utf8ByteSize + r.data.length).sum := by
    rw [List.map_map]
    exact congrArg List.sum (List.map_congr_left fun r _ => length_result r)
  rw [results, items, List.length_append, List.length_flatten, hitems, count,
    Numeral.length_little, size]

/-! ### Receiving -/

theorem fits_result_iff {r : MessageResult} :
    LawfulWireForm.Fits r ↔
      (Bytes.ofText r.typeUrl).length < 2 ^ 64 ∧ r.data.length < 2 ^ 64 := by
  constructor
  · rintro ⟨⟨htypeUrl, -⟩, hdata, -⟩
    exact ⟨htypeUrl, hdata⟩
  · rintro ⟨htypeUrl, hdata⟩
    exact ⟨⟨htypeUrl, fun _ _ => trivial⟩, hdata, fun _ _ => trivial⟩

/-- The counts in a form are those that have to fit. -/
theorem isForm_iff {rs : List MessageResult} {bs : Bytes} :
    IsForm rs bs ↔ LawfulWireForm.Fits (BatchResult.mk rs) ∧ bs = results rs := by
  have hfits : LawfulWireForm.Fits (BatchResult.mk rs) ↔
      rs.length < 2 ^ 64 ∧ ∀ r ∈ rs, LawfulWireForm.Fits r := Iff.rfl
  simp only [hfits, fits_result_iff]
  constructor
  · rintro ⟨rfl, hcount, htypeUrl, hdata⟩
    exact ⟨⟨hcount, fun r hr => ⟨htypeUrl r hr, hdata r hr⟩⟩, rfl⟩
  · rintro ⟨⟨hcount, hresults⟩, rfl⟩
    exact ⟨rfl, hcount, fun r hr => (hresults r hr).1, fun r hr => (hresults r hr).2⟩

/-- **The form of results is received as the results**, and nothing else is. -/
theorem receive?_eq_some_iff {rs : List MessageResult} {bs : Bytes} :
    Wire.receive? bs = some (BatchResult.mk rs) ↔ IsForm rs bs := by
  rw [Wire.receive?_eq_some_iff_fits, write_results, isForm_iff]

/-- In a form that can be addressed no count is too large. -/
theorem isForm_of_length_lt {rs : List MessageResult} (h : (results rs).length < 2 ^ 64) :
    IsForm rs (results rs) := by
  refine isForm_iff.2 ⟨LawfulWireForm.fits_of_length_lt ?_, rfl⟩
  rwa [write_results]

/-- **Forms are told apart**: none is the beginning of another, and each belongs to one list of
results. -/
theorem eq_of_isForm {rs rs' : List MessageResult} {bs rest : Bytes} (h : IsForm rs bs)
    (h' : IsForm rs' (bs ++ rest)) : rs = rs' ∧ rest = [] := by
  have hread : WireForm.read (bs ++ rest) = some (BatchResult.mk rs, rest) := by
    rw [LawfulWireForm.read_eq_some_iff, write_results, (isForm_iff.1 h).2]
    exact ⟨(isForm_iff.1 h).1, rfl⟩
  -- the same bytes are read only once
  have hread' : WireForm.read (bs ++ rest) = some (BatchResult.mk rs', []) :=
    Reader.whole?_eq_some.1 (receive?_eq_some_iff.2 h')
  obtain ⟨hresults, hrest⟩ := Prod.mk.inj (Option.some.inj (hread.symm.trans hread'))
  exact ⟨BatchResult.mk.inj hresults, hrest⟩

end ResultFormat

namespace BatchResult

/-- **Decoding** gives some results exactly if the bytes are their form. -/
theorem decode_eq_ok_iff {rs : List MessageResult} {bs : Bytes} :
    decode bs = .ok rs ↔ ResultFormat.IsForm rs bs := by
  rw [← ResultFormat.receive?_eq_some_iff, decode]
  cases (Wire.receive? bs : Option BatchResult) with
  | none => simp
  | some answer =>
    obtain ⟨found⟩ := answer
    simp

/-- Bytes that are the form of no results are refused in one way. -/
theorem decode_eq_error {bs : Bytes} (h : ∀ rs, decode bs ≠ .ok rs) :
    decode bs = .error .decode := by
  unfold decode at h ⊢
  cases hanswer : (Wire.receive? bs : Option BatchResult) with
  | none => rfl
  | some answer => exact absurd (by rw [hanswer]) (h answer.results)

/-- **Results are sent in their form**, if it is not too long. -/
theorem encode_eq_results (rs : List MessageResult) :
    encode rs =
      if ResultFormat.size rs ≤ Wire.maxBytes then .ok (ResultFormat.results rs)
      else .error (.encode Wire.tooLong) := by
  rw [encode_eq, ResultFormat.write_results, ResultFormat.length_results]

/-- A result whose data alone is as long as an answer may be leaves no room for the rest. -/
theorem encode_eq_error_of_mem {rs : List MessageResult} {r : MessageResult} (hr : r ∈ rs)
    (hlong : Wire.maxBytes ≤ r.data.length) : encode rs = .error (.encode Wire.tooLong) := by
  have hform := Wire.length_write_le_of_mem hr
  rw [ResultFormat.write_result, ResultFormat.length_result] at hform
  rw [encode_eq, length_write, if_neg (by omega)]

/-- **The codec of results is a bijection onto its format.**

* A byte string of any length is decoded to some results, also to none, if and only if it is their
  form, and every other byte string is answered with the same error. Below `2 ^ 64` bytes the form
  of results is `ResultFormat.results`. It belongs to no other results and is not the beginning of
  the form of any, so nothing may follow it.
* Results are encoded as `ResultFormat.results` as long as this is at most 1048576 bytes: eight for
  their number, and for each of them sixteen, the UTF-8 form of its type URL, and its data. -/
theorem codec_exact :
    (∀ bs rs, decode bs = .ok rs ↔ ResultFormat.IsForm rs bs) ∧
    (∀ bs, (¬ ∃ rs, ResultFormat.IsForm rs bs) → decode bs = .error .decode) ∧
    (∀ rs bs, bs.length < 2 ^ 64 → (ResultFormat.IsForm rs bs ↔ bs = ResultFormat.results rs)) ∧
    (∀ rs rs' bs rest, ResultFormat.IsForm rs bs → ResultFormat.IsForm rs' (bs ++ rest) →
      rs = rs' ∧ rest = []) ∧
    ∀ rs, encode rs =
      if 8 + (rs.map fun r => 16 + r.typeUrl.utf8ByteSize + r.data.length).sum ≤ 1048576 then
        .ok (ResultFormat.results rs)
      else .error (.encode "the size limit has been reached") := by
  refine ⟨fun _ _ => decode_eq_ok_iff, fun bs h => ?_, fun rs bs hbs => ?_,
    fun _ _ _ _ => ResultFormat.eq_of_isForm, encode_eq_results⟩
  · exact decode_eq_error fun rs hrs => h ⟨rs, decode_eq_ok_iff.1 hrs⟩
  · constructor
    · exact fun h => h.eq
    · rintro rfl
      exact ResultFormat.isForm_of_length_lt hbs

/-- A length that promises more bytes than there are is refused, however large it is. -/
example : (decode ([1, 0, 0, 0, 0, 0, 0, 0] ++ List.replicate 8 255 ++ [47])).toOption = none := by
  decide +kernel

end BatchResult

end RemoteAccount
