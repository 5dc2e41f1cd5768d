import RemoteAccount.Error.Host
import RemoteAccount.Json.Form
import RemoteAccount.Wire.Lawful

/-!
# Results of batches

A batch that has been carried out is answered with one result for each of its messages, in order:
the type URL of the message and the data its handler gave back.

`BatchResult.encode` gives the bytes of such an answer unless they are too many
(`BatchResult.encode_eq`), and `BatchResult.decode` reads them back.
-/

namespace RemoteAccount

/-- What a message has given back. -/
structure MessageResult where
  typeUrl : String
  data : Bytes
  deriving DecidableEq

/-- What the messages of a batch have given back, in order. -/
structure BatchResult where
  results : List MessageResult
  deriving DecidableEq

instance : JsonForm MessageResult where
  toJson result := Json.ofFields
    [("msg_type", JsonForm.toJson result.typeUrl), ("data", JsonForm.toJson result.data)]
  ofJson? json := do
    let [some typeUrl, some data] ← Json.fields? .skipped ["msg_type", "data"] json | none
    return ⟨← JsonForm.ofJson? typeUrl, ← JsonForm.ofJson? data⟩

instance : JsonForm BatchResult where
  toJson answer := Json.ofFields [("data", JsonForm.toJson answer.results)]
  ofJson? json := do
    let [some results] ← Json.fields? .skipped ["data"] json | none
    return ⟨← JsonForm.ofJson? results⟩

instance : WireForm MessageResult :=
  .map (fun result => (result.typeUrl, result.data)) fun (typeUrl, data) => ⟨typeUrl, data⟩

instance : WireForm BatchResult :=
  .map BatchResult.results BatchResult.mk

instance : LawfulWireForm MessageResult :=
  .map (fun _ => rfl) fun _ => rfl

instance : LawfulWireForm BatchResult :=
  .map (fun _ => rfl) fun _ => rfl

namespace BatchResult

/-- The bytes of an answer, if they are not too many to be sent. -/
def encode (results : List MessageResult) : Except HostError Bytes :=
  match Wire.send? (BatchResult.mk results) with
  | some bs => .ok bs
  | none => .error (.encode Wire.tooLong)

/-- Results are encoded unless their form is too long to be sent. -/
theorem encode_eq (results : List MessageResult) :
    encode results =
      if (WireForm.write (BatchResult.mk results)).length ≤ Wire.maxBytes then
        .ok (WireForm.write (BatchResult.mk results))
      else .error (.encode Wire.tooLong) := by
  unfold encode Wire.send? Wire.bounded?
  by_cases h : (WireForm.write (BatchResult.mk results)).length ≤ Wire.maxBytes
  · rw [if_pos h, if_pos h]
  · rw [if_neg h, if_neg h]

/-- The form of results is eight bytes for their number, and then the forms of all. -/
theorem length_write (results : List MessageResult) :
    (WireForm.write (BatchResult.mk results)).length
      = 8 + (results.flatMap WireForm.write).length :=
  Wire.length_write_list results

def decode (bs : Bytes) : Except HostError (List MessageResult) :=
  match (Wire.receive? bs : Option BatchResult) with
  | some answer => .ok answer.results
  | none => .error .decode

end BatchResult

end RemoteAccount
