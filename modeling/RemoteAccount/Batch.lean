import Std.Data.ExtTreeMap
import RemoteAccount.Error.Host
import RemoteAccount.Message.Chain

/-!
# Batches

A controller sends its messages in batches. In a batch each message is packed: its type URL, and
the bytes of what it says. Which kinds of messages a host can unpack is set down in a `Registry`.

* `Batch.ofMessages` packs messages, and `Batch.encode` gives the bytes of the batch unless they are
  too many.
* `Registry.decode` unpacks a batch as a whole. Bytes that are no batch, an empty batch, a type URL
  that is not registered and a value that is not of its type are all the same to the sender:
  `HostError.decode`.
-/

namespace RemoteAccount

/-- A message as it is carried in a batch. -/
structure PackedMessage where
  typeUrl : String
  value : Bytes
  deriving DecidableEq

/-- Messages that are carried out together, in order. -/
structure Batch where
  messages : List PackedMessage
  deriving DecidableEq

instance : JsonForm PackedMessage where
  toJson packed := Json.ofFields
    [("type_url", JsonForm.toJson packed.typeUrl), ("value", JsonForm.toJson packed.value)]
  ofJson? json := do
    let [some typeUrl, some value] ← Json.fields? .skipped ["type_url", "value"] json | none
    return ⟨← JsonForm.ofJson? typeUrl, ← JsonForm.ofJson? value⟩

instance : JsonForm Batch where
  toJson batch := Json.ofFields [("messages", JsonForm.toJson batch.messages)]
  ofJson? json := do
    let [some messages] ← Json.fields? .skipped ["messages"] json | none
    return ⟨← JsonForm.ofJson? messages⟩

instance : WireForm PackedMessage :=
  .map (fun packed => (packed.typeUrl, packed.value)) fun (typeUrl, value) => ⟨typeUrl, value⟩

instance : WireForm Batch :=
  .map Batch.messages Batch.mk

instance : LawfulWireForm PackedMessage :=
  .map (fun _ => rfl) fun _ => rfl

instance : LawfulWireForm Batch :=
  .map (fun _ => rfl) fun _ => rfl

/-! ### Packing -/

namespace PackedMessage

variable {M : Type} [ChainMessage M]

def ofMessage (m : M) : PackedMessage :=
  ⟨ChainMessage.typeUrl m, ChainMessage.value m⟩

/-- The packed message, if its value alone is not too long to be sent. -/
def pack? (m : M) : Option PackedMessage :=
  (Wire.bounded? (ChainMessage.value m)).map fun _ => ofMessage m

end PackedMessage

namespace Batch

variable {M : Type} [ChainMessage M]

def ofMessages (ms : List M) : Batch :=
  ⟨ms.map PackedMessage.ofMessage⟩

/-- The bytes of a batch of messages, if neither they nor those of a value are too many to be
sent. -/
def encode (ms : List M) : Except HostError Bytes :=
  match (ms.mapM PackedMessage.pack?).bind fun packed => Wire.send? (Batch.mk packed) with
  | some bs => .ok bs
  | none => .error (.encode Wire.tooLong)

end Batch

/-! ### Unpacking -/

/-- The kinds of messages that a host can unpack: for each of their type URLs the way to read a
value. What is read under a type URL is a message of this type URL. -/
structure Registry (M : Type := Message) [ChainMessage M] where
  decoders : Std.ExtTreeMap String (Bytes → Option M)
  typeUrl_eq {typeUrl : String} {decoder : Bytes → Option M}
    (h : decoders[typeUrl]? = some decoder) {bs : Bytes} {m : M} (hm : decoder bs = some m) :
    ChainMessage.typeUrl m = typeUrl

namespace Registry

variable {M : Type} [ChainMessage M]

def empty : Registry M := ⟨∅, fun h => by simp at h⟩

/-- The registry with a way to read the values under a type URL, in the place of an earlier one. -/
def register (r : Registry M) (typeUrl : String) (decoder : Bytes → Option M)
    (h : ∀ {bs m}, decoder bs = some m → ChainMessage.typeUrl m = typeUrl) : Registry M where
  decoders := r.decoders.insert typeUrl decoder
  typeUrl_eq := by
    intro url other hother bs m hm
    rw [Std.ExtTreeMap.getElem?_insert] at hother
    split at hother
    · next heq =>
      cases hother
      rw [h hm, Std.LawfulEqCmp.eq_of_compare heq]
    · exact r.typeUrl_eq hother hm

/-- The registry with one more of the kinds of `Message`, or the same one if it has the kind
already. -/
def insert (r : Registry) (k : Message.Kind) : Registry :=
  r.register k.typeUrl (Message.ofValue? k) Message.typeUrl_of_ofValue?

/-- The way to read the values under a type URL. -/
def find? (r : Registry M) (typeUrl : String) : Option (Bytes → Option M) :=
  r.decoders[typeUrl]?

def contains (r : Registry M) (typeUrl : String) : Bool :=
  (r.find? typeUrl).isSome

def typeUrls (r : Registry M) : List String :=
  r.decoders.keys

def unpack? (r : Registry M) (packed : PackedMessage) : Option M := do
  (← r.find? packed.typeUrl) packed.value

/-- Unpack a batch that is not empty. -/
def unpackAll? (r : Registry M) (batch : Batch) : Option (List M) := do
  guard !batch.messages.isEmpty
  -- one message that cannot be unpacked spoils the batch
  batch.messages.mapM r.unpack?

/-- The messages of a batch, from its bytes. -/
def decode (r : Registry M) (bs : Bytes) : Except HostError (List M) :=
  match (Wire.receive? bs).bind r.unpackAll? with
  | some ms => .ok ms
  | none => .error .decode

/-- Bytes that are no batch are refused in one way. -/
theorem decode_eq_error {r : Registry M} {bs : Bytes} (h : ∀ ms, r.decode bs ≠ .ok ms) :
    r.decode bs = .error .decode := by
  unfold decode at h ⊢
  cases hbatch : (Wire.receive? bs).bind r.unpackAll? with
  | none => rfl
  | some ms => exact absurd (by rw [hbatch]) (h ms)

end Registry

end RemoteAccount
