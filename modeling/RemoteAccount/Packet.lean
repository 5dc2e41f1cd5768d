import RemoteAccount.Identifier
import RemoteAccount.Json.Bytes

/-!
# Packets and their envelopes

A packet is one delivery from a controller to a host, across a channel. Its data is the JSON form of
an `Envelope`: a tag that says what the packet is for, the bytes it carries in base64, and a memo
that nobody has to read and that may be left out.

Of the tags only `TYPE_EXECUTE_TX` asks for anything (`PacketType.executeTx`). Any text is a tag,
and `PacketType.tag_ofTag` says that none is lost in telling the types apart.
-/

namespace RemoteAccount

/-- One delivery across a channel. The controller is at its source, the host at its destination. -/
structure Packet where
  sequence : UInt64
  sourcePort : PortId
  sourceChannel : ChannelId
  destinationPort : PortId
  destinationChannel : ChannelId
  data : Bytes
  deriving DecidableEq

/-! ### What a packet is for -/

/-- What a packet is for. -/
inductive PacketType
  | unspecified
  /-- Carry out the batch that the packet holds. -/
  | executeTx
  | unrecognized (tag : String)
  deriving DecidableEq

namespace PacketType

/-- The type that a tag stands for. -/
def ofTag (tag : String) : PacketType :=
  if tag = "TYPE_UNSPECIFIED" then .unspecified
  else if tag = "TYPE_EXECUTE_TX" then .executeTx
  else .unrecognized tag

def tag : PacketType → String
  | .unspecified => "TYPE_UNSPECIFIED"
  | .executeTx => "TYPE_EXECUTE_TX"
  | .unrecognized tag => tag

@[simp] theorem tag_ofTag (tag : String) : (ofTag tag).tag = tag := by
  unfold ofTag
  split
  · simp_all [PacketType.tag]
  · split <;> simp_all [PacketType.tag]

end PacketType

/-! ### Envelopes -/

/-- What the data of a packet says. -/
structure Envelope where
  tag : String
  data : Bytes
  memo : String
  deriving DecidableEq

namespace Envelope

/-- The envelope that asks for a batch to be carried out. -/
def execute (data : Bytes) (memo : String) : Envelope :=
  ⟨PacketType.executeTx.tag, data, memo⟩

def type (envelope : Envelope) : PacketType :=
  .ofTag envelope.tag

end Envelope

instance : JsonForm Envelope where
  toJson envelope := Json.ofFields
    [("type", JsonForm.toJson envelope.tag), ("data", Json.ofBytes envelope.data),
      ("memo", JsonForm.toJson envelope.memo)]
  ofJson? json := do
    let [some tag, some data, memo] ← Json.fields? .refused ["type", "data", "memo"] json | none
    return ⟨← JsonForm.ofJson? tag, ← data.bytes?, ← memo.elim (some "") JsonForm.ofJson?⟩

end RemoteAccount
