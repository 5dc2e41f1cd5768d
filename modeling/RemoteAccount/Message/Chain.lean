import RemoteAccount.Message.Check

/-!
# The messages of a chain

A host does not have a list of all messages: each module of a chain brings its own. What a host
needs to know of the messages of its chain is set down in `ChainMessage M`, where `M` is the type of
all of them: the type URL of a message, its signers, the check it has to pass, and the bytes of what
it says. Everything from the registry of a host to its handlers is made for any such type.

Of transfers alone a host knows what they say, since the bank carries them out. `transfer?` opens a
message as a transfer, and a message that can be opened is a transfer in all other respects. The
type URL alone does not make a message a transfer.

`Message` is one such type.
-/

namespace RemoteAccount

/-- The messages of a chain. -/
class ChainMessage (M : Type) where
  /-- The name of the kind of a message. -/
  typeUrl : M → String
  /-- Those who must have signed a message. -/
  signers : M → List String
  /-- The first thing that is wrong with a message, found without looking at the store. -/
  check : M → Except OperationError Unit
  /-- The bytes of what a message says, without its type URL. -/
  value : M → Bytes
  /-- The transfer that a message is, if it is one. -/
  transfer? : M → Option Transfer
  typeUrl_of_transfer? {m : M} {t : Transfer} (h : transfer? m = some t) :
    typeUrl m = Message.Kind.send.typeUrl
  signers_of_transfer? {m : M} {t : Transfer} (h : transfer? m = some t) : signers m = [t.sender]
  check_of_transfer? {m : M} {t : Transfer} (h : transfer? m = some t) : check m = t.check
  value_of_transfer? {m : M} {t : Transfer} (h : transfer? m = some t) :
    value m = WireForm.write t

instance : ChainMessage Message where
  typeUrl := Message.typeUrl
  signers := Message.signers
  check := Message.check
  value := Message.value
  transfer? := Message.body? .send
  typeUrl_of_transfer? h := by rw [Message.body?_eq_some_iff.1 h]; rfl
  signers_of_transfer? h := by rw [Message.body?_eq_some_iff.1 h]; rfl
  check_of_transfer? h := by rw [Message.body?_eq_some_iff.1 h]; rfl
  value_of_transfer? h := by rw [Message.body?_eq_some_iff.1 h]; rfl

end RemoteAccount
