import RemoteAccount.Bytes.Base64
import RemoteAccount.Json.Text

/-!
# Bytes in JSON

JSON has no bytes. Where a record carries a whole byte string, it is a string of the base64 form of
the bytes. The digits of base64 need no escapes to be written, but a reader takes them in any
spelling that a JSON string allows.
-/

namespace RemoteAccount.Json

/-- Bytes as a JSON string of their base64 form. -/
def ofBytes (bs : Bytes) : Json :=
  .text (Base64.encode bs)

/-- The bytes whose base64 form a JSON string is. -/
def bytes? (json : Json) : Option Bytes := do
  Base64.decode? (Bytes.ofText (← json.text?))

end RemoteAccount.Json
