import RemoteAccount.Handler

/-!
# Keys and values

A put stores a text under a key of its choice. All such keys lie below `kv/`, so a put can reach
neither a balance nor anything else that other handlers keep in the store.
-/

namespace RemoteAccount.KeyValue

def key (name : String) : Bytes :=
  Bytes.ofText ("kv/" ++ name)

/-- Carry out a put. It gives back the key that it was given. -/
def put (p : Put) : StoreM Response := do
  StoreM.write (key p.key) (some (Bytes.ofText p.value))
  return ⟨Bytes.ofText p.key, [⟨"put", [⟨"key", p.key⟩]⟩]⟩

end RemoteAccount.KeyValue
