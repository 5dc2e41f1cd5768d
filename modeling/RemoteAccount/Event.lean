import RemoteAccount.Json.Form

/-!
# Events

An event tells an observer of the chain what has happened: its kind, and attributes in the order in
which they were added. An attribute may be given more than once; the first counts.
-/

namespace RemoteAccount

/-- A named detail of an event. -/
structure Attribute where
  key : String
  value : String
  deriving DecidableEq

/-- Something that has happened. -/
structure Event where
  kind : String
  attributes : List Attribute
  deriving DecidableEq

/-- The value of the first attribute with this key. -/
def Event.attribute? (event : Event) (key : String) : Option String :=
  (event.attributes.find? (·.key = key)).map (·.value)

instance : JsonForm Attribute where
  toJson detail := Json.ofFields
    [("key", JsonForm.toJson detail.key), ("value", JsonForm.toJson detail.value)]
  ofJson? json := do
    let [some key, some value] ← Json.fields? .skipped ["key", "value"] json | none
    return ⟨← JsonForm.ofJson? key, ← JsonForm.ofJson? value⟩

instance : JsonForm Event where
  toJson event := Json.ofFields
    [("kind", JsonForm.toJson event.kind), ("attributes", JsonForm.toJson event.attributes)]
  ofJson? json := do
    let [some kind, some attributes] ← Json.fields? .skipped ["kind", "attributes"] json | none
    return ⟨← JsonForm.ofJson? kind, ← JsonForm.ofJson? attributes⟩

end RemoteAccount
