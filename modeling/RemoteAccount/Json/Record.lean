import RemoteAccount.Json.Text

/-!
# Records in JSON

A record is a JSON object whose keys are the names of its fields. It may also be given as an array
of its fields in their order.

* `Json.fields?` finds what a value holds for each field. A field that is given twice is refused; a
  key that names no field is refused by a closed record and passed over by an open one, whatever
  its value is.
* `Json.ofFields` writes a record as an object.
-/

namespace RemoteAccount.Json

/-- What a record does with a key that names none of its fields. -/
inductive UnknownKeys
  | refused
  | skipped
  deriving DecidableEq

/-- The members of an object, their keys read as texts. -/
def members? (members : List (Bytes × Json)) : Option (List (String × Json)) :=
  members.mapM fun (key, value) => (textOfRaw? key).map (·, value)

/-- What is given under a name: nothing, one value, or too much. -/
def field? (members : List (String × Json)) (name : String) : Option (Option Json) :=
  match members.filter (·.1 = name) with
  | [] => some none
  | [(_, value)] => some (some value)
  | _ :: _ :: _ => none

/-- What a record holds for each of the named fields, in their order. -/
def fields? (unknown : UnknownKeys) (names : List String) : Json → Option (List (Option Json))
  | .object members => do
    let members ← members? members
    guard (unknown = .skipped ∨ members.all fun (key, _) => key ∈ names)
    names.mapM (field? members)
  | .array items => do
    guard (items.length ≤ names.length)
    return items.map some ++ List.replicate (names.length - items.length) none
  | _ => none

/-- A record with the given fields, as an object. -/
def ofFields (fields : List (String × Json)) : Json :=
  .object (fields.map fun (name, value) => (rawOfText name, value))

end RemoteAccount.Json
