import RemoteAccount.Json.Scan

/-!
# JSON values

A value keeps its strings and numbers as they are written and its members in their order, repeated
keys included, so that a reader can decide for itself what they mean.

* `Json.ofTokens?` puts tokens together. It goes through them once with a stack of the arrays and
  objects that are still open, so no depth of nesting is too much for it.
* `Json.tokens` takes a value apart again, in the same order and without recursion along a list.
* `Json.parse?` and `Json.print` go between values and bytes; what is printed holds no blanks.
-/

namespace RemoteAccount

/-- A JSON value. -/
inductive Json
  | null
  | bool (value : Bool)
  /-- A number, as it is written. -/
  | number (literal : Bytes)
  /-- A string, as it is written between its quotation marks. -/
  | text (raw : Bytes)
  | array (items : List Json)
  | object (members : List (Bytes × Json))

namespace Json

/-! ### Putting tokens together -/

/-- An array or an object that waits for a value. What it holds so far stands in reverse. -/
inductive Frame
  | array (done : List Json)
  | object (done : List (Bytes × Json)) (key : Bytes)

/-- What may come next, inside the open arrays and objects `outer`, the innermost first. -/
inductive Build
  | needValue (outer : List Frame)
  /-- After the bracket that opens an array. -/
  | firstItem (outer : List Frame)
  | afterItem (done : List Json) (outer : List Frame)
  /-- After the brace that opens an object. -/
  | firstKey (outer : List Frame)
  | needKey (done : List (Bytes × Json)) (outer : List Frame)
  | needColon (done : List (Bytes × Json)) (key : Bytes) (outer : List Frame)
  | afterMember (done : List (Bytes × Json)) (outer : List Frame)
  | finished (value : Json)

namespace Build

/-- Hand a finished value to the innermost open array or object. -/
def provide (value : Json) : List Frame → Build
  | [] => .finished value
  | .array done :: outer => .afterItem (value :: done) outer
  | .object done key :: outer => .afterMember ((key, value) :: done) outer

/-- Read the first token of a value. -/
def value? (outer : List Frame) : Token → Option Build
  | .null => some (provide .null outer)
  | .bool value => some (provide (.bool value) outer)
  | .number literal => some (provide (.number literal) outer)
  | .text raw => some (provide (.text raw) outer)
  | .openArray => some (.firstItem outer)
  | .openObject => some (.firstKey outer)
  | .closeArray | .closeObject | .comma | .colon => none

def step? : Build → Token → Option Build
  | .needValue outer, token => value? outer token
  -- only right after its bracket may an array be closed without an item before it
  | .firstItem outer, .closeArray => some (provide (.array []) outer)
  | .firstItem outer, token => value? (.array [] :: outer) token
  | .afterItem done outer, .comma => some (.needValue (.array done :: outer))
  | .afterItem done outer, .closeArray => some (provide (.array done.reverse) outer)
  | .firstKey outer, .closeObject => some (provide (.object []) outer)
  | .firstKey outer, .text key => some (.needColon [] key outer)
  | .needKey done outer, .text key => some (.needColon done key outer)
  | .needColon done key outer, .colon => some (.needValue (.object done key :: outer))
  | .afterMember done outer, .comma => some (.needKey done outer)
  | .afterMember done outer, .closeObject => some (provide (.object done.reverse) outer)
  | _, _ => none

/-- The value, if nothing is left open. -/
def finish? : Build → Option Json
  | .finished value => some value
  | _ => none

end Build

def ofTokens? (tokens : List Token) : Option Json := do
  let b ← tokens.foldlM Build.step? (.needValue [])
  b.finish?

/-! ### Taking values apart -/

mutual

/-- Put the tokens of a value behind those already written. -/
def pushTokens (done : Array Token) : Json → Array Token
  | .null => done.push .null
  | .bool value => done.push (.bool value)
  | .number literal => done.push (.number literal)
  | .text raw => done.push (.text raw)
  | .array [] => (done.push .openArray).push .closeArray
  | .array (item :: items) =>
    (pushItems (pushTokens (done.push .openArray) item) items).push .closeArray
  | .object [] => (done.push .openObject).push .closeObject
  | .object ((key, value) :: members) =>
    (pushMembers (pushTokens (((done.push .openObject).push (.text key)).push .colon) value)
      members).push .closeObject

/-- Put the items that follow a first one behind the tokens already written. -/
def pushItems (done : Array Token) : List Json → Array Token
  | [] => done
  | item :: items => pushItems (pushTokens (done.push .comma) item) items

/-- Put the members that follow a first one behind the tokens already written. -/
def pushMembers (done : Array Token) : List (Bytes × Json) → Array Token
  | [] => done
  | (key, value) :: members =>
    pushMembers (pushTokens (((done.push .comma).push (.text key)).push .colon) value) members

end

def tokens (json : Json) : List Token :=
  (pushTokens #[] json).toList

/-! ### Values and bytes -/

def parse? (bs : Bytes) : Option Json := do
  ofTokens? (← Token.scan? bs)

/-- Write a value, without blanks. -/
def print (json : Json) : Bytes :=
  json.tokens.flatMap Token.bytes

end Json

end RemoteAccount
