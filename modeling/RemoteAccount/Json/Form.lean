import RemoteAccount.Amount
import RemoteAccount.Json.Record

/-!
# Types with a JSON form

`JsonForm α` says how values of `α` are written as JSON and read back. The instances here are the
plain ones: truth values, texts, lists, and numbers with a bound, which are read only from a literal
that is made of digits. The records of this library have their instances beside their definitions.
-/

namespace RemoteAccount

/-- A type whose values have a JSON form. -/
class JsonForm (α : Type) where
  /-- The form in which a value is written. -/
  toJson : α → Json
  /-- The value that is meant, if one is. -/
  ofJson? : Json → Option α

namespace JsonForm

def print {α : Type} [JsonForm α] (a : α) : Bytes :=
  (toJson a).print

def parse? {α : Type} [JsonForm α] (bs : Bytes) : Option α := do
  ofJson? (← Json.parse? bs)

end JsonForm

namespace Json

def ofNat (n : Nat) : Json :=
  .number ((Nat.toDigits 10 n).map Char.toUInt8)

/-- Read one more digit of a number that must stay below the bound. -/
def pushDigit? (bound n : Nat) (b : UInt8) : Option Nat := do
  let digit ← digitValue? b
  guard (n * 10 + digit < bound)
  return n * 10 + digit

/-- The number below the bound that a literal of digits alone stands for. -/
def natBelow? (bound : Nat) : Json → Option Nat
  | .number literal => literal.foldlM (pushDigit? bound) 0
  | _ => none

def bool? : Json → Option Bool
  | .bool value => some value
  | _ => none

def items? : Json → Option (List Json)
  | .array items => some items
  | _ => none

end Json

instance : JsonForm Bool where
  toJson := .bool
  ofJson? := Json.bool?

instance : JsonForm String where
  toJson := Json.ofText
  ofJson? := Json.text?

instance : JsonForm UInt8 where
  toJson b := Json.ofNat b.toNat
  ofJson? json := (Json.natBelow? 256 json).map UInt8.ofNat

instance : JsonForm Amount where
  toJson a := Json.ofNat a.val
  ofJson? json := (Json.natBelow? Amount.bound json).bind Amount.ofNat?

instance {α : Type} [JsonForm α] : JsonForm (List α) where
  toJson as := .array (as.map JsonForm.toJson)
  ofJson? json := (Json.items? json).bind fun items => items.mapM JsonForm.ofJson?

end RemoteAccount
