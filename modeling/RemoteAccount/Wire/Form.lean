import RemoteAccount.Amount
import RemoteAccount.Wire.Reader

/-!
# Types with a binary form

`WireForm α` says how values of `α` are written as bytes and read back. The form is the same for
messages, batches and results:

* a length is a number of eight bytes and an amount one of sixteen, least significant byte first;
* a list is its length and then its items, and a text is the list of its UTF-8 bytes;
* a pair is its components, one after the other, and a record has the form of its fields as pairs
  (`WireForm.map`).

A form that is sent must not be longer than `Wire.maxBytes`. The bound is on sending alone: what
is received is read whatever its length.
-/

namespace RemoteAccount

/-- A type whose values have a binary form. -/
class WireForm (α : Type) where
  /-- The bytes of a value. -/
  write : α → Bytes
  /-- Take a value off the front of a byte string. -/
  read : Reader α

/-- The form of a type whose values can be packed into values of another type. -/
@[reducible] def WireForm.map {α β : Type} [WireForm β] (unpack : α → β) (pack : β → α) :
    WireForm α where
  write a := write (unpack a)
  read := pack <$> read

namespace Wire

def maxBytes : Nat := 1024 * 1024

/-- The same bytes, if they are not too many to be sent. -/
def bounded? (bs : Bytes) : Option Bytes :=
  if bs.length ≤ maxBytes then some bs else none

/-- The bytes of a value to be sent, if they are not too many. -/
def send? {α : Type} [WireForm α] (a : α) : Option Bytes :=
  bounded? (WireForm.write a)

/-- The value that a received byte string holds and is used up by. -/
def receive? {α : Type} [WireForm α] (bs : Bytes) : Option α :=
  Reader.whole? WireForm.read bs

def tooLong : String := "the size limit has been reached"

end Wire

instance : WireForm UInt8 where
  write b := [b]
  read
    | b :: rest => some (b, rest)
    | [] => none

instance : WireForm Amount where
  write a := Numeral.little 16 a.val
  read := do Reader.ofOption (Amount.ofNat? (← Reader.nat 16))

instance {α β : Type} [WireForm α] [WireForm β] : WireForm (α × β) where
  write p := WireForm.write p.1 ++ WireForm.write p.2
  read := do
    let a ← WireForm.read
    let b ← WireForm.read
    return (a, b)

instance {α : Type} [WireForm α] : WireForm (List α) where
  write as := Numeral.little 8 as.length ++ as.flatMap WireForm.write
  read := do Reader.times WireForm.read (← Reader.nat 8) []

/-- The form of a text is that of its bytes. -/
def Wire.writeText (text : String) : Bytes :=
  WireForm.write (Bytes.ofText text)

/-- Read bytes that are a text. -/
def Wire.readText : Reader String := do
  Reader.ofOption (Bytes.text? (← WireForm.read))

instance : WireForm String where
  write := Wire.writeText
  read := Wire.readText

end RemoteAccount
