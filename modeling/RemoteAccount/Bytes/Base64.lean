import RemoteAccount.Bytes.Basic

/-!
# Base64

Bytes inside a JSON text are written in the standard base64 alphabet: three bytes become four
digits of six bits, and a last group of one or two bytes is filled up with zero bits and padded
with `=` to four characters.

* `Base64.encode` writes all of the padding.
* `Base64.decode?` reads the padding loosely and all else strictly: any part of the padding may be
  left out, but every other character must be a digit, a last group of a single digit is refused,
  and the bits that fill up a last group must be zero.
-/

namespace RemoteAccount.Base64

def pad : UInt8 := '='.toUInt8

/-- The digit for a number below 64. -/
def digit (n : Nat) : UInt8 :=
  if n < 26 then 'A'.toUInt8 + UInt8.ofNat n
  else if n < 52 then 'a'.toUInt8 + UInt8.ofNat (n - 26)
  else if n < 62 then '0'.toUInt8 + UInt8.ofNat (n - 52)
  else if n = 62 then '+'.toUInt8
  else '/'.toUInt8

/-- The number that a digit stands for. -/
def value? (c : UInt8) : Option Nat :=
  if 'A'.toUInt8 ≤ c ∧ c ≤ 'Z'.toUInt8 then some (c - 'A'.toUInt8).toNat
  else if 'a'.toUInt8 ≤ c ∧ c ≤ 'z'.toUInt8 then some ((c - 'a'.toUInt8).toNat + 26)
  else if '0'.toUInt8 ≤ c ∧ c ≤ '9'.toUInt8 then some ((c - '0'.toUInt8).toNat + 52)
  else if c = '+'.toUInt8 then some 62
  else if c = '/'.toUInt8 then some 63
  else none

/-- Write the digits of the bytes that are left after those already written, which stand in
reverse. -/
def digitsOnto (done : Bytes) : Bytes → Bytes
  | a :: b :: c :: rest =>
    digitsOnto (digit (c.toNat % 64) :: digit (b.toNat % 16 * 4 + c.toNat / 64)
      :: digit (a.toNat % 4 * 16 + b.toNat / 16) :: digit (a.toNat / 4) :: done) rest
  | [a, b] =>
    (pad :: digit (b.toNat % 16 * 4)
      :: digit (a.toNat % 4 * 16 + b.toNat / 16) :: digit (a.toNat / 4) :: done).reverse
  | [a] => (pad :: pad :: digit (a.toNat % 4 * 16) :: digit (a.toNat / 4) :: done).reverse
  | [] => done.reverse

def encode (bs : Bytes) : Bytes :=
  digitsOnto [] bs

/-- Put six-bit numbers together to bytes, after those already put together, which stand in
reverse. What is left over in a last group must be zero bits. -/
def bytesOnto? (done : Bytes) : List Nat → Option Bytes
  | w :: x :: y :: z :: rest =>
    bytesOnto? (UInt8.ofNat (y % 4 * 64 + z) :: UInt8.ofNat (x % 16 * 16 + y / 4)
      :: UInt8.ofNat (w * 4 + x / 16) :: done) rest
  | [w, x, y] =>
    if y % 4 = 0 then
      some (UInt8.ofNat (x % 16 * 16 + y / 4) :: UInt8.ofNat (w * 4 + x / 16) :: done).reverse
    else none
  | [w, x] => if x % 16 = 0 then some (UInt8.ofNat (w * 4 + x / 16) :: done).reverse else none
  | [_] => none
  | [] => some done.reverse

/-- How many pad characters fill up a last group of so many digits. -/
def padding (digits : Nat) : Nat :=
  (4 - digits % 4) % 4

/-- The bytes a base64 text stands for. -/
def decode? (text : Bytes) : Option Bytes := do
  let digits := (text.reverse.dropWhile (· = pad)).reverse
  guard (text.length ≤ digits.length + padding digits.length)
  let values ← digits.mapM value?
  bytesOnto? [] values

example : encode (Bytes.ofText "foob") = Bytes.ofText "Zm9vYg==" := by decide
example : decode? (Bytes.ofText "Zm9vYg=") = some (Bytes.ofText "foob") := by decide
example : decode? (Bytes.ofText "Zm9vYh==") = none := by decide

end RemoteAccount.Base64
