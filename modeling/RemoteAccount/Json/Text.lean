import RemoteAccount.Json.Value

/-!
# Strings in JSON

A string is written between its quotation marks with some characters escaped, and the same string
can be written in many ways. This module goes between what is written and the text it means.

* `Json.ofText` escapes the quotation mark, the backslash and the control characters, and nothing
  else.
* `Json.text?` resolves the escapes. A code point above U+FFFF may be written as a pair of `\u`
  escapes, the halves of a UTF-16 surrogate pair; a half without its partner means nothing. The
  bytes that result must be UTF-8.
-/

namespace RemoteAccount.Json

/-! ### Writing -/

def hexDigit (n : Nat) : UInt8 :=
  if n < 10 then '0'.toUInt8 + UInt8.ofNat n else 'a'.toUInt8 + UInt8.ofNat (n - 10)

/-- A byte of a string as it is written. -/
def escapeByte (b : UInt8) : Bytes :=
  if b = quote then [backslash, quote]
  else if b = backslash then [backslash, backslash]
  else if b = 0x08 then [backslash, 'b'.toUInt8]
  else if b = 0x0c then [backslash, 'f'.toUInt8]
  else if b = 0x0a then [backslash, 'n'.toUInt8]
  else if b = 0x0d then [backslash, 'r'.toUInt8]
  else if b = 0x09 then [backslash, 't'.toUInt8]
  else if b < 0x20 then
    [backslash, 'u'.toUInt8, '0'.toUInt8, '0'.toUInt8, hexDigit (b.toNat / 16),
      hexDigit (b.toNat % 16)]
  else [b]

/-- A text as it is written between quotation marks. -/
def rawOfText (text : String) : Bytes :=
  (Bytes.ofText text).flatMap escapeByte

def ofText (text : String) : Json :=
  .text (rawOfText text)

/-! ### Reading -/

/-- What one letter after a backslash means, the `u` that takes digits apart. -/
def unescape? (b : UInt8) : Option UInt8 :=
  if b = quote || b = backslash || b = '/'.toUInt8 then some b
  else if b = 'b'.toUInt8 then some 0x08
  else if b = 'f'.toUInt8 then some 0x0c
  else if b = 'n'.toUInt8 then some 0x0a
  else if b = 'r'.toUInt8 then some 0x0d
  else if b = 't'.toUInt8 then some 0x09
  else none

def isHighHalf (n : Nat) : Bool :=
  0xd800 ≤ n && n < 0xdc00

def isLowHalf (n : Nat) : Bool :=
  0xdc00 ≤ n && n < 0xe000

/-- The code point that two halves make up. -/
def joinHalves (high low : Nat) : Nat :=
  0x10000 + (high - 0xd800) * 0x400 + (low - 0xdc00)

/-- A place in a written string. -/
inductive TextSpot
  | plain
  /-- After a backslash. -/
  | escape
  /-- Inside `\u`, before the last `left + 1` digits, those before them making up `code`. -/
  | unicode (left code : Nat)

/-- The bytes that are read so far, in reverse, with the first half of a pair if one is waiting
for its partner. -/
structure TextScan where
  done : Bytes
  high : Option Nat
  spot : TextSpot

namespace TextScan

/-- Take up one byte, unless a partner is due. -/
def pushByte? (s : TextScan) (b : UInt8) : Option TextScan :=
  match s.high with
  | none => some ⟨b :: s.done, none, .plain⟩
  | some _ => none

/-- Take up a code point. -/
def pushCode (s : TextScan) (code : Nat) : TextScan :=
  ⟨(Bytes.ofText (String.singleton (Char.ofNat code))).reverse ++ s.done, none, .plain⟩

/-- Take up the number that a `\u` escape gives. -/
def pushUnit? (s : TextScan) (unit : Nat) : Option TextScan :=
  match s.high with
  | none =>
    if isHighHalf unit then some ⟨s.done, some unit, .plain⟩
    else if isLowHalf unit then none
    else some (s.pushCode unit)
  | some high => if isLowHalf unit then some (s.pushCode (joinHalves high unit)) else none

def step? (s : TextScan) (b : UInt8) : Option TextScan :=
  match s.spot with
  | .plain => if b = backslash then some ⟨s.done, s.high, .escape⟩ else s.pushByte? b
  | .escape =>
    if b = 'u'.toUInt8 then some ⟨s.done, s.high, .unicode 3 0⟩
    else (unescape? b).bind s.pushByte?
  | .unicode left code => (hexValue? b).bind fun digit => match left with
    | 0 => s.pushUnit? (code * 16 + digit)
    | left + 1 => some ⟨s.done, s.high, .unicode left (code * 16 + digit)⟩

/-- The bytes of a string that ends here. -/
def finish? (s : TextScan) : Option Bytes :=
  match s.spot, s.high with
  | .plain, none => some s.done.reverse
  | _, _ => none

end TextScan

/-- The text that is meant by what is written between quotation marks. -/
def textOfRaw? (raw : Bytes) : Option String := do
  let s ← raw.foldlM TextScan.step? ⟨[], none, .plain⟩
  Bytes.text? (← s.finish?)

def text? : Json → Option String
  | .text raw => textOfRaw? raw
  | _ => none

example : textOfRaw? (Bytes.ofText "a\\ud83d\\ude00\\/") = some "a😀/" := by decide
example : textOfRaw? (Bytes.ofText "\\ud83d\\n") = none := by decide
example : rawOfText "\x01\"" = Bytes.ofText "\\u0001\\\"" := by decide

end RemoteAccount.Json
