import RemoteAccount.Bytes.Basic

/-!
# JSON tokens

A JSON text is a sequence of tokens with blanks between them. Strings and numbers stay as they are
written, so a token determines its bytes (`Token.bytes`) and nothing of the text is lost but the
blanks. This module holds the tokens and the classes of bytes they are made of; the scanner that
cuts a text into tokens is in `Json/Scan.lean`.
-/

namespace RemoteAccount.Json

/-! ### Bytes -/

def quote : UInt8 := '"'.toUInt8

def backslash : UInt8 := '\\'.toUInt8

/-- Is the byte a blank between tokens? -/
def isSpace (b : UInt8) : Bool :=
  b = ' '.toUInt8 || b = '\n'.toUInt8 || b = '\r'.toUInt8 || b = '\t'.toUInt8

def digitValue? (b : UInt8) : Option Nat :=
  if '0'.toUInt8 ≤ b ∧ b ≤ '9'.toUInt8 then some (b - '0'.toUInt8).toNat else none

def isDigit (b : UInt8) : Bool :=
  (digitValue? b).isSome

/-- The value of a hexadecimal digit, of either case. -/
def hexValue? (b : UInt8) : Option Nat :=
  if 'a'.toUInt8 ≤ b ∧ b ≤ 'f'.toUInt8 then some ((b - 'a'.toUInt8).toNat + 10)
  else if 'A'.toUInt8 ≤ b ∧ b ≤ 'F'.toUInt8 then some ((b - 'A'.toUInt8).toNat + 10)
  else digitValue? b

/-! ### Tokens -/

/-- A token of a JSON text. -/
inductive Token
  | openArray
  | closeArray
  | openObject
  | closeObject
  | comma
  | colon
  | null
  | bool (value : Bool)
  /-- A number, as it is written. -/
  | number (literal : Bytes)
  /-- A string, as it is written between its quotation marks. -/
  | text (raw : Bytes)
  deriving DecidableEq, Repr

def Token.bytes : Token → Bytes
  | .openArray => ['['.toUInt8]
  | .closeArray => [']'.toUInt8]
  | .openObject => ['\x7b'.toUInt8]
  | .closeObject => ['\x7d'.toUInt8]
  | .comma => [','.toUInt8]
  | .colon => [':'.toUInt8]
  | .null => Bytes.ofText "null"
  | .bool true => Bytes.ofText "true"
  | .bool false => Bytes.ofText "false"
  | .number literal => literal
  | .text raw => quote :: raw ++ [quote]

end RemoteAccount.Json
