import RemoteAccount.Json.Token

/-!
# Cutting a JSON text into tokens

The scanner reads a text byte by byte. What it has to remember between two bytes is the tokens it
has finished and a `Spot`: the place inside a token, or between two, at which it stands.

* `NumberSpot` is the grammar of numbers: an optional sign, digits without a leading zero, an
  optional fraction and an optional exponent.
* Inside a string every byte from U+0020 on may stand, a backslash must begin a known escape, and
  `\u` takes four hexadecimal digits. Whether the escapes make up a text is decided where the
  string is read (`Json/Text.lean`), since a string that nobody reads need not.
* `Token.scan?` refuses a text exactly when some byte has no place at its spot or the text ends
  inside a token.

How tokens follow one another is left to `Json/Value.lean`.
-/

namespace RemoteAccount.Json

/-! ### Numbers -/

/-- A place inside a number. -/
inductive NumberSpot
  | minus
  | zero
  | integer
  | point
  | fraction
  | exponent
  | exponentSign
  | exponentDigits
  deriving DecidableEq, Repr

namespace NumberSpot

/-- The place after the first byte of a number. -/
def start? (b : UInt8) : Option NumberSpot :=
  if b = '-'.toUInt8 then some .minus
  else if b = '0'.toUInt8 then some .zero
  else if isDigit b then some .integer
  else none

/-- The place after a byte that carries the number on. -/
def next? (spot : NumberSpot) (b : UInt8) : Option NumberSpot :=
  let fractionOrExponent :=
    if b = '.'.toUInt8 then some .point
    else if b = 'e'.toUInt8 || b = 'E'.toUInt8 then some .exponent
    else none
  match spot with
  | .minus => if b = '0'.toUInt8 then some .zero else if isDigit b then some .integer else none
  | .zero => fractionOrExponent
  | .integer => if isDigit b then some .integer else fractionOrExponent
  | .point => if isDigit b then some .fraction else none
  | .fraction =>
    if isDigit b then some .fraction
    else if b = 'e'.toUInt8 || b = 'E'.toUInt8 then some .exponent
    else none
  | .exponent =>
    if b = '+'.toUInt8 || b = '-'.toUInt8 then some .exponentSign
    else if isDigit b then some .exponentDigits
    else none
  | .exponentSign | .exponentDigits => if isDigit b then some .exponentDigits else none

def isEnd : NumberSpot → Bool
  | .zero | .integer | .fraction | .exponentDigits => true
  | .minus | .point | .exponent | .exponentSign => false

end NumberSpot

/-! ### The scanner -/

/-- A place in a text. What has been read of a token stands in reverse. -/
inductive Spot
  | between
  /-- Inside a word that means `token` and still lacks the bytes of `rest`. -/
  | word (rest : Bytes) (token : Token)
  | number (spot : NumberSpot) (done : Bytes)
  | text (done : Bytes)
  /-- After a backslash in a string. -/
  | escape (done : Bytes)
  /-- Inside `\u`, before the last `left + 1` digits. -/
  | unicode (left : Nat) (done : Bytes)
  deriving DecidableEq, Repr

/-- The finished tokens, the latest first, and the place reached after them. -/
structure Scan where
  tokens : List Token
  spot : Spot

namespace Scan

/-- The tokens of a single byte. -/
def sign? (b : UInt8) : Option Token :=
  if b = '['.toUInt8 then some .openArray
  else if b = ']'.toUInt8 then some .closeArray
  else if b = '\x7b'.toUInt8 then some .openObject
  else if b = '\x7d'.toUInt8 then some .closeObject
  else if b = ','.toUInt8 then some .comma
  else if b = ':'.toUInt8 then some .colon
  else none

/-- The words, by their first byte: the bytes that must follow it, and the meaning. -/
def word? (b : UInt8) : Option (Bytes × Token) :=
  if b = 'n'.toUInt8 then some (Bytes.ofText "ull", .null)
  else if b = 't'.toUInt8 then some (Bytes.ofText "rue", .bool true)
  else if b = 'f'.toUInt8 then some (Bytes.ofText "alse", .bool false)
  else none

/-- May the byte follow a backslash, other than the `u` that takes digits? -/
def isEscape (b : UInt8) : Bool :=
  b = quote || b = backslash || b = '/'.toUInt8 || b = 'b'.toUInt8 || b = 'f'.toUInt8
    || b = 'n'.toUInt8 || b = 'r'.toUInt8 || b = 't'.toUInt8

/-- Read a byte between two tokens. -/
def begin? (tokens : List Token) (b : UInt8) : Option Scan :=
  if isSpace b then some ⟨tokens, .between⟩
  else if b = quote then some ⟨tokens, .text []⟩
  else match sign? b with
    | some token => some ⟨token :: tokens, .between⟩
    | none => match word? b with
      | some (rest, token) => some ⟨tokens, .word rest token⟩
      | none => (NumberSpot.start? b).map fun spot => ⟨tokens, .number spot [b]⟩

def step? (s : Scan) (b : UInt8) : Option Scan :=
  match s.spot with
  | .between => begin? s.tokens b
  | .word [] _ => none
  | .word [c] token => if b = c then some ⟨token :: s.tokens, .between⟩ else none
  | .word (c :: rest) token => if b = c then some ⟨s.tokens, .word rest token⟩ else none
  | .number spot done => match spot.next? b with
    | some spot => some ⟨s.tokens, .number spot (b :: done)⟩
    -- only the byte after a number shows that it has ended
    | none => if spot.isEnd then begin? (.number done.reverse :: s.tokens) b else none
  | .text done =>
    if b = quote then some ⟨.text done.reverse :: s.tokens, .between⟩
    else if b = backslash then some ⟨s.tokens, .escape (b :: done)⟩
    -- a control character must be escaped
    else if b < 0x20 then none
    else some ⟨s.tokens, .text (b :: done)⟩
  | .escape done =>
    if b = 'u'.toUInt8 then some ⟨s.tokens, .unicode 3 (b :: done)⟩
    else if isEscape b then some ⟨s.tokens, .text (b :: done)⟩
    else none
  | .unicode left done =>
    if (hexValue? b).isNone then none
    else match left with
      | 0 => some ⟨s.tokens, .text (b :: done)⟩
      | left + 1 => some ⟨s.tokens, .unicode left (b :: done)⟩

/-- The tokens of a text that ends here, in their order. -/
def finish? (s : Scan) : Option (List Token) :=
  match s.spot with
  | .between => some s.tokens.reverse
  | .number spot done =>
    if spot.isEnd then some (.number done.reverse :: s.tokens).reverse else none
  | .word _ _ | .text _ | .escape _ | .unicode _ _ => none

end Scan

def Token.scan? (bs : Bytes) : Option (List Token) := do
  let s ← bs.foldlM Scan.step? ⟨[], .between⟩
  s.finish?

example : Token.scan? (Bytes.ofText "[1.5e3, \"a\\u00e9\"]") =
    some [.openArray, .number (Bytes.ofText "1.5e3"), .comma, .text (Bytes.ofText "a\\u00e9"),
      .closeArray] := by decide

example : Token.scan? (Bytes.ofText "[-]") = none := by decide

end RemoteAccount.Json
