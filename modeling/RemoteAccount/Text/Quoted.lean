import RemoteAccount.Text.Blank
import RemoteAccount.Text.Extending
import RemoteAccount.Text.Unassigned

/-!
# Quoted texts

Tables are shown as a list of their keys, each between quotation marks. Inside the marks a
backslash introduces the quotation mark, the backslash itself, the tab, the two line ends and the
null character. Any other character that cannot be seen by itself (`isUnseen`) is shown by its code
point in braces.
-/

namespace RemoteAccount.Text

/-- The ranges of code points with the general category `Cf`: characters that only direct how
others are shown. -/
def formatRanges : List (Nat × Nat) :=
  [(0x00ad, 0x00ad), (0x0600, 0x0605), (0x061c, 0x061c), (0x06dd, 0x06dd), (0x070f, 0x070f),
    (0x0890, 0x0891), (0x08e2, 0x08e2), (0x180e, 0x180e), (0x200b, 0x200f), (0x202a, 0x202e),
    (0x2060, 0x2064), (0x2066, 0x206f), (0xfeff, 0xfeff), (0xfff9, 0xfffb), (0x110bd, 0x110bd),
    (0x110cd, 0x110cd), (0x13430, 0x1343f), (0x1bca0, 0x1bca3), (0x1d173, 0x1d17a),
    (0xe0001, 0xe0001), (0xe0020, 0xe007f)]

example : areApart formatRanges = true ∧ rangesSize formatRanges = 170 := by decide

/-- The ranges of code points with the general category `Co`: they are left to private use. -/
def privateUseRanges : List (Nat × Nat) :=
  [(0xe000, 0xf8ff), (0xf0000, 0xffffd), (0x100000, 0x10fffd)]

/-- The ranges of code points of the Hangul fillers: of the letters, they alone have the property
`Default_Ignorable_Code_Point`. -/
def fillerRanges : List (Nat × Nat) :=
  [(0x115f, 0x1160), (0x3164, 0x3164), (0xffa0, 0xffa0)]

/-- Is the character a control character, of ASCII or of Latin-1? -/
def isControl (c : Char) : Bool :=
  c.toNat < 0x20 || (0x7f ≤ c.toNat && c.toNat < 0xa0)

/-- Does the character leave nothing of its own to be seen? Of the characters of ASCII only the
control characters do. -/
def isUnseen (c : Char) : Bool :=
  isControl c || (0x7f < c.toNat && (isBlank c || inRanges formatRanges c ||
    inRanges privateUseRanges c || inRanges fillerRanges c || inRanges extendingRanges c ||
    inRanges unassignedRanges c))

/-- A character as it is shown between quotation marks. -/
def quotedChar (c : Char) : List Char :=
  if c = '"' then ['\\', '"']
  else if c = '\\' then ['\\', '\\']
  else if c = '\t' then ['\\', 't']
  else if c = '\n' then ['\\', 'n']
  else if c = '\r' then ['\\', 'r']
  else if c.toNat = 0 then ['\\', '0']
  else if isUnseen c then ['\\', 'u', '\x7b'] ++ Nat.toDigits 16 c.toNat ++ ['\x7d']
  else [c]

def quoted (text : String) : String :=
  String.ofList ('"' :: text.toList.flatMap quotedChar ++ ['"'])

/-- A list of texts, each between quotation marks, in brackets. -/
def quotedList (texts : List String) : String :=
  "[" ++ ", ".intercalate (texts.map quoted) ++ "]"

example : quotedList ["/a", "b\"c"] = "[\"/a\", \"b\\\"c\"]" := by decide

example : quoted "a b\u200be\u0301" = "\"a b\\u\x7b200b\x7de\\u\x7b301\x7d\"" := by
  decide +kernel

example : quoted "\uff9e\uffa0" = "\"\uff9e\\u\x7bffa0\x7d\"" := by decide +kernel

end RemoteAccount.Text
