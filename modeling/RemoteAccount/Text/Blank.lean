import RemoteAccount.Text.Ranges

/-!
# Blank characters

The characters that surround a word without being part of it are those of the Unicode property
`White_Space`. Addresses, denominations and allow-list entries that hold nothing else count as
empty, and configured values are read without the blanks around them.

* `isBlank` is the property as a table of ranges.
* `trim` takes the blanks off both ends of a text, and `isBlankText` says that nothing is left.
-/

namespace RemoteAccount.Text

/-- The ranges of code points with the property `White_Space`. -/
def blankRanges : List (Nat × Nat) :=
  [(0x0009, 0x000d), (0x0020, 0x0020), (0x0085, 0x0085), (0x00a0, 0x00a0), (0x1680, 0x1680),
    (0x2000, 0x200a), (0x2028, 0x2029), (0x202f, 0x202f), (0x205f, 0x205f), (0x3000, 0x3000)]

def isBlank (c : Char) : Bool :=
  inRanges blankRanges c

example : areApart blankRanges = true ∧ rangesSize blankRanges = 25 := by decide

/-- Take the blanks off both ends of a list of characters. -/
def trimChars (cs : List Char) : List Char :=
  ((cs.dropWhile isBlank).reverse.dropWhile isBlank).reverse

def trim (text : String) : String :=
  String.ofList (trimChars text.toList)

def isBlankText (text : String) : Bool :=
  text.toList.all isBlank

example : trim "\u2003 true\n" = "true" := by decide

end RemoteAccount.Text
