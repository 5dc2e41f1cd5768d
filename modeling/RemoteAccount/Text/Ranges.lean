/-!
# Ranges of code points

A property of characters is given as a list of ranges of code points, both ends included, in
increasing order and without two that touch, so that a property has one such list.

* `inRanges` decides whether a character has the property.
* `rangesSize` counts the code points, and `areApart` says that a list is written as it should be.
-/

namespace RemoteAccount.Text

def inRanges (ranges : List (Nat × Nat)) (c : Char) : Bool :=
  ranges.any fun (low, high) => low ≤ c.toNat && c.toNat ≤ high

/-- How many code points the ranges hold. -/
def rangesSize (ranges : List (Nat × Nat)) : Nat :=
  ranges.foldr (fun (low, high) size => high + 1 - low + size) 0

/-- Is every range in order, and is there a code point between it and the next? -/
def areApart : List (Nat × Nat) → Bool
  | [] => true
  | [(low, high)] => low ≤ high
  | (low, high) :: (low', high') :: ranges =>
    low ≤ high && high + 1 < low' && areApart ((low', high') :: ranges)

end RemoteAccount.Text
