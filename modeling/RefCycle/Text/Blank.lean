/-!
# Blank characters

The characters with the property White_Space, and removal of them from both
ends of a text. The property is wider than the blanks of ASCII: it includes the
next-line character, the no-break spaces and the spaces of typography.

## Main definitions

* `RefCycle.Text.isBlank` — the character class.
* `RefCycle.Text.trim` — a text without the blanks at its ends.
-/

namespace RefCycle.Text

/-- The ranges of the property White_Space, by first and last code point. -/
def blankRanges : List (Nat × Nat) :=
  [(0x09, 0x0D), (0x20, 0x20), (0x85, 0x85), (0xA0, 0xA0), (0x1680, 0x1680),
    (0x2000, 0x200A), (0x2028, 0x2029), (0x202F, 0x202F), (0x205F, 0x205F),
    (0x3000, 0x3000)]

/-- Whether a character is blank. -/
def isBlank (c : Char) : Bool :=
  blankRanges.any fun range => range.1 ≤ c.toNat && c.toNat ≤ range.2

/-- A text without the blank characters at its two ends. -/
def trim (cs : List Char) : List Char :=
  ((cs.dropWhile isBlank).reverse.dropWhile isBlank).reverse

end RefCycle.Text
