/-!
# Decimal numerals

The reader of a natural number below a bound: decimal digits of ASCII, at least
one of them, behind at most one plus sign. Leading zeros are free, so the bound
is a bound on the value and not on the length.

## Main definitions

* `RefCycle.Text.valueOfDigits` — the number that decimal digits denote.
* `RefCycle.Text.naturalOfDigits?` — the same, for texts that hold digits only.
* `RefCycle.Text.numeral?` — the number that a text denotes, if it is a numeral.
-/

namespace RefCycle.Text

/-- The number that a sequence of decimal digits denotes. -/
def valueOfDigits (digits : List Char) : Nat :=
  digits.foldl (fun value digit => 10 * value + (digit.toNat - '0'.toNat)) 0

/-- A text without its first character, if that is a plus sign. -/
def dropPlus : List Char → List Char
  | '+' :: rest => rest
  | cs => cs

/-- The number that a nonempty sequence of decimal digits denotes. -/
def naturalOfDigits? (digits : List Char) : Option Nat :=
  if digits ≠ [] ∧ digits.all Char.isDigit then some (valueOfDigits digits) else none

/-- The number that a text denotes, if it is a numeral and at most `bound`. -/
def numeral? (bound : Nat) (cs : List Char) : Option Nat :=
  (naturalOfDigits? (dropPlus cs)).filter (· ≤ bound)

end RefCycle.Text
