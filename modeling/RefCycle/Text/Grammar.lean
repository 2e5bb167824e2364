import Mathlib.Data.Nat.Digits.Defs
import RefCycle.Text.Blank
/-!
# Which texts are numerals

What the readers of texts have to agree with, said by how a text is put together: blanks
around a core, and digits one after the other.

## Main definitions

* `Text.IsCore` — what is left of a text without the blanks around it.
* `Text.ofDigits` — the number that digits denote.
* `Text.Numeral` — a text is a decimal numeral of a number.
-/

namespace RefCycle.Text

/-- A text is its core between blanks, and the core is as short as can be. -/
structure IsCore (text core : List Char) : Prop where
  between : ∃ before after, text = before ++ core ++ after ∧
    (∀ c ∈ before, isBlank c) ∧ ∀ c ∈ after, isBlank c
  first : ∀ c ∈ core.head?, isBlank c = false
  last : ∀ c ∈ core.getLast?, isBlank c = false

/-- The character of a digit. -/
def digit (d : Fin 10) : Char :=
  Nat.digitChar d

/-- The number that digits denote, the most significant one first. -/
def ofDigits (digits : List (Fin 10)) : Nat :=
  Nat.ofDigits 10 (digits.reverse.map Fin.val)

/-- A text is a decimal numeral: at least one digit, behind at most one plus sign. -/
inductive Numeral : List Char → Nat → Prop where
  | plain {digits : List (Fin 10)} (nonempty : digits ≠ []) :
      Numeral (digits.map digit) (ofDigits digits)
  | signed {digits : List (Fin 10)} (nonempty : digits ≠ []) :
      Numeral ('+' :: digits.map digit) (ofDigits digits)

end RefCycle.Text
