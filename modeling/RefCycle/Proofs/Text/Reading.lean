import Mathlib
import RefCycle.Text.Grammar
import RefCycle.Text.Numeral
/-!
# Reading texts

Trimming finds the core of a text, and a numeral is read as the number that it denotes,
however many digits it has.

## Main statements

* `isCore_iff` — trimming finds the core of a text.
* `numeral?_eq_some_iff` — what is read are the numerals up to a bound.
* `numeral_toDigits` — a number that is printed is a numeral of it.
-/

namespace RefCycle.Text

variable {text core cs : List Char} {c : Char} {n bound : Nat}

/-! ### Cores -/

/-- Blanks come off at the front, and nothing else does. -/
theorem dropWhile_append {before rest : List Char} (blank : ∀ c ∈ before, isBlank c)
    (first : ∀ c ∈ rest.head?, isBlank c = false) :
    (before ++ rest).dropWhile isBlank = rest := by
  rw [List.dropWhile_append_of_pos blank]
  cases rest with
  | nil => rfl
  | cons c rest => exact List.dropWhile_cons_of_neg (by simp [first c rfl])

theorem first_dropWhile (cs : List Char) :
    ∀ c ∈ (cs.dropWhile isBlank).head?, isBlank c = false := by
  intro c first
  have stopped := List.head?_dropWhile_not isBlank cs
  rw [Option.mem_def.1 first] at stopped
  exact stopped

theorem isCore_trim (text : List Char) : IsCore text (trim text) := by
  let rest := text.dropWhile isBlank
  have whole : rest = trim text ++ (rest.reverse.takeWhile isBlank).reverse := by
    rw [trim, ← List.reverse_append, List.takeWhile_append_dropWhile, List.reverse_reverse]
  constructor
  · refine ⟨text.takeWhile isBlank, (rest.reverse.takeWhile isBlank).reverse, ?_, ?_, ?_⟩
    · rw [List.append_assoc, ← whole, List.takeWhile_append_dropWhile]
    · intro c mem
      exact List.mem_takeWhile_imp mem
    · intro c mem
      exact List.mem_takeWhile_imp (List.mem_reverse.1 mem)
  · intro c first
    have same : rest.head? = some c := by
      rw [whole, List.head?_append, Option.mem_def.1 first]
      rfl
    exact first_dropWhile text c same
  · intro c last
    rw [trim, List.getLast?_reverse] at last
    exact first_dropWhile _ c last

theorem IsCore.trim_eq (isCore : IsCore text core) : trim text = core := by
  obtain ⟨⟨before, after, rfl, front, back⟩, first, last⟩ := isCore
  by_cases empty : core = []
  · subst empty
    have gone : (before ++ [] ++ after).dropWhile isBlank = [] :=
      List.dropWhile_eq_nil_iff.2 (by simpa [or_imp, forall_and] using And.intro front back)
    rw [trim, gone]
    rfl
  · have start : (core ++ after).head? = core.head? := List.head?_append_of_ne_nil core empty
    have stop : core.reverse.head? = core.getLast? := List.head?_reverse
    rw [trim, List.append_assoc, dropWhile_append front (start ▸ first), List.reverse_append,
      dropWhile_append (fun c mem => back c (List.mem_reverse.1 mem)) (stop ▸ last),
      List.reverse_reverse]

theorem isCore_iff : IsCore text core ↔ trim text = core :=
  ⟨IsCore.trim_eq, fun trimmed => trimmed ▸ isCore_trim text⟩

/-- What is said of the core of a text is said of the trimmed text. -/
theorem exists_core_iff {P : List Char → Prop} : (∃ core, IsCore text core ∧ P core) ↔ P (trim text) := by
  simp [isCore_iff]

/-- A text without blanks is its own core. -/
theorem isCore_self (blankless : ∀ c ∈ text, isBlank c = false) : IsCore text text where
  between := ⟨[], [], by simp, nofun, nofun⟩
  first c first := blankless c (List.mem_of_mem_head? first)
  last c last := blankless c (List.mem_of_mem_getLast? last)

/-! ### Numerals -/

theorem isDigit_digit (d : Fin 10) : (digit d).isDigit = true := by
  revert d
  decide

theorem toNat_digit (d : Fin 10) : (digit d).toNat - '0'.toNat = d := by
  revert d
  decide

theorem isBlank_digit (d : Fin 10) : isBlank (digit d) = false := by
  revert d
  decide

theorem digit_ne_plus (d : Fin 10) : digit d ≠ '+' := by
  revert d
  decide

theorem dropPlus_digit (d : Fin 10) (rest : List Char) :
    dropPlus (digit d :: rest) = digit d :: rest := by
  rw [dropPlus.eq_def]
  split
  · rename_i eq
    exact absurd (List.cons.inj eq).1 (digit_ne_plus d)
  · rfl

theorem isDigit_iff : c.isDigit = true ↔ c ∈ Set.range digit := by
  constructor
  · intro isDigit
    obtain ⟨low, high⟩ := Char.isDigit_iff_toNat.1 isDigit
    have low : 48 ≤ c.toNat := low
    have high : c.toNat ≤ 57 := high
    refine ⟨⟨c.toNat - 48, by omega⟩, Char.toNat_inj.1 ?_⟩
    rw [digit, Nat.toNat_digitChar_of_lt_ten (by omega)]
    dsimp only
    omega
  · rintro ⟨d, rfl⟩
    exact isDigit_digit d

/-- Digits denote what is read off them from the left to the right. -/
theorem valueOfDigits_map (digits : List (Fin 10)) :
    valueOfDigits (digits.map digit) = ofDigits digits := by
  induction digits using List.reverseRecOn with
  | nil => rfl
  | append_singleton digits d ih =>
    have read : valueOfDigits (digits.map digit ++ [digit d]) =
        10 * valueOfDigits (digits.map digit) + ((digit d).toNat - '0'.toNat) := by
      rw [valueOfDigits, List.foldl_append]
      rfl
    have value : ofDigits (digits ++ [d]) = d + 10 * ofDigits digits := by
      rw [ofDigits, List.reverse_concat, List.map_cons, Nat.ofDigits_cons]
      rfl
    rw [List.map_append, List.map_singleton, read, ih, toNat_digit, value, Nat.add_comm]

theorem naturalOfDigits?_eq_some_iff :
    naturalOfDigits? cs = some n ↔
      ∃ digits : List (Fin 10), digits ≠ [] ∧ cs = digits.map digit ∧ ofDigits digits = n := by
  constructor
  · intro read
    rw [naturalOfDigits?] at read
    split at read
    · rename_i shape
      obtain ⟨nonempty, all⟩ := shape
      have range : cs ∈ Set.range (List.map digit) := by
        rw [Set.range_list_map]
        exact fun c mem => isDigit_iff.1 (List.all_eq_true.1 all c mem)
      obtain ⟨digits, rfl⟩ := range
      refine ⟨digits, mt (congrArg (List.map digit)) nonempty, rfl, ?_⟩
      rw [← valueOfDigits_map]
      exact Option.some.inj read
    · contradiction
  · rintro ⟨digits, nonempty, rfl, rfl⟩
    rw [naturalOfDigits?, valueOfDigits_map]
    refine if_pos ⟨mt List.map_eq_nil_iff.1 nonempty, List.all_eq_true.2 fun c mem => ?_⟩
    obtain ⟨d, -, rfl⟩ := List.mem_map.1 mem
    exact isDigit_digit d

/-- Behind at most one plus sign, a numeral consists of digits. -/
theorem numeral_iff : Numeral cs n ↔ naturalOfDigits? (dropPlus cs) = some n := by
  rw [naturalOfDigits?_eq_some_iff]
  constructor
  · rintro (⟨nonempty⟩ | ⟨nonempty⟩)
    · rename_i digits
      refine ⟨digits, nonempty, ?_, rfl⟩
      cases digits with
      | nil => contradiction
      | cons d digits =>
        rw [List.map_cons, dropPlus_digit]
    · exact ⟨_, nonempty, rfl, rfl⟩
  · rintro ⟨digits, nonempty, shape, rfl⟩
    rw [dropPlus.eq_def] at shape
    split at shape
    · rw [shape]
      exact .signed nonempty
    · rw [shape]
      exact .plain nonempty

/-- What is read are the numerals of numbers up to the bound. -/
theorem numeral?_eq_some_iff : numeral? bound cs = some n ↔ Numeral cs n ∧ n ≤ bound := by
  rw [numeral?, Option.filter_eq_some_iff, numeral_iff, decide_eq_true_iff]

theorem Numeral.unique {m : Nat} (first : Numeral cs m) (second : Numeral cs n) : m = n :=
  Option.some.inj ((numeral_iff.1 first).symm.trans (numeral_iff.1 second))

/-! ### Printing -/

/-- What is printed of a number are digits. -/
theorem exists_digits (n : Nat) :
    ∃ digits : List (Fin 10), digits ≠ [] ∧ Nat.toDigits 10 n = digits.map digit ∧
      ofDigits digits = n := by
  refine naturalOfDigits?_eq_some_iff.1 ?_
  have isDigit : (Nat.toDigits 10 n).all Char.isDigit := List.all_eq_true.2 fun c mem =>
    Nat.isDigit_of_mem_toDigits (by decide) (by decide) mem
  rw [naturalOfDigits?, if_pos ⟨Nat.toDigits_ne_nil, isDigit⟩]
  exact congrArg some (Nat.ofDigitChars_toDigits (by decide) (by decide))

/-- A number that is printed is a numeral of it. -/
theorem numeral_toDigits (n : Nat) : Numeral (Nat.toDigits 10 n) n := by
  obtain ⟨digits, nonempty, eq, rfl⟩ := exists_digits n
  rw [eq]
  exact .plain nonempty

theorem isCore_toDigits (n : Nat) : IsCore (Nat.toDigits 10 n) (Nat.toDigits 10 n) := by
  obtain ⟨digits, -, eq, -⟩ := exists_digits n
  rw [eq]
  refine isCore_self fun c mem => ?_
  obtain ⟨d, -, rfl⟩ := List.mem_map.1 mem
  exact isBlank_digit d

end RefCycle.Text
