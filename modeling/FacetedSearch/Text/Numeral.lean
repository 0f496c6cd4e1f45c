/-
# FacetedSearch.Text.Numeral -- decimal numerals

A number is written without leading zeros (`numeral`).  Reading admits leading zeros and bounds
the value (`readNumeral?`), so `readNumeral?_numeral` holds below the bound, and two texts may read
as one number.
-/
import FacetedSearch.Text.Word

namespace FacetedSearch.Text

set_option autoImplicit false

/-- The decimal digits of a number, without leading zeros. -/
def numeral (n : Nat) : List Char := Nat.toDigits 10 n

/-- The number that a numeral stands for, if it is below `bound`. -/
def readNumeral? (bound : Nat) (text : List Char) : Option Nat :=
  if isNumeral text ∧ Nat.ofDigitChars 10 text 0 < bound then some (Nat.ofDigitChars 10 text 0)
  else none

theorem isNumeral_numeral (n : Nat) : isNumeral (numeral n) = true := by
  have hne : numeral n ≠ [] := Nat.toDigits_ne_nil
  simp only [isNumeral, isRun, Bool.and_eq_true, Bool.not_eq_true', List.isEmpty_eq_false_iff,
    List.all_eq_true]
  exact ⟨hne, fun c hc => Nat.isDigit_of_mem_toDigits (by decide) (by decide) hc⟩

theorem readNumeral?_numeral {bound n : Nat} (h : n < bound) :
    readNumeral? bound (numeral n) = some n := by
  have hvalue : Nat.ofDigitChars 10 (numeral n) 0 = n :=
    Nat.ofDigitChars_toDigits (by decide) (by decide)
  simp [readNumeral?, isNumeral_numeral, hvalue, h]

theorem readNumeral?_eq_some_iff {bound n : Nat} {digits : List Char} :
    readNumeral? bound digits = some n ↔
      isNumeral digits = true ∧ Nat.ofDigitChars 10 digits 0 = n ∧ n < bound := by
  simp only [readNumeral?, Option.ite_none_right_eq_some, Option.some.injEq]
  constructor
  · rintro ⟨⟨numeral, small⟩, rfl⟩
    exact ⟨numeral, rfl, small⟩
  · rintro ⟨numeral, rfl, small⟩
    exact ⟨⟨numeral, small⟩, rfl⟩

theorem lt_of_readNumeral? {bound n : Nat} {text : List Char}
    (h : readNumeral? bound text = some n) : n < bound :=
  (readNumeral?_eq_some_iff.1 h).2.2

/-! ## Signs -/

/-- The digits of an integer, after a minus sign if it is negative. -/
def signedNumeral : Int → List Char
  | .ofNat n => numeral n
  | .negSucc n => '-' :: numeral (n + 1)

end FacetedSearch.Text
