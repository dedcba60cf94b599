/-
This file develops the decimal texts of numbers. The text of an integer starts
with a sign or a digit and is the text of one integer only; digits in front of a
text that does not start with one are told from it.
-/

import Mathlib.Data.Int.Basic
import Mathlib.Data.List.Basic
import Mathlib.Data.Nat.Init

namespace PrefixCode

/-- The text does not start with a digit. -/
def NoDigit (text : List Char) : Prop := ∀ digit rest, text = digit :: rest → digit.isDigit = false

theorem takeWhile_of_noDigit {text : List Char} (stops : NoDigit text) :
    text.takeWhile Char.isDigit = [] := by
  cases text with
  | nil => rfl
  | cons digit rest => rw [List.takeWhile_cons, stops digit rest rfl, if_neg Bool.false_ne_true]

theorem dropWhile_of_noDigit {text : List Char} (stops : NoDigit text) :
    text.dropWhile Char.isDigit = text := by
  cases text with
  | nil => rfl
  | cons digit rest => rw [List.dropWhile_cons, stops digit rest rfl, if_neg Bool.false_ne_true]

theorem toDigits_eq_cons (number : Nat) :
    ∃ digit rest, Nat.toDigits 10 number = digit :: rest ∧ digit.isDigit = true := by
  cases word : Nat.toDigits 10 number with
  | nil => exact absurd word Nat.toDigits_ne_nil
  | cons digit rest =>
    exact ⟨digit, rest, rfl,
      Nat.isDigit_of_mem_toDigits (by decide) (by decide) (word ▸ List.mem_cons_self)⟩

/-- The decimal text of an integer. -/
def integer : Int → List Char
  | .ofNat number => Nat.toDigits 10 number
  | .negSucc number => '-' :: Nat.toDigits 10 (number + 1)

theorem integer_eq_cons (number : Int) :
    ∃ symbol rest, integer number = symbol :: rest ∧ (symbol = '-' ∨ symbol.isDigit = true) := by
  cases number with
  | ofNat number =>
    obtain ⟨digit, rest, word, isDigit⟩ := toDigits_eq_cons number
    exact ⟨digit, rest, word, Or.inr isDigit⟩
  | negSucc number => exact ⟨'-', _, rfl, Or.inl rfl⟩

theorem toDigits_injective : Function.Injective (Nat.toDigits 10) :=
  Function.LeftInverse.injective fun _ => Nat.ofDigitChars_ten_toDigits

theorem integer_injective : Function.Injective integer := by
  have unsigned : ∀ number other, Nat.toDigits 10 number ≠ '-' :: Nat.toDigits 10 other := by
    intro number other same
    obtain ⟨digit, rest, word, isDigit⟩ := toDigits_eq_cons number
    rw [(List.cons.inj (word.symm.trans same)).1] at isDigit
    exact absurd isDigit (by decide)
  rintro (number | number) (other | other) same
  · exact congrArg Int.ofNat (toDigits_injective same)
  · exact absurd same (unsigned _ _)
  · exact absurd same.symm (unsigned _ _)
  · exact congrArg Int.negSucc (Nat.succ.inj (toDigits_injective (List.cons.inj same).2))

end PrefixCode
