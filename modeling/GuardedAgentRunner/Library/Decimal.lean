/-
This file develops decimal texts of a fixed width. A number below a power of
ten, padded with zeros to the exponent, is the list of its last digits; a reader
that takes exactly that many digits gives the number back with the rest of the
text, and trailing zeros cut off a text can be put back from its length alone.
-/

import Mathlib.Data.List.DropRight
import Mathlib.Data.Nat.Init
import Mathlib.Algebra.Order.Group.Nat

namespace Decimal

/-! ### Digits of a fixed width -/

/-- The last digits of a number, most significant first. -/
def fixedDigits : Nat → Nat → List Char
  | 0, _ => []
  | width + 1, number => fixedDigits width (number / 10) ++ [Nat.digitChar (number % 10)]

@[simp] theorem length_fixedDigits (width number : Nat) :
    (fixedDigits width number).length = width := by
  induction width generalizing number with
  | zero => rfl
  | succ width hypothesis =>
    rw [fixedDigits, List.length_append, hypothesis]
    rfl

theorem fixedDigits_zero (width : Nat) : fixedDigits width 0 = List.replicate width '0' := by
  induction width with
  | zero => rfl
  | succ width hypothesis =>
    rw [fixedDigits, Nat.zero_div, hypothesis, List.replicate_succ']
    rfl

variable {width number : Nat}

theorem replicate_append_toDigits (fits : number < 10 ^ (width + 1)) :
    List.replicate (width + 1 - (Nat.toDigits 10 number).length) '0' ++ Nat.toDigits 10 number =
      fixedDigits (width + 1) number := by
  induction width generalizing number with
  | zero =>
    have small : number < 10 := by simpa using fits
    rw [Nat.toDigits_of_lt_base small, fixedDigits, Nat.mod_eq_of_lt small]
    rfl
  | succ width hypothesis =>
    rw [fixedDigits]
    rcases Nat.lt_or_ge number 10 with small | large
    · rw [Nat.toDigits_of_lt_base small, Nat.mod_eq_of_lt small, Nat.div_eq_of_lt small,
        fixedDigits_zero]
      rfl
    · have shorter : number / 10 < 10 ^ (width + 1) := by
        rw [Nat.div_lt_iff_lt_mul (by decide)]
        exact fits
      rw [Nat.toDigits_of_base_le (by decide) large, ← hypothesis shorter,
        ← List.append_assoc, List.length_append]
      congr 3
      exact Nat.add_sub_add_right _ _ _

theorem isDigit_of_mem_fixedDigits {digit : Char} (member : digit ∈ fixedDigits width number) :
    digit.isDigit = true := by
  induction width generalizing number with
  | zero => exact absurd member List.not_mem_nil
  | succ width hypothesis =>
    rcases List.mem_append.mp member with member | member
    · exact hypothesis member
    · rw [List.mem_singleton.mp member]
      rw [Nat.isDigit_digitChar]
      exact decide_eq_true (Nat.mod_lt _ (by decide))

theorem ofDigitChars_zeros (count start : Nat) :
    Nat.ofDigitChars 10 (List.replicate count '0') start = start * 10 ^ count := by
  induction count generalizing start with
  | zero => simp
  | succ count hypothesis =>
    have zero : '0'.toNat - '0'.toNat = 0 := rfl
    rw [List.replicate_succ, Nat.ofDigitChars_cons, hypothesis, zero, Nat.add_zero,
      Nat.pow_succ, Nat.mul_comm 10 start, Nat.mul_assoc, Nat.mul_comm 10]

theorem ofDigitChars_fixedDigits (fits : number < 10 ^ width) :
    Nat.ofDigitChars 10 (fixedDigits width number) 0 = number := by
  induction width generalizing number with
  | zero =>
    rw [pow_zero, Nat.lt_one_iff] at fits
    rw [fits]
    rfl
  | succ width hypothesis =>
    have shorter : number / 10 < 10 ^ width := by
      rw [Nat.div_lt_iff_lt_mul (by decide), ← pow_succ]
      exact fits
    have digit : (Nat.digitChar (number % 10)).toNat = 48 + number % 10 :=
      Nat.toNat_digitChar_of_lt_ten (Nat.mod_lt _ (by decide))
    rw [fixedDigits, Nat.ofDigitChars_append, hypothesis shorter, Nat.ofDigitChars_cons,
      Nat.ofDigitChars_nil, digit]
    show 10 * (number / 10) + (48 + number % 10 - 48) = number
    omega

/-! ### Readers -/

/-- Read a number of exactly the given width. -/
def readFixed (width : Nat) (text : List Char) : Option (Nat × List Char) :=
  let digits := text.take width
  if digits.length = width ∧ digits.all Char.isDigit then
    some (Nat.ofDigitChars 10 digits 0, text.drop width)
  else none

theorem readFixed_fixedDigits (fits : number < 10 ^ width) (rest : List Char) :
    readFixed width (fixedDigits width number ++ rest) = some (number, rest) := by
  have taken : (fixedDigits width number ++ rest).take width = fixedDigits width number :=
    List.take_left' (length_fixedDigits width number)
  have dropped : (fixedDigits width number ++ rest).drop width = rest :=
    List.drop_left' (length_fixedDigits width number)
  have digits : (fixedDigits width number).all Char.isDigit = true :=
    List.all_eq_true.mpr fun _ => isDigit_of_mem_fixedDigits
  simp only [readFixed, taken, dropped, length_fixedDigits, digits, and_self, if_true,
    ofDigitChars_fixedDigits fits]

/-- Read one given character. -/
def expect (character : Char) : List Char → Option (List Char)
  | [] => none
  | first :: rest => if first = character then some rest else none

@[simp] theorem expect_cons (character : Char) (rest : List Char) :
    expect character (character :: rest) = some rest := if_pos rfl

/-! ### Trailing zeros -/

/-- A text without its trailing zeros. -/
def trimZeros (digits : List Char) : List Char := digits.rdropWhile (· = '0')

theorem trimZeros_eq_reverse (digits : List Char) :
    trimZeros digits = (digits.reverse.dropWhile (· = '0')).reverse := rfl

theorem mem_of_mem_trimZeros {digits : List Char} {digit : Char}
    (member : digit ∈ trimZeros digits) : digit ∈ digits :=
  (List.rdropWhile_prefix _ _).subset member

theorem exists_trimZeros_append (digits : List Char) :
    ∃ count, digits = trimZeros digits ++ List.replicate count '0' := by
  induction digits using List.reverseRecOn with
  | nil => exact ⟨0, rfl⟩
  | append_singleton digits last hypothesis =>
    unfold trimZeros
    by_cases zero : last = '0'
    · obtain ⟨count, split⟩ := hypothesis
      rw [List.rdropWhile_concat_pos (· = '0') digits last (decide_eq_true zero)]
      refine ⟨count + 1, ?_⟩
      rw [List.replicate_succ', ← List.append_assoc, zero]
      exact congrArg (· ++ ['0']) split
    · rw [List.rdropWhile_concat_neg (· = '0') digits last (by simpa using zero)]
      exact ⟨0, (List.append_nil _).symm⟩

theorem take_trimZeros_append (digits : List Char) :
    (trimZeros digits ++ List.replicate digits.length '0').take digits.length = digits := by
  obtain ⟨count, split⟩ := exists_trimZeros_append digits
  have long : count ≤ digits.length := by
    rw [split, List.length_append, List.length_replicate]
    exact Nat.le_add_left _ _
  have longer : trimZeros digits ++ List.replicate digits.length '0' =
      digits ++ List.replicate (digits.length - count) '0' := by
    calc trimZeros digits ++ List.replicate digits.length '0'
        = trimZeros digits ++
            (List.replicate count '0' ++ List.replicate (digits.length - count) '0') := by
          rw [List.replicate_append_replicate, Nat.add_sub_cancel' long]
      _ = digits ++ List.replicate (digits.length - count) '0' := by
          rw [← List.append_assoc, ← split]
  rw [longer]
  exact List.take_left

theorem trimZeros_fixedDigits_ne_nil (fits : number < 10 ^ width) (nonzero : number ≠ 0) :
    trimZeros (fixedDigits width number) ≠ [] := by
  intro empty
  have restored := take_trimZeros_append (fixedDigits width number)
  rw [empty, List.nil_append, length_fixedDigits, List.take_replicate, min_self,
    ← fixedDigits_zero] at restored
  have zero : number = 0 := by
    rw [← ofDigitChars_fixedDigits fits, ← restored,
      ofDigitChars_fixedDigits (Nat.pow_pos (by decide))]
  exact nonzero zero

end Decimal
