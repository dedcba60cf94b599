/-
This file develops the integers as IEEE 754 double-precision numbers. An integer
is rounded to 53 significant bits, to nearest and to even in a tie; rounding
keeps every integer below 2 ^ 53 and is idempotent. The decimal that stands for
a rounded integer is the shortest one that rounds to it, so that it determines
the rounded integer. Last, the file says which 64-bit integers are rounded like
no other one.
-/

import Mathlib.Algebra.Order.Ring.Int
import Mathlib.Data.Nat.Log
import Mathlib.Tactic.Ring
import Mathlib.Tactic.Linarith

namespace Binary64

/-! ### Rounding -/

/-- The distance of neighbouring doubles at a magnitude of at least one. -/
def unit (magnitude : Nat) : Nat := 2 ^ (magnitude.log2 - 52)

/-- A tie or a remainder above the half is rounded up; a tie only from an odd quotient. -/
def RoundsUp (unit magnitude : Nat) : Prop :=
  unit < 2 * (magnitude % unit) ∨ unit = 2 * (magnitude % unit) ∧ magnitude / unit % 2 = 1
deriving Decidable

/-- The nearest multiple of a unit. -/
def nearest (unit magnitude : Nat) : Nat :=
  if RoundsUp unit magnitude then (magnitude / unit + 1) * unit else magnitude / unit * unit

def roundNat (magnitude : Nat) : Nat := nearest (unit magnitude) magnitude

/-- The double nearest to an integer. -/
def round (number : Int) : Int := number.sign * roundNat number.natAbs

variable {magnitude exponent : Nat} {quotient : Nat} {number : Int}

theorem unit_of_lt (small : magnitude < 2 ^ 53) : unit magnitude = 1 := by
  have low : magnitude.log2 ≤ 52 := by
    rcases Nat.eq_zero_or_pos magnitude with zero | positive
    · rw [zero]
      decide
    · have below := (Nat.log2_lt positive.ne').mpr small
      omega
  rw [unit, Nat.sub_eq_zero_of_le low, pow_zero]

theorem unit_of_bounds (low : 2 ^ 52 * 2 ^ exponent ≤ magnitude)
    (high : magnitude < 2 ^ 53 * 2 ^ exponent) : unit magnitude = 2 ^ exponent := by
  have positive : magnitude ≠ 0 := by
    have := Nat.pow_pos (n := exponent) (show 0 < 2 by decide)
    omega
  rw [← pow_add] at low high
  have least := (Nat.le_log2 positive).mpr low
  have most := (Nat.log2_lt positive).mpr high
  rw [unit]
  congr 1
  omega

theorem exists_bounds (large : 2 ^ 53 ≤ magnitude) :
    ∃ exponent, 1 ≤ exponent ∧ 2 ^ 52 * 2 ^ exponent ≤ magnitude ∧
      magnitude < 2 ^ 53 * 2 ^ exponent := by
  have positive : magnitude ≠ 0 := by omega
  have least := (Nat.le_log2 positive).mpr large
  refine ⟨magnitude.log2 - 52, by omega, ?_, ?_⟩
  · rw [← pow_add, Nat.add_sub_cancel' (by omega)]
    exact Nat.log2_self_le positive
  · rw [← pow_add, show 53 + (magnitude.log2 - 52) = magnitude.log2 + 1 by omega]
    exact Nat.lt_log2_self

theorem nearest_mul (unit quotient : Nat) (positive : 0 < unit) :
    nearest unit (quotient * unit) = quotient * unit := by
  have exact : ¬ RoundsUp unit (quotient * unit) := by
    unfold RoundsUp
    rw [Nat.mul_mod_left]
    omega
  rw [nearest, if_neg exact, Nat.mul_div_cancel _ positive]

theorem roundNat_of_lt (small : magnitude < 2 ^ 53) : roundNat magnitude = magnitude := by
  rw [roundNat, unit_of_lt small]
  have whole := nearest_mul 1 magnitude Nat.one_pos
  rwa [Nat.mul_one] at whole

theorem roundNat_mul_unit (low : 2 ^ 52 ≤ quotient) (high : quotient ≤ 2 ^ 53) :
    roundNat (quotient * 2 ^ exponent) = quotient * 2 ^ exponent := by
  have positive : 0 < 2 ^ exponent := Nat.pow_pos (by decide)
  rcases Nat.lt_or_eq_of_le high with below | carried
  · rw [roundNat, unit_of_bounds (Nat.mul_le_mul_right _ low)
      (Nat.mul_lt_mul_of_pos_right below positive)]
    exact nearest_mul _ _ positive
  · have next : quotient * 2 ^ exponent = 2 ^ 52 * 2 ^ (exponent + 1) := by
      rw [carried]
      ring
    rw [next, roundNat, unit_of_bounds le_rfl
      (Nat.mul_lt_mul_of_pos_right (by decide) (Nat.pow_pos (by decide)))]
    exact nearest_mul _ _ (Nat.pow_pos (by decide))

/-- A magnitude with an exponent is rounded to a multiple of the unit with at most 53 bits. -/
theorem exists_roundNat (low : 2 ^ 52 * 2 ^ exponent ≤ magnitude)
    (high : magnitude < 2 ^ 53 * 2 ^ exponent) :
    ∃ quotient, 2 ^ 52 ≤ quotient ∧ quotient ≤ 2 ^ 53 ∧
      roundNat magnitude = quotient * 2 ^ exponent := by
  have positive : 0 < 2 ^ exponent := Nat.pow_pos (by decide)
  have least : 2 ^ 52 ≤ magnitude / 2 ^ exponent := (Nat.le_div_iff_mul_le positive).mpr low
  have most : magnitude / 2 ^ exponent < 2 ^ 53 := (Nat.div_lt_iff_lt_mul positive).mpr high
  rw [roundNat, unit_of_bounds low high]
  unfold nearest
  by_cases up : RoundsUp (2 ^ exponent) magnitude
  · exact ⟨magnitude / 2 ^ exponent + 1, by omega, by omega, if_pos up⟩
  · exact ⟨magnitude / 2 ^ exponent, by omega, by omega, if_neg up⟩

theorem roundNat_roundNat (magnitude : Nat) :
    roundNat (roundNat magnitude) = roundNat magnitude := by
  rcases Nat.lt_or_ge magnitude (2 ^ 53) with small | large
  · rw [roundNat_of_lt small, roundNat_of_lt small]
  · obtain ⟨exponent, -, low, high⟩ := exists_bounds large
    obtain ⟨quotient, least, most, rounded⟩ := exists_roundNat low high
    rw [rounded, roundNat_mul_unit least most]

theorem roundNat_pos (positive : 0 < magnitude) : 0 < roundNat magnitude := by
  rcases Nat.lt_or_ge magnitude (2 ^ 53) with small | large
  · rwa [roundNat_of_lt small]
  · obtain ⟨exponent, -, low, high⟩ := exists_bounds large
    obtain ⟨quotient, least, most, rounded⟩ := exists_roundNat low high
    rw [rounded]
    exact Nat.mul_pos (by omega) (Nat.pow_pos (by decide))

theorem natAbs_round (number : Int) : (round number).natAbs = roundNat number.natAbs := by
  unfold round
  rcases lt_trichotomy number 0 with negative | zero | positive
  · rw [Int.sign_eq_neg_one_of_neg negative, Int.natAbs_mul, Int.natAbs_natCast]
    exact Nat.one_mul _
  · rw [zero]
    decide
  · rw [Int.sign_eq_one_of_pos positive, Int.natAbs_mul, Int.natAbs_natCast]
    exact Nat.one_mul _

theorem sign_round (number : Int) : (round number).sign = number.sign := by
  rcases eq_or_ne number 0 with zero | nonzero
  · rw [zero]
    decide
  · have positive : (0 : Int) < roundNat number.natAbs :=
      Int.natCast_pos.mpr (roundNat_pos (Int.natAbs_pos.mpr nonzero))
    rw [round, Int.sign_mul, Int.sign_sign, Int.sign_eq_one_of_pos positive, mul_one]

theorem round_eq_iff {first second : Int} :
    round first = round second ↔
      first.sign = second.sign ∧ roundNat first.natAbs = roundNat second.natAbs := by
  constructor
  · intro same
    rw [← sign_round first, ← sign_round second, ← natAbs_round, ← natAbs_round, same]
    exact ⟨rfl, rfl⟩
  · rintro ⟨sign, magnitude⟩
    rw [round, round, sign, magnitude]

theorem round_sign_mul (positive : 0 < magnitude) :
    round (number.sign * magnitude) = number.sign * roundNat magnitude := by
  rcases eq_or_ne number 0 with zero | nonzero
  · rw [zero]
    simp [round]
  · have large : (0 : Int) < magnitude := Int.natCast_pos.mpr positive
    rw [round, Int.sign_mul, Int.sign_sign, Int.sign_eq_one_of_pos large, mul_one, Int.natAbs_mul,
      Int.natAbs_natCast, Int.natAbs_sign_of_ne_zero nonzero, one_mul]

/-! ### Decimals -/

/-- The two multiples of a power of ten around a magnitude, the nearer one first. -/
def candidates (magnitude exponent : Nat) : List Nat :=
  let below := magnitude / 10 ^ exponent * 10 ^ exponent
  let above := below + 10 ^ exponent
  if 2 * (magnitude - below) ≤ 10 ^ exponent then [below, above] else [above, below]

/-- The decimal with the fewest significant digits that is rounded to a magnitude, among the
magnitudes with at most 21 digits. -/
def shortestNat (magnitude : Nat) : Nat :=
  (((List.range 22).reverse.flatMap (candidates magnitude)).find?
    fun candidate => roundNat candidate = magnitude).getD magnitude

/-- The integer whose decimal digits stand for the double nearest to an integer. -/
def decimal (number : Int) : Int := number.sign * shortestNat (roundNat number.natAbs)

example : decimal 9223372036854775807 = 9223372036854776000 := by decide +kernel

theorem roundNat_shortestNat (rounded : roundNat magnitude = magnitude) :
    roundNat (shortestNat magnitude) = magnitude := by
  unfold shortestNat
  cases found : ((List.range 22).reverse.flatMap (candidates magnitude)).find?
      fun candidate => roundNat candidate = magnitude with
  | none => exact rounded
  | some candidate =>
    have same := List.find?_some found
    exact of_decide_eq_true same

theorem round_decimal (number : Int) : round (decimal number) = round number := by
  rcases eq_or_ne number 0 with zero | nonzero
  · rw [zero]
    simp [decimal, round]
  · have back := roundNat_shortestNat (roundNat_roundNat number.natAbs)
    have positive : 0 < shortestNat (roundNat number.natAbs) := by
      rw [Nat.pos_iff_ne_zero]
      intro zero
      rw [zero] at back
      have some := roundNat_pos (Int.natAbs_pos.mpr nonzero)
      rw [← back] at some
      exact absurd some (by decide)
    rw [decimal, round_sign_mul positive, back, round]

theorem decimal_eq_iff {first second : Int} :
    decimal first = decimal second ↔ round first = round second := by
  constructor
  · intro same
    rw [← round_decimal first, ← round_decimal second, same]
  · intro same
    obtain ⟨sign, magnitude⟩ := round_eq_iff.mp same
    rw [decimal, decimal, sign, magnitude]

/-! ### Integers that share their double with no other 64-bit integer -/

/-- The magnitude has at most 53 bits, or it has 54 and lies between two ties that are rounded
away from it. -/
def PinnedNat (magnitude : Nat) : Prop :=
  magnitude < 2 ^ 53 ∨ magnitude < 2 ^ 54 ∧ magnitude % 4 = 2
deriving Decidable

def Pinned (number : Int) : Prop := PinnedNat number.natAbs
deriving Decidable

theorem le_roundNat (low : 2 ^ 52 * 2 ^ exponent ≤ magnitude) :
    2 ^ 52 * 2 ^ exponent ≤ roundNat magnitude := by
  rcases Nat.lt_or_ge magnitude (2 ^ 53) with small | large
  · rwa [roundNat_of_lt small]
  · obtain ⟨own, -, least, most⟩ := exists_bounds large
    obtain ⟨quotient, enough, -, rounded⟩ := exists_roundNat least most
    have order : 2 ^ exponent ≤ 2 ^ own := by
      refine Nat.pow_le_pow_right (by decide) ?_
      by_contra later
      have far : 2 ^ (own + 1) ≤ 2 ^ exponent := Nat.pow_le_pow_right (by decide) (by omega)
      rw [pow_succ] at far
      omega
    rw [rounded]
    exact Nat.mul_le_mul enough order

/-- The magnitudes with 54 bits: an odd one is a tie. -/
theorem roundNat_of_lt_double (low : 2 ^ 53 ≤ magnitude) (high : magnitude < 2 ^ 54) :
    roundNat magnitude = if magnitude % 4 = 3 then magnitude + 1 else magnitude / 2 * 2 := by
  have bounded : unit magnitude = 2 ^ 1 := unit_of_bounds (by omega) (by omega)
  have tie : RoundsUp (2 ^ 1) magnitude ↔ magnitude % 4 = 3 := by
    unfold RoundsUp
    omega
  rw [roundNat, bounded, nearest]
  by_cases up : magnitude % 4 = 3
  · rw [if_pos up, if_pos (tie.mpr up)]
    omega
  · rw [if_neg up, if_neg (up ∘ tie.mp)]
    omega

theorem eq_of_roundNat_eq {other : Nat} (pinned : PinnedNat magnitude)
    (same : roundNat other = roundNat magnitude) : other = magnitude := by
  have kept : roundNat magnitude = magnitude ∧ magnitude < 2 ^ 54 := by
    rcases Nat.lt_or_ge magnitude (2 ^ 53) with small | large
    · exact ⟨roundNat_of_lt small, by omega⟩
    · obtain ⟨below, quarter⟩ := pinned.resolve_left (Nat.not_lt.mpr large)
      refine ⟨?_, below⟩
      rw [roundNat_of_lt_double large below, if_neg (by omega)]
      omega
  rw [kept.1] at same
  rcases Nat.lt_or_ge other (2 ^ 53) with small | large
  · rwa [roundNat_of_lt small] at same
  · rcases Nat.lt_or_ge other (2 ^ 54) with below | above
    · rw [roundNat_of_lt_double large below] at same
      rcases pinned with small | ⟨-, quarter⟩
      · split_ifs at same <;> omega
      · split_ifs at same <;> omega
    · have far : 2 ^ 52 * 2 ^ 2 ≤ roundNat other := le_roundNat (by omega)
      omega

/-- The successor of an even quotient of a unit, or of any quotient of a larger unit, is rounded
down to it. -/
theorem roundNat_succ (positive : 1 ≤ exponent) (low : 2 ^ 52 ≤ quotient)
    (high : quotient < 2 ^ 53) (down : exponent = 1 → quotient % 2 = 0) :
    roundNat (quotient * 2 ^ exponent + 1) = quotient * 2 ^ exponent := by
  have even : 2 ≤ 2 ^ exponent := Nat.le_pow positive
  have least : 2 ^ 52 * 2 ^ exponent ≤ quotient * 2 ^ exponent := Nat.mul_le_mul_right _ low
  have most : (quotient + 1) * 2 ^ exponent ≤ 2 ^ 53 * 2 ^ exponent :=
    Nat.mul_le_mul_right _ high
  rw [Nat.add_mul, Nat.one_mul] at most
  have remainder : (quotient * 2 ^ exponent + 1) % 2 ^ exponent = 1 := by
    rw [Nat.mul_add_mod_self_right, Nat.mod_eq_of_lt (by omega)]
  have whole : (quotient * 2 ^ exponent + 1) / 2 ^ exponent = quotient := by
    rw [Nat.mul_comm, Nat.mul_add_div (by omega), Nat.div_eq_of_lt (by omega), Nat.add_zero]
  have stays : ¬ RoundsUp (2 ^ exponent) (quotient * 2 ^ exponent + 1) := by
    unfold RoundsUp
    rw [remainder, whole]
    rintro (above | ⟨tie, odd⟩)
    · omega
    · have single : exponent = 1 := Nat.pow_right_injective le_rfl (tie.trans (pow_one 2).symm)
      omega
  have bounded : unit (quotient * 2 ^ exponent + 1) = 2 ^ exponent :=
    unit_of_bounds (by omega) (by omega)
  rw [roundNat, bounded, nearest, if_neg stays, whole]

theorem exists_roundNat_eq (free : ¬ PinnedNat magnitude) (range : magnitude ≤ 2 ^ 63) :
    ∃ other, other ≠ magnitude ∧ 0 < other ∧ other < 2 ^ 63 ∧
      roundNat other = roundNat magnitude := by
  have large : 2 ^ 53 ≤ magnitude := by
    by_contra small
    exact free (Or.inl (by omega))
  obtain ⟨exponent, positive, low, high⟩ := exists_bounds large
  obtain ⟨quotient, least, most, rounded⟩ := exists_roundNat low high
  by_cases kept : roundNat magnitude = magnitude
  · rcases Nat.lt_or_eq_of_le range with below | last
    · have even : 2 ≤ 2 ^ exponent := Nat.le_pow positive
      have whole : quotient * 2 ^ exponent = magnitude := rounded.symm.trans kept
      have inside : quotient < 2 ^ 53 := Nat.lt_of_mul_lt_mul_right (whole.trans_lt high)
      have next := roundNat_succ positive least inside (by
        intro single
        rw [single] at whole high
        unfold PinnedNat at free
        omega)
      rw [whole] at next
      have parity : 2 ∣ magnitude := by
        rw [← whole]
        exact Dvd.dvd.mul_left (dvd_pow_self 2 (by omega)) quotient
      exact ⟨magnitude + 1, by omega, by omega, by omega, next.trans kept.symm⟩
    · rw [last]
      exact ⟨2 ^ 63 - 1, by decide +kernel⟩
  · rcases Nat.lt_or_ge (roundNat magnitude) (2 ^ 63) with below | above
    · exact ⟨roundNat magnitude, kept, roundNat_pos (by omega), below, roundNat_roundNat magnitude⟩
    · have inside : magnitude < 2 ^ 63 := by
        refine Nat.lt_of_le_of_ne range fun last => kept ?_
        rw [last]
        decide +kernel
      have small : exponent ≤ 10 := by
        have order : 2 ^ (52 + exponent) < 2 ^ 63 := by
          rw [pow_add]
          omega
        have := (Nat.pow_lt_pow_iff_right (by decide)).mp order
        omega
      have top : roundNat magnitude = 2 ^ 63 := by
        have highest : quotient * 2 ^ exponent ≤ 2 ^ 53 * 2 ^ 10 :=
          Nat.mul_le_mul most (Nat.pow_le_pow_right (by decide) small)
        omega
      rw [top]
      by_cases last : magnitude = 2 ^ 63 - 1
      · exact ⟨2 ^ 63 - 2, by omega, by omega, by omega, by decide +kernel⟩
      · exact ⟨2 ^ 63 - 1, Ne.symm last, by omega, by omega, by decide +kernel⟩

theorem pinned_iff (low : -2 ^ 63 ≤ number) (high : number < 2 ^ 63) :
    Pinned number ↔ ∀ other : Int, -2 ^ 63 ≤ other → other < 2 ^ 63 →
      round other = round number → other = number := by
  constructor
  · intro pinned other _ _ same
    obtain ⟨sign, magnitude⟩ := round_eq_iff.mp same
    have equal := eq_of_roundNat_eq pinned magnitude
    rw [← Int.sign_mul_natAbs other, ← Int.sign_mul_natAbs number, sign, equal]
  · intro alone
    by_contra free
    obtain ⟨other, different, positive, range, same⟩ := exists_roundNat_eq free (by omega)
    have nonzero : number ≠ 0 := by
      rintro rfl
      exact free (by decide)
    have magnitude : (number.sign * other).natAbs = other := by
      rw [Int.natAbs_mul, Int.natAbs_sign_of_ne_zero nonzero, Int.natAbs_natCast, Nat.one_mul]
    have alike : round (number.sign * other) = round number := by
      rw [round_sign_mul positive, same, round]
    have equal := alone (number.sign * other) (by omega) (by omega) alike
    rw [equal] at magnitude
    exact different magnitude.symm

end Binary64
