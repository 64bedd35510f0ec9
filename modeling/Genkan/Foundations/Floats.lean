import Mathlib

/-! # The order of the floats

Floats are compared as their standard says: what is not a number compares with nothing, and the two zeros are
equal.  Every other float has a rank in a linear order, so comparing is transitive, and between numbers it is
total.
-/

namespace Foundations.Floats

open Float.Model (Format UnpackedFloat)
open Float.Model.UnpackedFloat

/-! ## Ranks -/

/-- The kind of a float, its exponent and its mantissa. -/
abbrev Rank := Int ×ₗ Int ×ₗ Int

def Rank.of (kind exponent mantissa : Int) : Rank := toLex (kind, toLex (exponent, mantissa))

def unpackedRank : UnpackedFloat → Option Rank
  | .notANumber => none
  | .infinity .negative => some (.of (-2) 0 0)
  | .finite .negative mantissa exponent _ => some (.of (-1) (-exponent) (-mantissa))
  | .zero _ => some (.of 0 0 0)
  | .finite .positive mantissa exponent _ => some (.of 1 exponent mantissa)
  | .infinity .positive => some (.of 2 0 0)

theorem Rank.compare_of (kind exponent mantissa kind' exponent' mantissa' : Int) :
    compare (Rank.of kind exponent mantissa) (.of kind' exponent' mantissa') =
      (compare kind kind').then ((compare exponent exponent').then (compare mantissa mantissa')) := by
  simp [Rank.of, Prod.Lex.compare_def, compareLex, compareOn]

theorem compare_neg (left right : Int) : compare (-left) (-right) = (compare left right).swap := by
  rw [Int.compare_swap, Int.compare_eq_ite_lt, Int.compare_eq_ite_lt right]
  simp only [Int.neg_lt_neg_iff]

theorem compare_cast (left right : Nat) : compare (left : Int) right = compare left right := by
  simp only [Int.compare_eq_ite_lt, Nat.compare_eq_ite_lt, Int.ofNat_lt]

theorem compare_eq (left right : UnpackedFloat) :
    left.compare right = (unpackedRank left).bind fun before => (unpackedRank right).map (compare before) := by
  cases left with
  | notANumber => rfl
  | infinity sign | zero sign | finite sign =>
    cases right with
    | notANumber => cases sign <;> rfl
    | infinity sign' | zero sign' | finite sign' =>
      cases sign <;> cases sign' <;> first
        | rfl
        | simp [UnpackedFloat.compare, unpackedRank, Rank.compare_of, compare_neg, compare_cast, Ordering.swap_then]

/-! ## Comparisons -/

def rank (float : Float32) : Option Rank := unpackedRank float.toModel.unpack

theorem isNaN_iff {float : Float32} : float.isNaN = true ↔ rank float = none := by
  change float.toModel.unpack.isNaN = true ↔ unpackedRank float.toModel.unpack = none
  cases float.toModel.unpack with
  | notANumber => exact ⟨fun _ => rfl, fun _ => rfl⟩
  | zero sign => simp [UnpackedFloat.isNaN, unpackedRank]
  | infinity sign | finite sign => cases sign <;> simp [UnpackedFloat.isNaN, unpackedRank]

theorem exists_rank {float : Float32} (number : float.isNaN = false) : ∃ place, rank float = some place := by
  apply Option.ne_none_iff_exists'.mp
  intro unranked
  rw [isNaN_iff.mpr unranked] at number
  contradiction

theorem isNaN_of_rank {float : Float32} {place : Rank} (isPlace : rank float = some place) : float.isNaN = false := by
  by_contra unranked
  rw [isNaN_iff.mp (Bool.eq_true_of_not_eq_false unranked)] at isPlace
  contradiction

theorem le_iff {left right : Float32} :
    left ≤ right ↔ ∃ before after, rank left = some before ∧ rank right = some after ∧ before ≤ after := by
  change decide (left.toModel.unpack.le right.toModel.unpack = true) = true ↔ _
  rw [decide_eq_true_iff, UnpackedFloat.le, compare_eq]
  change ((rank left).bind fun before => (rank right).map (compare before)).any (·.isLE) = true ↔ _
  cases rank left with
  | none => simp
  | some before =>
    cases rank right with
    | none => simp
    | some after => simp [Ordering.isLE_iff_ne_gt, compare_le_iff_le]

theorem lt_iff {left right : Float32} :
    left < right ↔ ∃ before after, rank left = some before ∧ rank right = some after ∧ before < after := by
  change decide (left.toModel.unpack.lt right.toModel.unpack = true) = true ↔ _
  rw [decide_eq_true_iff, UnpackedFloat.lt, compare_eq]
  change (((rank left).bind fun before => (rank right).map (compare before)) == some .lt) = true ↔ _
  cases rank left with
  | none => simp
  | some before =>
    cases rank right with
    | none => simp
    | some after => simp [compare_lt_iff_lt]

variable {left middle right : Float32}

theorem numbers_of_le (order : left ≤ right) : left.isNaN = false ∧ right.isNaN = false := by
  obtain ⟨before, after, isBefore, isAfter, _⟩ := le_iff.mp order
  exact ⟨isNaN_of_rank isBefore, isNaN_of_rank isAfter⟩

theorem numbers_of_lt (order : left < right) : left.isNaN = false ∧ right.isNaN = false := by
  obtain ⟨before, after, isBefore, isAfter, _⟩ := lt_iff.mp order
  exact ⟨isNaN_of_rank isBefore, isNaN_of_rank isAfter⟩

protected theorem le_trans (first : left ≤ middle) (second : middle ≤ right) : left ≤ right := by
  obtain ⟨before, between, isBefore, isBetween, low⟩ := le_iff.mp first
  obtain ⟨between', after, isBetween', isAfter, high⟩ := le_iff.mp second
  cases isBetween.symm.trans isBetween'
  exact le_iff.mpr ⟨before, after, isBefore, isAfter, le_trans low high⟩

/-- Between numbers, what is not above is below. -/
theorem not_le_iff_lt (isLeft : left.isNaN = false) (isRight : right.isNaN = false) :
    ¬ left ≤ right ↔ right < left := by
  obtain ⟨before, isBefore⟩ := exists_rank isLeft
  obtain ⟨after, isAfter⟩ := exists_rank isRight
  simp [le_iff, lt_iff, isBefore, isAfter]

theorem not_lt_iff_le (isLeft : left.isNaN = false) (isRight : right.isNaN = false) :
    ¬ right < left ↔ left ≤ right := by
  rw [← not_le_iff_lt isLeft isRight, not_not]

theorem not_le_of_isNaN (unranked : right.isNaN = true) : ¬ left ≤ right := by
  intro order
  rw [(numbers_of_le order).2] at unranked
  contradiction

theorem not_lt_of_isNaN (unranked : left.isNaN = true) : ¬ left < right := by
  intro order
  rw [(numbers_of_lt order).1] at unranked
  contradiction

/-! ## Floats that are numbers -/

theorem of_unpack_notANumber {format : Format} {bits : BitVec format.numBits}
    (unranked : unpack format bits = .notANumber) :
    unpackExponent bits = (-1#_) ∧ unpackMantissa bits ≠ 0#_ := by
  simp only [unpack] at unranked
  split at unranked
  next full =>
    split at unranked
    next => contradiction
    next marked => exact ⟨full, marked⟩
  next =>
    split at unranked
    next => split at unranked <;> contradiction
    next => contradiction

theorem unpack_pack_number {format : Format} {float : UnpackedFloat} (number : float ≠ .notANumber) :
    unpack format (pack format float) ≠ .notANumber := by
  intro unranked
  obtain ⟨full, marked⟩ := of_unpack_notANumber unranked
  revert full marked
  fun_cases pack with
  | case1 => contradiction
  | case2 sign => simp [packedInfinity]
  | case3 sign => simp [packedZero]
  | case4 sign mantissa exponent positive biased => simp [packedInfinity]
  | case5 sign mantissa exponent positive bits biased bounded =>
    intro full
    have small : biased + 1 < 2 ^ format.exponentBits := by omega
    rw [unpackExponent_packComponents, BitVec.neg_one_eq_allOnes, ← BitVec.toNat_inj] at full
    rw [BitVec.toNat_ofNat, BitVec.toNat_allOnes, Nat.mod_eq_of_lt (by omega)] at full
    omega
  | case6 sign mantissa exponent positive bits biased bounded =>
    intro full
    have positive := format.he
    simp [Nat.pos_iff_ne_zero.mp positive] at full

theorem normalize_number (format : Format) (mantissa exponent : Int) (sign : Sign) :
    UnpackedFloat.normalize format mantissa exponent sign ≠ .notANumber := by
  simp only [UnpackedFloat.normalize, UnpackedFloat.round, roundWithAccuracy]
  split
  next => split <;> simp
  next => simp
  next => split <;> simp

/-- What an unsigned integer is converted to is a number. -/
theorem toFloat32_isNaN (value : UInt32) : value.toFloat32.isNaN = false := by
  have number : unpack .binary32 (pack .binary32 (ofUInt32 .binary32 value)) ≠ .notANumber :=
    unpack_pack_number (normalize_number .binary32 value.toNat 0 .positive)
  change (unpack .binary32 (pack .binary32 (ofUInt32 .binary32 value))).isNaN = false
  exact Bool.eq_false_iff.mpr (mt Float.Model.UnpackedFloat.isNaN_iff.mp number)

/-- The larger of two floats, or the one of them that is a number. -/
def maxNum (left right : Float32) : Float32 := if left.isNaN then right else if left < right then right else left

theorem maxNum_isNaN (number : left.isNaN = false) : (maxNum left right).isNaN = false := by
  simp only [maxNum, number, Bool.false_eq_true, if_false]
  split
  next larger => exact (numbers_of_lt larger).2
  next => exact number

theorem foldl_maxNum_isNaN (floats : List Float32) (number : left.isNaN = false) :
    (floats.foldl maxNum left).isNaN = false := by
  induction floats generalizing left with
  | nil => exact number
  | cons first floats inductionHypothesis => exact inductionHypothesis (maxNum_isNaN number)

end Foundations.Floats
