import Mathlib.Algebra.Ring.Int.Defs
import Mathlib.Data.Int.Order.Basic
import Mathlib.Data.List.Basic

/-! # Signed machine integers

The integers of 32 bits with their two bounds as fields, and the operations on them whose result may
not be one: the saturating sum stops at a bound, the checked difference has no result beyond one, and so has
a text that is read as a number.
-/

namespace Foundations

structure I32 where
  value : Int
  lower : -2147483648 ≤ value
  upper : value ≤ 2147483647
  deriving DecidableEq, Repr

namespace I32

def maximum : Int := 2147483647

def minimum : Int := -2147483648

def saturatingAdd (left right : I32) : Int := max minimum (min maximum (left.value + right.value))

/-- `none` is an overflow. -/
def checkedSub (left right : Int) : Option Int :=
  if minimum ≤ left - right ∧ left - right ≤ maximum then some (left - right) else none

theorem checkedSub_eq_some {left right difference : Int} :
    checkedSub left right = some difference ↔
      difference = left - right ∧ minimum ≤ difference ∧ difference ≤ maximum := by
  simp only [checkedSub, Option.ite_none_right_eq_some, Option.some.injEq]
  constructor
  · intro ⟨fits, isDifference⟩
    subst isDifference
    exact ⟨rfl, fits⟩
  · intro ⟨isDifference, fits⟩
    subst isDifference
    exact ⟨fits, rfl⟩

theorem saturatingAdd_of_nonneg {left right : I32} (nonneg : 0 ≤ right.value) :
    left.saturatingAdd right = min maximum (left.value + right.value) := by
  have lower := left.lower
  simp only [saturatingAdd, minimum, maximum]
  omega

end I32

/-- A signed number of 32 bits in decimal digits. -/
def parseI32 (text : String) : Option Int :=
  let magnitude (digits : List Char) : Option Nat :=
    if digits ≠ [] ∧ digits.all Char.isDigit then
      some (digits.foldl (fun value digit => value * 10 + (digit.toNat - '0'.toNat)) 0)
    else none
  let value : Option Int :=
    match text.toList with
    | '-' :: digits => (magnitude digits).map fun value => -(value : Int)
    | '+' :: digits => (magnitude digits).map Int.ofNat
    | digits => (magnitude digits).map Int.ofNat
  value.filter fun value => I32.minimum ≤ value && value ≤ I32.maximum

/-- A number that fits is read back from its own digits. -/
theorem parseI32_toString {value : Nat} (fits : (value : Int) ≤ I32.maximum) :
    parseI32 (toString value) = some (value : Int) := by
  have isText : (toString value).toList = Nat.toDigits 10 value := Nat.toList_repr
  have decimal : (Nat.toDigits 10 value).all Char.isDigit = true :=
    List.all_eq_true.mpr fun _ member => Nat.isDigit_of_mem_toDigits (by decide) (by decide) member
  have reads : (Nat.toDigits 10 value).foldl (fun value digit => value * 10 + (digit.toNat - '0'.toNat)) 0 = value := by
    have read := @Nat.ofDigitChars_ten_toDigits value
    simpa only [Nat.ofDigitChars_eq_foldl, Nat.mul_comm 10] using read
  have bounded : I32.minimum ≤ (value : Int) := by
    rw [I32.minimum]
    omega
  simp only [parseI32, isText]
  have digits : Nat.toDigits 10 value ≠ [] := Nat.toDigits_ne_nil
  generalize Nat.toDigits 10 value = text at decimal reads digits
  split
  next =>
    simp [Char.isDigit] at decimal
  next => simp [Char.isDigit] at decimal
  next =>
    rw [if_pos ⟨digits, decimal⟩, reads]
    simp [Option.filter, bounded, fits]

end Foundations
