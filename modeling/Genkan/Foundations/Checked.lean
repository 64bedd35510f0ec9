import Mathlib.Algebra.Ring.Nat

/-! # Machine arithmetic that can panic

The operations on unsigned integers of a given width, with `none` for an overflow, an underflow or a
division by zero.  Each has one rule: under its side condition it is the operation on numbers.  A loop of
such operations is the loop of the plain ones, where an invariant gives every side condition.
-/

namespace Foundations.Checked

def fit (bits value : Nat) : Option Nat := if value < 2 ^ bits then some value else none

def add (bits left right : Nat) : Option Nat := fit bits (left + right)

def mul (bits left right : Nat) : Option Nat := fit bits (left * right)

def sub (left right : Nat) : Option Nat := if right ≤ left then some (left - right) else none

def div (left right : Nat) : Option Nat := if right = 0 then none else some (left / right)

def rem (left right : Nat) : Option Nat := if right = 0 then none else some (left % right)

variable {bits left right : Nat}

theorem fit_eq {value : Nat} (fits : value < 2 ^ bits) : fit bits value = some value := if_pos fits

theorem add_eq (fits : left + right < 2 ^ bits) : add bits left right = some (left + right) := fit_eq fits

theorem mul_eq (fits : left * right < 2 ^ bits) : mul bits left right = some (left * right) := fit_eq fits

theorem sub_eq (covers : right ≤ left) : sub left right = some (left - right) := if_pos covers

theorem div_eq (positive : 0 < right) : div left right = some (left / right) :=
  if_neg (Nat.ne_of_gt positive)

theorem rem_eq (positive : 0 < right) : rem left right = some (left % right) :=
  if_neg (Nat.ne_of_gt positive)

theorem mul_lt {leftBits rightBits : Nat} (leftBound : left < 2 ^ leftBits)
    (rightBound : right < 2 ^ rightBits) (fits : leftBits + rightBits ≤ bits) : left * right < 2 ^ bits :=
  calc left * right < 2 ^ leftBits * 2 ^ rightBits := Nat.mul_lt_mul'' leftBound rightBound
    _ = 2 ^ (leftBits + rightBits) := (Nat.pow_add 2 leftBits rightBits).symm
    _ ≤ 2 ^ bits := Nat.pow_le_pow_right (by decide) fits

/-- Factors of so many bits have a product of the sum of the bits. -/
theorem mul_eq_of_bits {leftBits rightBits : Nat} (leftBound : left < 2 ^ leftBits)
    (rightBound : right < 2 ^ rightBits) (fits : leftBits + rightBits ≤ bits) :
    mul bits left right = some (left * right) :=
  mul_eq (mul_lt leftBound rightBound fits)

/-! ## Loops -/

universe u v

variable {α : Type u} {β : Type v}

/-- A loop whose steps do not panic under an invariant does not panic and keeps the invariant. -/
theorem foldlM_eq {checked : α → β → Option α} {plain : α → β → α} (invariant : α → Prop) {list : List β}
    (step : ∀ state, ∀ value ∈ list, invariant state →
      checked state value = some (plain state value) ∧ invariant (plain state value))
    {start : α} (holds : invariant start) :
    list.foldlM checked start = some (list.foldl plain start) ∧ invariant (list.foldl plain start) := by
  induction list generalizing start with
  | nil => exact ⟨rfl, holds⟩
  | cons head tail inductionHypothesis =>
    obtain ⟨returns, keeps⟩ := step start head List.mem_cons_self holds
    rw [List.foldlM_cons, returns, Option.bind_eq_bind, Option.bind_some]
    exact inductionHypothesis (fun state value member => step state value (.tail _ member)) keeps

theorem mapM_eq {checked : β → Option α} {plain : β → α} {list : List β}
    (each : ∀ value ∈ list, checked value = some (plain value)) :
    list.mapM checked = some (list.map plain) := by
  induction list with
  | nil => rfl
  | cons head tail inductionHypothesis =>
    rw [List.mapM_cons, each head List.mem_cons_self,
      inductionHypothesis fun value member => each value (.tail _ member)]
    rfl

end Foundations.Checked
