import Mathlib.Algebra.BigOperators.Group.List.Basic
import Mathlib.Algebra.Order.Ring.Nat

/-! # Weighted sums of natural numbers

A term is a value with its weight.  The quotient of the weighted sum by the weight, rounded down or to
the nearest number, stays within any bounds of the values that have a weight.
-/

namespace Foundations.WeightedMean

def weight (terms : List (Nat × Nat)) : Nat := (terms.map (·.2)).sum

def total (terms : List (Nat × Nat)) : Nat := (terms.map fun term => term.1 * term.2).sum

@[simp] theorem weight_nil : weight [] = 0 := rfl

@[simp] theorem total_nil : total [] = 0 := rfl

@[simp] theorem weight_cons (term : Nat × Nat) (terms : List (Nat × Nat)) :
    weight (term :: terms) = term.2 + weight terms := by
  simp [weight]

@[simp] theorem total_cons (term : Nat × Nat) (terms : List (Nat × Nat)) :
    total (term :: terms) = term.1 * term.2 + total terms := by
  simp [total]

variable {terms : List (Nat × Nat)} {low high : Nat}

theorem low_mul_weight_le (below : ∀ term ∈ terms, term.2 ≠ 0 → low ≤ term.1) : low * weight terms ≤ total terms := by
  induction terms with
  | nil => simp
  | cons term terms inductionHypothesis =>
    have rest := inductionHypothesis fun other member => below other (.tail _ member)
    have first : low * term.2 ≤ term.1 * term.2 := by
      by_cases weightless : term.2 = 0
      · simp [weightless]
      · exact Nat.mul_le_mul_right _ (below term (.head _) weightless)
    rw [weight_cons, total_cons, Nat.mul_add]
    exact Nat.add_le_add first rest

theorem total_le_high_mul (above : ∀ term ∈ terms, term.2 ≠ 0 → term.1 ≤ high) : total terms ≤ high * weight terms := by
  induction terms with
  | nil => simp
  | cons term terms inductionHypothesis =>
    have rest := inductionHypothesis fun other member => above other (.tail _ member)
    have first : term.1 * term.2 ≤ high * term.2 := by
      by_cases weightless : term.2 = 0
      · simp [weightless]
      · exact Nat.mul_le_mul_right _ (above term (.head _) weightless)
    rw [weight_cons, total_cons, Nat.mul_add]
    exact Nat.add_le_add first rest

/-- Rounded down. -/
theorem mean_between (positive : 0 < weight terms)
    (between : ∀ term ∈ terms, term.2 ≠ 0 → low ≤ term.1 ∧ term.1 ≤ high) :
    low ≤ total terms / weight terms ∧ total terms / weight terms ≤ high := by
  have below := low_mul_weight_le fun term member weighted => (between term member weighted).1
  have above := total_le_high_mul fun term member weighted => (between term member weighted).2
  exact ⟨(Nat.le_div_iff_mul_le positive).mpr below, Nat.div_le_of_le_mul (by rwa [Nat.mul_comm])⟩

/-- Rounded to the nearest number. -/
theorem rounded_between (positive : 0 < weight terms)
    (between : ∀ term ∈ terms, term.2 ≠ 0 → low ≤ term.1 ∧ term.1 ≤ high) :
    low ≤ (total terms + weight terms / 2) / weight terms ∧
      (total terms + weight terms / 2) / weight terms ≤ high := by
  have below := low_mul_weight_le fun term member weighted => (between term member weighted).1
  have above := total_le_high_mul fun term member weighted => (between term member weighted).2
  constructor
  · exact (Nat.le_div_iff_mul_le positive).mpr (Nat.le_trans below (Nat.le_add_right _ _))
  · -- Half of the weight does not reach the next number.
    apply Nat.le_of_lt_succ
    rw [Nat.div_lt_iff_lt_mul positive, Nat.succ_mul]
    omega

theorem le_weight {term : Nat × Nat} (member : term ∈ terms) : term.2 ≤ weight terms := by
  induction terms with
  | nil => cases member
  | cons first terms inductionHypothesis =>
    rw [weight_cons]
    cases member with
    | head => exact Nat.le_add_right _ _
    | tail _ member => exact Nat.le_trans (inductionHypothesis member) (Nat.le_add_left _ _)

end Foundations.WeightedMean
