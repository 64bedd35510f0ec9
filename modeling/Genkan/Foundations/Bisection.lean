import Mathlib.Algebra.Ring.Nat
import Mathlib.Order.Monotone.Basic
import Mathlib.Data.Nat.Init
import Mathlib.Order.BooleanAlgebra.Basic

/-! # Binary search for an index at which a property changes

The property is an executable test.  The search for the first index at which it holds looks at half-open
intervals, and `fuel` bounds the number of its steps.  The search for the last one looks at closed intervals,
and each of its steps leaves a shorter one.
-/

namespace Foundations.Bisection

def bisect (reached : Nat → Bool) : Nat → Nat → Nat → Nat
  | 0, low, _ => low
  | fuel + 1, low, high =>
    if low < high then
      let middle := low + (high - low) / 2
      if reached middle then bisect reached fuel low middle else bisect reached fuel (middle + 1) high
    else low

variable {reached : Nat → Bool}

/-! ## The first index -/

theorem bisect_le {fuel low high : Nat} (order : low ≤ high) :
    bisect reached fuel low high ≤ high := by
  induction fuel generalizing low high with
  | zero => exact order
  | succ fuel inductionHypothesis =>
    simp only [bisect]
    split
    next searching =>
      split
      next => exact Nat.le_trans (inductionHypothesis (by omega)) (by omega)
      next => exact inductionHypothesis (by omega)
    next => exact order

theorem le_bisect {fuel low high : Nat} : low ≤ bisect reached fuel low high := by
  induction fuel generalizing low high with
  | zero => exact Nat.le_refl _
  | succ fuel inductionHypothesis =>
    simp only [bisect]
    split
    next =>
      split
      next => exact inductionHypothesis
      next => exact Nat.le_trans (by omega) inductionHypothesis
    next => exact Nat.le_refl _

/-- More fuel changes nothing once the interval is smaller than the power of two. -/
theorem bisect_fuel {fuel low high : Nat} (bound : high - low < 2 ^ fuel) :
    bisect reached (fuel + 1) low high = bisect reached fuel low high := by
  induction fuel generalizing low high with
  | zero =>
    have done : ¬ low < high := by omega
    simp [bisect, done]
  | succ fuel inductionHypothesis =>
    have halves : 2 ^ (fuel + 1) = 2 * 2 ^ fuel := by rw [Nat.pow_succ, Nat.mul_comm]
    rw [bisect, bisect]
    by_cases searching : low < high
    · simp only [searching, if_true]
      rw [inductionHypothesis (by omega), inductionHypothesis (by omega)]
    · simp [searching]

/-- With enough fuel the search ends at or before an index of its interval exactly when the index
is reached. -/
theorem bisect_le_iff (monotone : Monotone reached) {fuel low high index : Nat}
    (fits : high - low < 2 ^ fuel) (above : low ≤ index) (below : index < high) :
    bisect reached fuel low high ≤ index ↔ reached index = true := by
  induction fuel generalizing low high with
  | zero => omega
  | succ fuel inductionHypothesis =>
    have halves : 2 ^ (fuel + 1) = 2 * 2 ^ fuel := by rw [Nat.pow_succ, Nat.mul_comm]
    have searching : low < high := by omega
    simp only [bisect, if_pos searching]
    by_cases found : reached (low + (high - low) / 2) = true
    · rw [if_pos found]
      by_cases left : index < low + (high - low) / 2
      · exact inductionHypothesis (by omega) above left
      · -- The index is not before the middle, where the property holds already.
        have ends : bisect reached fuel low (low + (high - low) / 2) ≤ low + (high - low) / 2 :=
          bisect_le (by omega)
        exact iff_of_true (by omega) (Bool.le_iff_imp.mp (monotone (show _ ≤ index by omega)) found)
    · rw [if_neg found]
      by_cases right : low + (high - low) / 2 < index
      · exact inductionHypothesis (by omega) right below
      · -- Nothing up to the middle is reached, and the search goes on behind it.
        have starts : low + (high - low) / 2 + 1 ≤ bisect reached fuel (low + (high - low) / 2 + 1) high :=
          le_bisect
        refine iff_of_false (by omega) ?_
        intro reachedIndex
        exact found (Bool.le_iff_imp.mp (monotone (show index ≤ _ by omega)) reachedIndex)

/-! ## The last index -/

/-- The middle is a later index of the interval, so either half is shorter. -/
theorem middle_within {lower upper : Nat} (searching : lower < upper) :
    lower < (lower + upper + 1) / 2 ∧ (lower + upper + 1) / 2 ≤ upper := by
  omega

def bisectLast (reached : Nat → Bool) (lower upper : Nat) : Nat :=
  if searching : lower < upper then
    let middle := (lower + upper + 1) / 2
    have := middle_within searching
    if reached middle then bisectLast reached middle upper else bisectLast reached lower (middle - 1)
  else lower
termination_by upper - lower

variable {lower upper index : Nat}

theorem bisectLast_le (order : lower ≤ upper) : bisectLast reached lower upper ≤ upper := by
  fun_induction bisectLast with
  | case1 lower upper searching middle within found inductionHypothesis => exact inductionHypothesis within.2
  | case2 lower upper searching middle within missed inductionHypothesis =>
    exact Nat.le_trans (inductionHypothesis (by omega)) (by omega)
  | case3 lower upper finished => exact order

theorem le_bisectLast : lower ≤ bisectLast reached lower upper := by
  fun_induction bisectLast with
  | case1 lower upper searching middle within found inductionHypothesis =>
    exact Nat.le_trans (Nat.le_of_lt within.1) inductionHypothesis
  | case2 lower upper searching middle within missed inductionHypothesis => exact inductionHypothesis
  | case3 lower upper finished => exact Nat.le_refl _

/-- The search has tested its result, unless that is where it began. -/
theorem reached_bisectLast (moved : lower < bisectLast reached lower upper) :
    reached (bisectLast reached lower upper) = true := by
  fun_induction bisectLast with
  | case1 lower upper searching middle within found inductionHypothesis =>
    by_cases further : middle < bisectLast reached middle upper
    · exact inductionHypothesis further
    · rwa [Nat.le_antisymm (Nat.not_lt.mp further) le_bisectLast]
  | case2 lower upper searching middle within missed inductionHypothesis => exact inductionHypothesis moved
  | case3 lower upper finished => exact absurd moved (Nat.lt_irrefl _)

/-- Of a property that stays false once it is, the search finds the last index. -/
theorem le_bisectLast_iff (antitone : Antitone reached) (above : lower < index) (below : index ≤ upper) :
    index ≤ bisectLast reached lower upper ↔ reached index = true := by
  fun_induction bisectLast with
  | case1 lower upper searching middle within found inductionHypothesis =>
    by_cases right : middle < index
    · exact inductionHypothesis right below
    · -- The index is not behind the middle, where the property still holds.
      have ends : middle ≤ bisectLast reached middle upper := le_bisectLast
      refine iff_of_true (by omega) ?_
      exact Bool.le_iff_imp.mp (antitone (Nat.not_lt.mp right)) found
  | case2 lower upper searching middle within missed inductionHypothesis =>
    by_cases left : index < middle
    · exact inductionHypothesis above (by omega)
    · -- Nothing from the middle on is reached, and the search goes on before it.
      have ends : bisectLast reached lower (middle - 1) ≤ middle - 1 := bisectLast_le (by omega)
      refine iff_of_false (by omega) ?_
      intro reachedIndex
      exact missed (Bool.le_iff_imp.mp (antitone (Nat.not_lt.mp left)) reachedIndex)
  | case3 lower upper finished => omega

end Foundations.Bisection
