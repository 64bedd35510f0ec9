import Mathlib.Data.List.Basic

/-! # What is said along the way

A step from one state to the next says a list of things, often none or one.  A trace is a sequence of steps
with all that they say, one after the other.
-/

namespace Foundations

universe u v

variable {State : Type u} {Event : Type v} {step : State → List Event → State → Prop}

inductive Trace (step : State → List Event → State → Prop) : State → List Event → State → Prop
  | refl (state : State) : Trace step state [] state
  | head {first middle last : State} {said rest : List Event} (steps : step first said middle)
      (goesOn : Trace step middle rest last) : Trace step first (said ++ rest) last

namespace Trace

variable {first middle last : State} {said rest : List Event}

theorem single (steps : step first said last) : Trace step first said last := by
  have trace := Trace.head steps (.refl last)
  rwa [List.append_nil] at trace

theorem trans (trace : Trace step first said middle) (goesOn : Trace step middle rest last) :
    Trace step first (said ++ rest) last := by
  induction trace with
  | refl state => exact goesOn
  | head steps later inductionHypothesis =>
    rw [List.append_assoc]
    exact .head steps (inductionHypothesis goesOn)

/-- A property of the state and of all that was said up to it. -/
theorem invariant (property : List Event → State → Prop) {before : List Event}
    (trace : Trace step first said last) (initially : property before first)
    (preserved : ∀ before state said next, property before state → step state said next →
      property (before ++ said) next) : property (before ++ said) last := by
  induction trace generalizing before with
  | refl state => rwa [List.append_nil]
  | head steps later inductionHypothesis =>
    rw [← List.append_assoc]
    exact inductionHypothesis (preserved _ _ _ _ initially steps)

end Trace

end Foundations
