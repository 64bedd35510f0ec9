import Genkan.Foundations.Results
import Mathlib.Algebra.BigOperators.Group.List.Basic
import Mathlib.Algebra.Order.Monoid.Canonical.Defs
import Mathlib.Algebra.Order.Monoid.Prod
import Mathlib.Order.UpperLower.CompleteLattice

/-! # Computations that charge a budget

A metered computation takes what was spent and returns what is spent after it.  It succeeds when it
accepts its input and its cost still fits the limit, so a sequence of them succeeds when all accept and
the sum of their costs fits: the checks on the way add nothing to the one at the end.  A computation
whose counters may saturate is metered as long as they have room.
-/

namespace Foundations.Metered

open Foundations.Results

universe u

variable {Error α Cost : Type u} [AddCommMonoid Cost] [PartialOrder Cost] {limit : Cost}
  {room : LowerSet Cost}

/-- From what is within the limit, the computation succeeds when it accepts and its cost fits as well. -/
def Meters (limit : Cost) (room : LowerSet Cost) (accepts : Prop) (cost : Cost)
    (run : Cost → Except Error Cost) : Prop :=
  ∀ spent result, spent ≤ limit → spent + cost ∈ room →
    (run spent = .ok result ↔ accepts ∧ spent + cost ≤ limit ∧ result = spent + cost)

theorem Meters.free : Meters limit room True 0 (Except.ok : Cost → Except Error Cost) := by
  intro spent result within _
  rw [add_zero]
  constructor
  · intro same
    exact ⟨trivial, within, (Except.ok.inj same).symm⟩
  · intro holds
    rw [holds.2.2]

theorem Meters.mono {accepts same : Prop} {cost : Cost} {run : Cost → Except Error Cost}
    (meters : Meters limit room accepts cost run) (accepting : accepts ↔ same) :
    Meters limit room same cost run := by
  intro spent result within fits
  rw [meters spent result within fits, accepting]

theorem Meters.congr {accepts : Prop} {cost : Cost} {run same : Cost → Except Error Cost}
    (meters : Meters limit room accepts cost run) (runs : ∀ spent, same spent = run spent) :
    Meters limit room accepts cost same := by
  intro spent result within fits
  rw [runs spent, meters spent result within fits]

variable [CanonicallyOrderedAdd Cost]

theorem Meters.bind {acceptsFirst acceptsNext : Prop} {costFirst costNext : Cost}
    {first next : Cost → Except Error Cost} (meters : Meters limit room acceptsFirst costFirst first)
    (continues : Meters limit room acceptsNext costNext next) :
    Meters limit room (acceptsFirst ∧ acceptsNext) (costFirst + costNext) fun spent => first spent >>= next := by
  intro spent result within inRoom
  rw [← add_assoc] at inRoom
  have firstInRoom : spent + costFirst ∈ room := room.lower le_self_add inRoom
  rw [bind_eq_ok, ← add_assoc]
  constructor
  · intro succeeds
    obtain ⟨middle, isMiddle, isResult⟩ := succeeds
    obtain ⟨accepted, fits, rfl⟩ := (meters spent middle within firstInRoom).mp isMiddle
    obtain ⟨acceptedNext, fitsNext, isSum⟩ := (continues _ result fits inRoom).mp isResult
    exact ⟨⟨accepted, acceptedNext⟩, fitsNext, isSum⟩
  · intro holds
    obtain ⟨⟨accepted, acceptedNext⟩, fits, isSum⟩ := holds
    have fitsFirst : spent + costFirst ≤ limit := le_trans le_self_add fits
    exact ⟨spent + costFirst, (meters spent _ within firstInRoom).mpr ⟨accepted, fitsFirst, rfl⟩,
      (continues _ result fitsFirst inRoom).mpr ⟨acceptedNext, fits, isSum⟩⟩

/-- A first part that accepts everything. -/
theorem Meters.andThen {accepts : Prop} {costFirst costNext : Cost} {first next : Cost → Except Error Cost}
    (meters : Meters limit room True costFirst first) (continues : Meters limit room accepts costNext next) :
    Meters limit room accepts (costFirst + costNext) fun spent => first spent >>= next :=
  (meters.bind continues).mono (iff_of_eq (true_and accepts))

/-- A loop is metered when its turns are. -/
theorem Meters.foldlM {step : Cost → α → Except Error Cost} {accepts : α → Prop} {cost : α → Cost}
    (items : List α) (turn : ∀ item ∈ items, Meters limit room (accepts item) (cost item) (step · item)) :
    Meters limit room (∀ item ∈ items, accepts item) (items.map cost).sum
      fun spent => items.foldlM step spent := by
  induction items with
  | nil =>
    refine Meters.free.mono ?_
    simp
  | cons item items inductionHypothesis =>
    have head := turn item List.mem_cons_self
    have tail := inductionHypothesis fun later member => turn later (List.mem_cons_of_mem item member)
    rw [List.map_cons, List.sum_cons]
    exact (head.bind tail).mono List.forall_mem_cons.symm

end Foundations.Metered
