import Genkan.Foundations.TransitionSystem
import Mathlib.Data.List.Count

/-! # Threads over shared memory

Any number of threads run one program, each from a place of its own.  A step takes one thread from its
place to the next and may change what the threads share; in between, any other thread may take a step.
-/

namespace Foundations.Threads

universe u v w

structure Pool (Shared : Type u) (Place : Type v) where
  shared : Shared
  threads : List Place

inductive Label (Place : Type v) (Input : Type w) where
  | start (place : Place)
  | advance (index : Nat) (input : Input)

/-- A thread may start in some places, and a step is all that it does without interruption. -/
structure Program (Shared : Type u) (Place : Type v) (Input : Type w) where
  starts : Place → Bool
  step : Place → Shared → Input → Option (Place × Shared)

namespace Program

variable {Shared : Type u} {Place : Type v} {Input : Type w} (program : Program Shared Place Input)

def next (pool : Pool Shared Place) : Label Place Input → Option (Pool Shared Place)
  | .start place =>
    if program.starts place then some { pool with threads := pool.threads ++ [place] } else none
  | .advance index input =>
    match pool.threads[index]? with
    | none => none
    | some place =>
      match program.step place pool.shared input with
      | none => none
      | some (place, shared) => some { shared, threads := pool.threads.set index place }

def system (initial : Shared) : TransitionSystem (Pool Shared Place) (Label Place Input) :=
  .ofPartial (fun pool => pool = { shared := initial, threads := [] }) program.next

variable {program}

theorem next_cases {pool after : Pool Shared Place} {label : Label Place Input}
    (steps : program.next pool label = some after) :
    (∃ place, label = .start place ∧ program.starts place = true ∧
      after = { pool with threads := pool.threads ++ [place] }) ∨
    ∃ index input place place' shared', label = .advance index input ∧ pool.threads[index]? = some place ∧
      program.step place pool.shared input = some (place', shared') ∧
      after = { shared := shared', threads := pool.threads.set index place' } := by
  cases label with
  | start place =>
    simp only [next, Option.ite_none_right_eq_some, Option.some.injEq] at steps
    exact .inl ⟨place, rfl, steps.1, steps.2.symm⟩
  | advance index input =>
    simp only [next] at steps
    split at steps
    next => contradiction
    next place found =>
      split at steps
      next => contradiction
      next place' shared' taken =>
        cases steps
        exact .inr ⟨index, input, place, place', shared', rfl, found, taken, rfl⟩

/-- What holds without threads, and is kept by every start and by every step of one thread. -/
theorem invariant {initial : Shared} (property : Shared → List Place → Prop)
    (initially : property initial [])
    (started : ∀ {shared threads place}, property shared threads → program.starts place = true →
      property shared (threads ++ [place]))
    (advanced : ∀ {shared threads index place input place' shared'}, property shared threads →
      threads[index]? = some place → program.step place shared input = some (place', shared') →
      property shared' (threads.set index place'))
    {pool : Pool Shared Place} (reachable : (program.system initial).Reachable pool) :
    property pool.shared pool.threads := by
  refine reachable.invariant (fun pool => property pool.shared pool.threads) ?_ ?_
  · intro pool isInitial
    cases isInitial
    exact initially
  · intro pool label after holds steps
    cases next_cases steps with
    | inl starts =>
      obtain ⟨place, _, allowed, isAfter⟩ := starts
      exact isAfter ▸ started holds allowed
    | inr advances =>
      obtain ⟨index, input, place, place', shared', _, found, taken, isAfter⟩ := advances
      exact isAfter ▸ advanced holds found taken

end Program

/-! ## Counting threads -/

section Counting

variable {Place : Type v} {kind : Place → Bool} {threads : List Place} {index : Nat} {old new : Place}

theorem countP_start (other : kind new = false) : (threads ++ [new]).countP kind = threads.countP kind := by
  simp [List.countP_append, other]

/-- A step moves one thread into or out of a kind, or leaves their number as it is. -/
theorem countP_step (found : threads[index]? = some old) :
    (threads.set index new).countP kind + (if kind old then 1 else 0) =
      threads.countP kind + (if kind new then 1 else 0) := by
  obtain ⟨bound, isOld⟩ := List.getElem?_eq_some_iff.mp found
  have counted : (if kind old then 1 else 0) ≤ threads.countP kind := by
    split
    next isKind => exact List.countP_pos_iff.mpr ⟨old, isOld ▸ List.getElem_mem bound, isKind⟩
    next => exact Nat.zero_le _
  rw [List.countP_set bound, isOld]
  omega

end Counting

end Foundations.Threads
