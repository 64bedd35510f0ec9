import Mathlib.Data.List.Range
import Mathlib.Logic.Function.Basic

/-! # Descriptor tables

A process knows its open files by numbers.  A new descriptor takes the lowest number that is free, a
duplicate is another name for the same open file, and a spawned program starts with a copy of the table, to
which its file actions are applied in order before everything marked so is closed.
-/

namespace Foundations.Descriptors

universe u v

structure Entry (File : Type u) where
  file : File
  closeOnExec : Bool
  deriving DecidableEq, Repr

abbrev Table (File : Type u) := Nat → Option (Entry File)

variable {File : Type u} {Other : Type v}

/-- The same table over a larger kind of open files. -/
def Table.map (table : Table File) (f : File → Other) : Table Other :=
  fun fd => (table fd).map fun entry => ⟨f entry.file, entry.closeOnExec⟩

/-! ## Opening and closing -/

/-- The lowest number from the start on that is free, below the limit of the process. -/
def lowestFree (table : Table File) (limit start : Nat) : Option Nat :=
  (List.range' start (limit - start)).find? fun fd => (table fd).isNone

def allocate (table : Table File) (limit start : Nat) (entry : Entry File) : Option (Nat × Table File) :=
  (lowestFree table limit start).map fun fd => (fd, Function.update table fd (some entry))

def close (table : Table File) (fd : Nat) : Table File := Function.update table fd none

/-- A duplicate from the start on, which is closed on exec (`F_DUPFD_CLOEXEC`). -/
def duplicate (table : Table File) (limit fd start : Nat) : Option (Nat × Table File) :=
  (table fd).bind fun entry => allocate table limit start { entry with closeOnExec := true }

/-- The two ends of a pipe or of a pair of sockets, both closed on exec. -/
def openPair (table : Table File) (limit : Nat) (first second : File) : Option (Nat × Nat × Table File) := do
  let (one, table) ← allocate table limit 0 ⟨first, true⟩
  let (other, table) ← allocate table limit 0 ⟨second, true⟩
  return (one, other, table)

theorem lowestFree_eq_some {table : Table File} {limit start fd : Nat} (free : lowestFree table limit start = some fd) :
    start ≤ fd ∧ fd < limit ∧ table fd = none := by
  have member := List.mem_of_find?_eq_some free
  have isNone := List.find?_some free
  rw [List.mem_range'_1] at member
  exact ⟨member.1, by omega, by simpa using isNone⟩

theorem allocate_eq_some {table next : Table File} {limit start fd : Nat} {entry : Entry File}
    (allocates : allocate table limit start entry = some (fd, next)) :
    start ≤ fd ∧ fd < limit ∧ table fd = none ∧ next = Function.update table fd (some entry) := by
  obtain ⟨lowest, free, isNext⟩ := Option.map_eq_some_iff.mp allocates
  cases isNext
  obtain ⟨lower, upper, isNone⟩ := lowestFree_eq_some free
  exact ⟨lower, upper, isNone, rfl⟩

theorem duplicate_eq_some {table next : Table File} {limit fd start copy : Nat}
    (duplicates : duplicate table limit fd start = some (copy, next)) :
    ∃ entry, table fd = some entry ∧ start ≤ copy ∧ copy < limit ∧ table copy = none ∧
      next = Function.update table copy (some { entry with closeOnExec := true }) := by
  obtain ⟨entry, isOpen, allocates⟩ := Option.bind_eq_some_iff.mp duplicates
  exact ⟨entry, isOpen, allocate_eq_some allocates⟩

/-- A duplicate is found while a number is free. -/
theorem exists_duplicate {table : Table File} {limit fd start free : Nat} {entry : Entry File}
    (isOpen : table fd = some entry) (isFree : table free = none) (lower : start ≤ free) (upper : free < limit) :
    ∃ copy, table copy = none ∧ duplicate table limit fd start =
      some (copy, Function.update table copy (some { entry with closeOnExec := true })) := by
  have found : (lowestFree table limit start).isSome := by
    rw [lowestFree, List.find?_isSome]
    refine ⟨free, List.mem_range'_1.mpr ⟨lower, by omega⟩, ?_⟩
    rw [isFree, Option.isNone_none]
  obtain ⟨copy, isCopy⟩ := Option.isSome_iff_exists.mp found
  refine ⟨copy, (lowestFree_eq_some isCopy).2.2, ?_⟩
  rw [duplicate, isOpen, Option.bind_some, allocate, isCopy, Option.map_some]

theorem openPair_eq_some {table next : Table File} {limit one other : Nat} {first second : File}
    (opens : openPair table limit first second = some (one, other, next)) :
    one < limit ∧ other < limit ∧ one ≠ other ∧ table one = none ∧ table other = none ∧
      next = Function.update (Function.update table one (some ⟨first, true⟩)) other (some ⟨second, true⟩) := by
  simp only [openPair, Option.bind_eq_bind, Option.bind_eq_some_iff, Prod.exists, Option.pure_def,
    Option.some.injEq, Prod.mk.injEq] at opens
  obtain ⟨here, middle, opensFirst, there, last, opensSecond, rfl, rfl, rfl⟩ := opens
  obtain ⟨_, within, isNone, isMiddle⟩ := allocate_eq_some opensFirst
  obtain ⟨_, inside, isFree, isNext⟩ := allocate_eq_some opensSecond
  rw [isMiddle] at isFree isNext
  have apart : here ≠ there := by
    intro same
    subst same
    simp at isFree
  rw [Function.update_of_ne (Ne.symm apart)] at isFree
  exact ⟨within, inside, apart, isNone, isFree, isNext⟩

/-! ## Spawning -/

inductive FileAction (File : Type u) where
  | dup2 (source target : Nat)
  | close (fd : Nat)
  | open (target : Nat) (file : File)
  | closeFrom (start : Nat)
  deriving DecidableEq, Repr

/-- The target of a duplication stays open on exec, also when it is the source itself. -/
def FileAction.run (limit : Nat) (table : Table File) : FileAction File → Option (Table File)
  | .dup2 source target =>
    if target < limit then
      (table source).map fun entry => Function.update table target (some { entry with closeOnExec := false })
    else none
  | .close fd => if fd < limit then some (Descriptors.close table fd) else none
  | .open target file => if target < limit then some (Function.update table target (some ⟨file, false⟩)) else none
  | .closeFrom start => some fun fd => if start ≤ fd then none else table fd

def exec (table : Table File) : Table File := fun fd => (table fd).filter fun entry => !entry.closeOnExec

/-- The table that a spawned program starts with. -/
def spawn (limit : Nat) (actions : List (FileAction File)) (table : Table File) : Option (Table File) :=
  (actions.foldlM (FileAction.run limit) table).map exec

theorem run_dup2 {limit source target : Nat} {table next : Table File}
    (runs : (FileAction.dup2 source target).run limit table = some next) :
    ∃ entry, table source = some entry ∧
      next = Function.update table target (some { entry with closeOnExec := false }) := by
  simp only [FileAction.run, Option.ite_none_right_eq_some, Option.map_eq_some_iff] at runs
  obtain ⟨_, entry, isOpen, isNext⟩ := runs
  exact ⟨entry, isOpen, isNext.symm⟩

theorem run_close_of {limit fd : Nat} {closes : Prop} [Decidable closes] {table next : Table File}
    (runs : (if closes then [FileAction.close fd] else []).foldlM (FileAction.run limit) table = some next)
    (other : Nat) : next other = if other = fd ∧ closes then none else table other := by
  split at runs
  next isClosed =>
    simp only [List.foldlM_cons, List.foldlM_nil, FileAction.run, Option.bind_eq_bind, Option.pure_def,
      Option.bind_eq_some_iff, Option.ite_none_right_eq_some, Option.some.injEq] at runs
    obtain ⟨_, ⟨_, isTable⟩, isNext⟩ := runs
    rw [← isTable] at isNext
    by_cases same : other = fd
    · rw [← isNext, same, close, Function.update_self, if_pos ⟨rfl, isClosed⟩]
    · rw [← isNext, close, Function.update_of_ne same, if_neg (by simp [same])]
  next stays =>
    cases runs
    rw [if_neg]
    intro isClosed
    exact stays isClosed.2

end Foundations.Descriptors
