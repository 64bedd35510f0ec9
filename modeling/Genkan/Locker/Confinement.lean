import Genkan.Foundations.Descriptors

/-! # The descriptors of the authentication worker

The worker is spawned with nothing but its private socket and a null device for each standard stream, and
sets itself up so that a helper of a PAM module does not inherit even the socket.
-/

namespace Genkan.Locker

open Foundations Foundations.Descriptors

namespace Confinement

def childSocketFd : Nat := 3

/-- What the locker has open, the null device, and the two ends of the private socket. -/
inductive Opened (File : Type) where
  | held (file : File)
  | null
  | parentSocket
  | childSocket
  deriving DecidableEq, Repr

variable {File : Type}

def spawnActions (childSocket : Nat) : List (FileAction (Opened File)) :=
  .dup2 childSocket childSocketFd :: (if childSocket ≠ childSocketFd then [.close childSocket] else []) ++
    [.open 0 .null, .open 1 .null, .open 2 .null, .closeFrom 4]

structure Started (File : Type) where
  worker : Table (Opened File)
  locker : Table (Opened File)

/-- The client up to the point where the worker runs and the locker has dropped its end of the socket. -/
def start (table : Table File) (limit : Nat) : Option (Started File) := do
  let (_, childSocket, table) ← openPair (table.map .held) limit .parentSocket .childSocket
  let worker ← spawn limit (spawnActions childSocket) table
  return { worker, locker := close table childSocket }

def setCloseOnExec (table : Table (Opened File)) (fd : Nat) : Option (Table (Opened File)) :=
  (table fd).map fun entry => Function.update table fd (some { entry with closeOnExec := true })

def closeExtraDescriptors (table : Table (Opened File)) : Table (Opened File) :=
  fun fd => if 4 ≤ fd then none else table fd

/-- What the worker does before it talks to anyone. -/
def confine (table : Table (Opened File)) : Option (Table (Opened File)) :=
  (setCloseOnExec table childSocketFd).map closeExtraDescriptors

/-! ## The worker and its helpers -/

/-- The null device for the standard streams, one entry of its own for the socket, and nothing else. -/
def Confined (table : Table (Opened File)) (socket : Option (Entry (Opened File))) : Prop :=
  ∀ fd, table fd = if fd < 3 then some ⟨.null, false⟩ else if fd = childSocketFd then socket else none

/-- The source of the duplication may be any number, also the target or one of the standard streams. -/
theorem spawnActions_confine {table worker : Table (Opened File)} {limit childSocket : Nat}
    {entry : Entry (Opened File)}
    (isOpen : table childSocket = some entry) (spawns : spawn limit (spawnActions childSocket) table = some worker) :
    Confined worker (some { entry with closeOnExec := false }) := by
  simp only [spawn, spawnActions, List.cons_append, List.foldlM_cons, List.foldlM_append, List.foldlM_nil,
    Option.map_eq_some_iff, Option.bind_eq_bind, Option.bind_eq_some_iff, Option.pure_def, Option.some.injEq] at spawns
  obtain ⟨_, ⟨duplicated, duplicates, closed, closes, zero, opensZero, one, opensOne, two, opensTwo, last, closesRest,
    rfl⟩, rfl⟩ := spawns
  obtain ⟨source, isSource, isDuplicated⟩ := run_dup2 duplicates
  rw [isOpen] at isSource
  cases isSource
  simp only [FileAction.run, Option.ite_none_right_eq_some, Option.some.injEq] at opensZero opensOne opensTwo closesRest
  have isSocket : closed childSocketFd = some { entry with closeOnExec := false } := by
    rw [run_close_of closes, if_neg (fun closed => closed.2 closed.1.symm), isDuplicated, Function.update_self]
  have isTwo : ∀ fd, two fd = if fd < 3 then some ⟨.null, false⟩ else closed fd := by
    intro fd
    rw [← opensTwo.2, ← opensOne.2, ← opensZero.2]
    simp only [Function.update_apply]
    grind
  intro fd
  simp only [Descriptors.exec, ← closesRest, isTwo]
  by_cases isLow : fd < 3
  · simp [isLow, show ¬4 ≤ fd by omega]
  · by_cases isSocketFd : fd = childSocketFd
    · rw [if_neg isLow, if_pos isSocketFd, if_neg (by simp only [childSocketFd] at isSocketFd; omega), if_neg isLow,
        isSocketFd, isSocket]
      rfl
    · have isHigh : 4 ≤ fd := by
        simp only [childSocketFd] at isSocketFd
        omega
      simp [isLow, isSocketFd, isHigh]

/-- The socket is the worker's alone, and the standard streams are what a helper gets. -/
theorem Confined.confine {table : Table (Opened File)} {entry : Entry (Opened File)}
    (confined : Confined table (some entry)) :
    ∃ next, Confinement.confine table = some next ∧ Confined next (some { entry with closeOnExec := true }) := by
  have isSocket : table childSocketFd = some entry := confined childSocketFd
  refine ⟨_, by rw [Confinement.confine, setCloseOnExec, isSocket]; rfl, ?_⟩
  intro fd
  simp only [closeExtraDescriptors]
  by_cases isHigh : 4 ≤ fd
  · rw [if_pos isHigh, if_neg (by omega), if_neg (by simp only [childSocketFd]; omega)]
  · rw [if_neg isHigh]
    by_cases isSocketFd : fd = childSocketFd
    · rw [isSocketFd, Function.update_self]
      rfl
    · rw [Function.update_of_ne isSocketFd, confined fd, if_neg isSocketFd, if_neg isSocketFd]

theorem Confined.exec {table : Table (Opened File)} {entry : Entry (Opened File)}
    (confined : Confined table (some entry)) (closes : entry.closeOnExec = true) :
    Confined (Descriptors.exec table) none := by
  intro fd
  rw [Descriptors.exec, confined fd]
  by_cases isLow : fd < 3
  · simp [isLow]
  · by_cases isSocketFd : fd = childSocketFd
    · rw [if_neg isLow, if_pos isSocketFd, if_neg isLow, if_pos isSocketFd]
      simp [closes]
    · simp [isLow, isSocketFd]

/-- Whatever the locker has open: the worker has three null devices and its socket, a helper that the worker
executes has the null devices only, and the locker does not keep the end of the worker. -/
theorem worker_confined (table : Table File) (limit : Nat) (started : Started File)
    (starts : start table limit = some started) :
    Confined started.worker (some ⟨.childSocket, false⟩) ∧
      (∃ confined, confine started.worker = some confined ∧ Confined confined (some ⟨.childSocket, true⟩) ∧
        Confined (Descriptors.exec confined) none) ∧
      ∀ fd entry, started.locker fd = some entry → entry.file ≠ .childSocket := by
  simp only [start, Option.bind_eq_bind, Option.bind_eq_some_iff, Prod.exists, Option.pure_def,
    Option.some.injEq] at starts
  obtain ⟨parentSocket, childSocket, opened, opens, worker, spawns, rfl⟩ := starts
  obtain ⟨_, _, apart, _, _, isOpened⟩ := openPair_eq_some opens
  have isChild : opened childSocket = some ⟨.childSocket, true⟩ := by rw [isOpened, Function.update_self]
  have isWorker := spawnActions_confine isChild spawns
  obtain ⟨confined, confines, isConfined⟩ := isWorker.confine
  refine ⟨isWorker, ⟨confined, confines, isConfined, isConfined.exec rfl⟩, ?_⟩
  intro fd entry isEntry isSocket
  change close opened childSocket fd = some entry at isEntry
  by_cases isChildSocket : fd = childSocket
  · rw [isChildSocket, close, Function.update_self] at isEntry
    cases isEntry
  · rw [close, Function.update_of_ne isChildSocket, isOpened, Function.update_of_ne isChildSocket] at isEntry
    by_cases isParent : fd = parentSocket
    · rw [isParent, Function.update_self] at isEntry
      cases isEntry
      cases isSocket
    · rw [Function.update_of_ne isParent] at isEntry
      obtain ⟨_, _, rfl⟩ := Option.map_eq_some_iff.mp isEntry
      cases isSocket

/-- The socket of the worker is opened as its own target, next to a readiness pipe that is left behind. -/
theorem worker_confined_sample :
    ∃ started : Started String,
      start (fun fd => if fd = 0 ∨ fd = 1 ∨ fd = 7 then some ⟨"ready", false⟩ else none) 1024 = some started ∧
        Confined started.worker (some ⟨.childSocket, false⟩) := by
  obtain ⟨started, starts⟩ : ∃ started : Started String,
      start (fun fd => if fd = 0 ∨ fd = 1 ∨ fd = 7 then some ⟨"ready", false⟩ else none) 1024 = some started := ⟨_, rfl⟩
  exact ⟨started, starts, (worker_confined _ 1024 started starts).1⟩

end Confinement

end Genkan.Locker
