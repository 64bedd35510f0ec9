import Genkan.Foundations.Descriptors
import Genkan.Foundations.Results
import Genkan.Foundations.Signed

/-! # The launcher of the foreground locker

The launcher spawns the locker with its standard streams, the write end of the readiness pipe and, where one
was handed down, the connection to the compositor.  Everything else that happens to be open stays behind,
and the launcher itself keeps no write end, so that reading ends when the locker closes its own.
-/

namespace Genkan.Locker

open Foundations Foundations.Descriptors

namespace Launcher

def childReadyFd : Nat := 3

def childWaylandFd : Nat := 4

inductive IoError where
  | invalidInput
  | system
  deriving DecidableEq, Repr

inductive Error where
  | spawn (error : IoError)
  | childFailed (status : String)
  | invalidReady
  deriving DecidableEq, Repr

/-- What was open before, and the two ends of the readiness pipe. -/
inductive Opened (File : Type) where
  | inherited (file : File)
  | readyReader
  | readyWriter
  deriving DecidableEq, Repr

/-- The variables and their values, neither of which has to be text. -/
abbrev Environment := List (List UInt8 × List UInt8)

def waylandSocket : List UInt8 := "WAYLAND_SOCKET".toUTF8.toList

/-- The descriptor that a value names, if it is the text of a number. -/
def rawFd (value : List UInt8) : Option Int := (String.fromUTF8? ⟨value.toArray⟩).bind parseI32

variable {File : Type}

/-- The duplicate is out of the way of the descriptors of the child and of the pipe. -/
def preserveWaylandSocket (table : Table (Opened File)) (limit : Nat) (environment : Environment) :
    Except Error (Option Nat × Table (Opened File)) :=
  match environment.lookup waylandSocket with
  | none => .ok (none, table)
  | some value =>
    match (rawFd value).filter fun fd => 0 ≤ fd with
    | none => .error (.spawn .invalidInput)
    | some fd =>
      match duplicate table limit fd.toNat 64 with
      | none => .error (.spawn .system)
      | some (copy, table) => .ok (some copy, table)

def ensureNotChildReadyFd (table : Table (Opened File)) (limit fd : Nat) :
    Except Error (Nat × Table (Opened File)) :=
  if fd ≠ childReadyFd then .ok (fd, table)
  else
    match duplicate table limit fd 4 with
    | none => .error (.spawn .system)
    | some (copy, table) => .ok (copy, close table fd)

/-- An end of the pipe is closed where it has not been replaced. -/
def closeEnd (fd : Nat) (reservesWaylandFd : Bool) : List (FileAction (Opened File)) :=
  if fd ≠ childReadyFd ∧ (!reservesWaylandFd ∨ fd ≠ childWaylandFd) then [.close fd] else []

def spawnActions (reader writer : Nat) (wayland : Option Nat) : List (FileAction (Opened File)) :=
  .dup2 writer childReadyFd :: (wayland.toList.map fun fd => .dup2 fd childWaylandFd) ++
    closeEnd reader wayland.isSome ++ closeEnd writer wayland.isSome ++
    [.closeFrom (if wayland.isSome then 5 else 4)]

def childEnvironment (environment : Environment) (hasWaylandSocket : Bool) : Environment :=
  (environment.filter fun entry => entry.1 != waylandSocket) ++
    if hasWaylandSocket then [(waylandSocket, "4".toUTF8.toList)] else []

structure Launched (File : Type) where
  child : Table (Opened File)
  environment : Environment
  launcher : Table (Opened File)

/-- The launcher up to the point where it waits; the program may fail to start. -/
def launch (table : Table File) (limit : Nat) (environment : Environment) (starts : Bool) :
    Except Error (Launched File) := do
  let (wayland, table) ← preserveWaylandSocket (table.map .inherited) limit environment
  match openPair table limit .readyReader .readyWriter with
  | none => throw (.spawn .system)
  | some (reader, writer, table) =>
    let (writer, table) ← ensureNotChildReadyFd table limit writer
    match spawn limit (spawnActions reader writer wayland) table with
    | none => throw (.spawn .system)
    | some child =>
      if starts then
        return { child
                 environment := childEnvironment environment wayland.isSome
                 launcher := close table writer }
      else throw (.spawn .system)

inductive AdoptError where
  | closed
  | notWritable
  deriving DecidableEq, Repr

/-- The locker takes the descriptor over: whatever comes of it, an open one does not stay where it was. -/
def adoptReadyFd (writable : File → Bool) (table : Table File) (limit fd : Nat) :
    Except AdoptError Nat × Table File :=
  match duplicate table limit fd 3 with
  | none => (.error .closed, table)
  | some (copy, duplicated) =>
    if (duplicated copy).any fun entry => writable entry.file then (.ok copy, close duplicated fd)
    else (.error .notWritable, close (close duplicated fd) copy)

def Opened.writable (writable : File → Bool) : Opened File → Bool
  | .inherited file => writable file
  | .readyReader => false
  | .readyWriter => true

def ready : List UInt8 := "READY\n".toUTF8.toList

/-- What the launcher makes of the bytes that are written before the pipe is closed, and of the status with
which the child exits. -/
def awaitReady (written : List UInt8) (status : String) : Except Error Unit :=
  let message := written.take (ready.length + 1)
  if message = ready then .ok ()
  else if message ≠ [] then .error .invalidReady
  else .error (.childFailed status)

/-- Nothing but the whole message and the end of it counts as ready. -/
theorem awaitReady_eq_ok (written : List UInt8) (status : String) :
    awaitReady written status = .ok () ↔ written = ready := by
  simp only [awaitReady]
  constructor
  · intro isOk
    split at isOk
    next isReady =>
      have isShort : written.length ≤ ready.length := by
        have length := congrArg List.length isReady
        rw [List.length_take] at length
        omega
      rw [← isReady, List.take_of_length_le (by omega)]
    next =>
      split at isOk
      next => cases isOk
      next => cases isOk
  · intro isReady
    rw [isReady, List.take_of_length_le (by omega), if_pos rfl]

/-! ## The descriptors at the start of the child -/

/-- The descriptor that the environment names is open, and a duplicate of it is out of the way. -/
structure Preserved (table next : Table (Opened File)) (value : List UInt8) (copy : Nat) (file : Opened File) :
    Prop where
  named : ∃ fd entry, rawFd value = some fd ∧ 0 ≤ fd ∧ table fd.toNat = some entry ∧ entry.file = file
  away : 64 ≤ copy
  free : table copy = none
  isNext : next = Function.update table copy (some ⟨file, true⟩)

theorem preserveWaylandSocket_eq_ok {table next : Table (Opened File)} {limit : Nat} {environment : Environment}
    {wayland : Option Nat} (preserves : preserveWaylandSocket table limit environment = .ok (wayland, next)) :
    (environment.lookup waylandSocket = none ∧ wayland = none ∧ next = table) ∨
      ∃ value copy file, environment.lookup waylandSocket = some value ∧ wayland = some copy ∧
        Preserved table next value copy file := by
  unfold preserveWaylandSocket at preserves
  split at preserves
  next isNone =>
    cases preserves
    exact .inl ⟨isNone, rfl, rfl⟩
  next value isValue =>
    split at preserves
    next => cases preserves
    next fd isFd =>
      obtain ⟨isNumber, isDescriptor⟩ := Option.filter_eq_some_iff.mp isFd
      split at preserves
      next => cases preserves
      next copy duplicated duplicates =>
        cases preserves
        obtain ⟨entry, isOpen, away, _, free, isNext⟩ := duplicate_eq_some duplicates
        exact .inr ⟨value, copy, entry.file, isValue, rfl,
          { named := ⟨fd, entry, isNumber, by simpa using isDescriptor, isOpen, rfl⟩
            away, free, isNext }⟩

theorem ensureNotChildReadyFd_eq_ok {table next : Table (Opened File)} {limit fd writer : Nat}
    {entry : Entry (Opened File)} (isOpen : table fd = some entry)
    (ensures : ensureNotChildReadyFd table limit fd = .ok (writer, next)) :
    (fd ≠ childReadyFd ∧ writer = fd ∧ next = table) ∨
      (fd = childReadyFd ∧ childReadyFd < writer ∧ table writer = none ∧
        next = close (Function.update table writer (some { entry with closeOnExec := true })) fd) := by
  unfold ensureNotChildReadyFd at ensures
  split at ensures
  next moved =>
    cases ensures
    exact .inl ⟨moved, rfl, rfl⟩
  next unlucky =>
    rw [not_not] at unlucky
    split at ensures
    next => cases ensures
    next copy duplicated duplicates =>
      cases ensures
      obtain ⟨_, isEntry, above, _, free, isNext⟩ := duplicate_eq_some duplicates
      rw [isOpen] at isEntry
      cases isEntry
      exact .inr ⟨unlucky, above, free, by rw [isNext]⟩

/-- What is open before the pipe is: nothing yet is an end of it. -/
structure Kept (original table : Table (Opened File)) (wayland : Option (Nat × Opened File)) : Prop where
  isWayland : ∀ copy file, wayland = some (copy, file) → 64 ≤ copy ∧ table copy = some ⟨file, true⟩
  low : ∀ fd < 3, table fd = original fd
  noWriter : ∀ fd entry, table fd = some entry → entry.file ≠ .readyWriter

/-- What is open right before the child is spawned. -/
structure Prepared (original table : Table (Opened File)) (reader writer : Nat) (wayland : Option (Nat × Opened File)) :
    Prop where
  isWriter : table writer = some ⟨.readyWriter, true⟩
  moved : writer ≠ childReadyFd
  readerFree : reader < 3 → original reader = none
  writerFree : writer < 3 → original writer = none
  isWayland : ∀ copy file, wayland = some (copy, file) → 64 ≤ copy ∧ table copy = some ⟨file, true⟩
  low : ∀ fd < 3, fd ≠ reader → fd ≠ writer → table fd = original fd
  onlyWriter : ∀ fd entry, table fd = some entry → entry.file = .readyWriter → fd = writer

theorem Preserved.kept {table next : Table (Opened File)} {value : List UInt8} {copy : Nat} {file : Opened File}
    (preserved : Preserved table next value copy file)
    (noWriter : ∀ fd entry, table fd = some entry → entry.file ≠ .readyWriter) :
    Kept table next (some (copy, file)) := by
  obtain ⟨_, source, _, _, isOpen, isFile⟩ := preserved.named
  refine { isWayland := ?_, low := ?_, noWriter := ?_ }
  · intro other there isCopy
    cases isCopy
    exact ⟨preserved.away, by rw [preserved.isNext, Function.update_self]⟩
  · intro fd below
    have apart : fd ≠ copy := by
      have := preserved.away
      omega
    rw [preserved.isNext, Function.update_of_ne apart]
  · intro fd entry isEntry
    rw [preserved.isNext] at isEntry
    by_cases isCopy : fd = copy
    · rw [isCopy, Function.update_self] at isEntry
      cases isEntry
      rw [← isFile]
      exact noWriter _ source isOpen
    · rw [Function.update_of_ne isCopy] at isEntry
      exact noWriter fd entry isEntry

theorem Kept.prepared {original table opened next : Table (Opened File)} {limit reader first writer : Nat}
    {wayland : Option (Nat × Opened File)} (kept : Kept original table wayland)
    (opens : openPair table limit .readyReader .readyWriter = some (reader, first, opened))
    (ensures : ensureNotChildReadyFd opened limit first = .ok (writer, next)) :
    Prepared original next reader writer wayland := by
  obtain ⟨_, _, apart, readerFree, firstFree, isOpened⟩ := openPair_eq_some opens
  have isFirst : opened first = some ⟨.readyWriter, true⟩ := by rw [isOpened, Function.update_self]
  have isReader : opened reader = some ⟨.readyReader, true⟩ := by
    rw [isOpened, Function.update_of_ne apart, Function.update_self]
  have before : ∀ fd, fd ≠ reader → fd ≠ first → opened fd = table fd := by
    intro fd notReader notFirst
    rw [isOpened, Function.update_of_ne notFirst, Function.update_of_ne notReader]
  have isWayland : ∀ copy file, wayland = some (copy, file) →
      64 ≤ copy ∧ copy ≠ first ∧ opened copy = some ⟨file, true⟩ := by
    intro copy file isCopy
    obtain ⟨away, isOpen⟩ := kept.isWayland copy file isCopy
    have notReader : copy ≠ reader := by
      intro same
      rw [same, readerFree] at isOpen
      cases isOpen
    have notFirst : copy ≠ first := by
      intro same
      rw [same, firstFree] at isOpen
      cases isOpen
    exact ⟨away, notFirst, by rw [before copy notReader notFirst, isOpen]⟩
  have onlyWriter : ∀ fd entry, opened fd = some entry → entry.file = .readyWriter → fd = first := by
    intro fd entry isEntry isWriter
    by_contra notFirst
    by_cases same : fd = reader
    · rw [same, isReader] at isEntry
      cases isEntry
      cases isWriter
    · rw [before fd same notFirst] at isEntry
      exact kept.noWriter fd entry isEntry isWriter
  have readerWasFree : reader < 3 → original reader = none := by
    intro below
    rw [← kept.low reader below, readerFree]
  obtain ⟨moved, rfl, rfl⟩ | ⟨isThree, above, free, isNext⟩ := ensureNotChildReadyFd_eq_ok isFirst ensures
  · exact
      { isWriter := isFirst, moved, readerFree := readerWasFree, onlyWriter
        writerFree := by
          intro below
          rw [← kept.low _ below, firstFree]
        isWayland := by
          intro copy file isCopy
          obtain ⟨away, _, isOpen⟩ := isWayland copy file isCopy
          exact ⟨away, isOpen⟩
        low := by
          intro fd below notReader notWriter
          rw [before fd notReader notWriter, kept.low fd below] }
  · have notFirst : writer ≠ first := by omega
    have after : ∀ fd, fd ≠ writer → fd ≠ first → next fd = opened fd := by
      intro fd notWriter notFirst
      rw [isNext, close, Function.update_of_ne notFirst, Function.update_of_ne notWriter]
    have isClosed : next first = none := by rw [isNext, close, Function.update_self]
    exact
      { isWriter := by rw [isNext, close, Function.update_of_ne notFirst, Function.update_self]
        moved := by omega
        readerFree := readerWasFree
        writerFree := by
          intro below
          simp only [childReadyFd] at above
          omega
        isWayland := by
          intro copy file isCopy
          obtain ⟨away, notOpened, isOpen⟩ := isWayland copy file isCopy
          have notWriter : copy ≠ writer := by
            intro same
            rw [same, free] at isOpen
            cases isOpen
          exact ⟨away, by rw [after copy notWriter notOpened, isOpen]⟩
        low := by
          intro fd below notReader notWriter
          have notOpened : fd ≠ first := by
            simp only [childReadyFd] at isThree
            omega
          rw [after fd notWriter notOpened, before fd notReader notOpened, kept.low fd below]
        onlyWriter := by
          intro fd entry isEntry isWriter
          by_contra notWriter
          by_cases same : fd = first
          · rw [same, isClosed] at isEntry
            cases isEntry
          · rw [after fd notWriter same] at isEntry
            exact same (onlyWriter fd entry isEntry isWriter) }

/-! ## The descriptors of the child -/

/-- The table after the duplications: the descriptors of the child are in place. -/
structure Placed (table placed : Table (Opened File)) (wayland : Option (Nat × Opened File)) : Prop where
  ready : placed childReadyFd = some ⟨.readyWriter, false⟩
  connected : ∀ kept, wayland = some kept → placed childWaylandFd = some ⟨kept.2, false⟩
  low : ∀ fd < 3, placed fd = table fd

theorem Prepared.placed {original table first placed : Table (Opened File)} {limit reader writer : Nat}
    {wayland : Option (Nat × Opened File)} (prepared : Prepared original table reader writer wayland)
    (readies : (FileAction.dup2 writer childReadyFd).run limit table = some first)
    (connects : ((wayland.map (·.1)).toList.map fun fd => .dup2 fd childWaylandFd).foldlM
      (FileAction.run limit) first = some placed) : Placed table placed wayland := by
  obtain ⟨entry, isEntry, isFirst⟩ := run_dup2 readies
  rw [prepared.isWriter] at isEntry
  cases isEntry
  have isReady : first childReadyFd = some ⟨.readyWriter, false⟩ := by rw [isFirst, Function.update_self]
  have others : ∀ fd, fd ≠ childReadyFd → first fd = table fd := by
    intro fd notReady
    rw [isFirst, Function.update_of_ne notReady]
  have low : ∀ fd < 3, first fd = table fd := by
    intro fd below
    exact others fd (by simp only [childReadyFd]; omega)
  cases wayland with
  | none =>
    cases connects
    exact { ready := isReady, connected := by simp, low }
  | some kept =>
    obtain ⟨away, isKept⟩ := prepared.isWayland kept.1 kept.2 rfl
    simp only [Option.map_some, Option.toList_some, List.map_cons, List.map_nil, List.foldlM_cons, List.foldlM_nil,
      Option.bind_eq_bind, Option.bind_eq_some_iff, Option.pure_def, Option.some.injEq] at connects
    obtain ⟨_, connects, rfl⟩ := connects
    obtain ⟨entry, isEntry, rfl⟩ := run_dup2 connects
    rw [others kept.1 (by simp only [childReadyFd]; omega), isKept] at isEntry
    cases isEntry
    refine { ready := ?_, connected := ?_, low := ?_ }
    · rw [Function.update_of_ne (by decide), isReady]
    · intro other isOther
      cases isOther
      rw [Function.update_self]
    · intro fd below
      rw [Function.update_of_ne (by simp only [childWaylandFd]; omega), low fd below]

/-- The table after all of the actions. -/
theorem Prepared.acted {original table child : Table (Opened File)} {limit reader writer : Nat}
    {wayland : Option (Nat × Opened File)} (prepared : Prepared original table reader writer wayland)
    (spawns : spawn limit (spawnActions reader writer (wayland.map (·.1))) table = some child) :
    ∃ placed last, Placed table placed wayland ∧ child = exec last ∧
      ∀ fd, last fd =
        if (if wayland.isSome then 5 else 4) ≤ fd then none
        else if fd = writer ∧ writer ≠ childReadyFd ∧ (!wayland.isSome ∨ writer ≠ childWaylandFd) then none
        else if fd = reader ∧ reader ≠ childReadyFd ∧ (!wayland.isSome ∨ reader ≠ childWaylandFd) then none
        else placed fd := by
  simp only [spawn, spawnActions, List.cons_append, List.foldlM_cons, List.foldlM_append, List.foldlM_nil,
    Option.map_eq_some_iff, Option.bind_eq_bind, Option.bind_eq_some_iff, Option.pure_def, Option.some.injEq] at spawns
  obtain ⟨_, ⟨first, readies, fourth, ⟨third, ⟨placed, connects, closesReader⟩, closesWriter⟩, last, closesRest, rfl⟩,
    rfl⟩ := spawns
  refine ⟨placed, last, prepared.placed readies connects, rfl, ?_⟩
  intro fd
  have isThird := run_close_of closesReader fd
  have isFourth := run_close_of closesWriter fd
  simp only [Option.isSome_map] at isThird isFourth
  simp only [FileAction.run, Option.some.injEq, Option.isSome_map] at closesRest
  simp only [← closesRest, isFourth, isThird]

theorem Prepared.child {original table child : Table (Opened File)} {limit reader writer : Nat}
    {wayland : Option (Nat × Opened File)} (prepared : Prepared original table reader writer wayland)
    (spawns : spawn limit (spawnActions reader writer (wayland.map (·.1))) table = some child) :
    child childReadyFd = some ⟨.readyWriter, false⟩ ∧
      child childWaylandFd = (wayland.map fun kept => ⟨kept.2, false⟩) ∧
      (∀ fd < 3, child fd = exec original fd) ∧ ∀ fd ≥ 5, child fd = none := by
  obtain ⟨placed, last, isPlaced, rfl, isLast⟩ := prepared.acted spawns
  refine ⟨?_, ?_, ?_, ?_⟩
  · have below : ¬(if wayland.isSome then 5 else 4) ≤ childReadyFd := by
      simp only [childReadyFd]
      split <;> omega
    have isReady : last childReadyFd = some ⟨.readyWriter, false⟩ := by
      rw [isLast, if_neg below, if_neg (fun closes => closes.2.1 closes.1.symm),
        if_neg (fun closes => closes.2.1 closes.1.symm), isPlaced.ready]
    simp [exec, isReady]
  · cases wayland with
    | none =>
      have isClosed : last childWaylandFd = none := isLast childWaylandFd
      simp [exec, isClosed]
    | some kept =>
      have isOpen : last childWaylandFd = some ⟨kept.2, false⟩ := by
        rw [isLast, if_neg (by simp [childWaylandFd]), if_neg, if_neg, isPlaced.connected kept rfl]
        · intro ⟨same, _, reserved⟩
          exact reserved.elim (by simp) fun moved => moved same.symm
        · intro ⟨same, _, reserved⟩
          exact reserved.elim (by simp) fun moved => moved same.symm
      simp [exec, isOpen]
  · intro fd below
    have isLow : ¬(if wayland.isSome then 5 else 4) ≤ fd := by split <;> omega
    have closes : ∀ other, fd = other → other ≠ childReadyFd ∧ (!wayland.isSome ∨ other ≠ childWaylandFd) := by
      intro other same
      simp only [childReadyFd, childWaylandFd]
      exact ⟨by omega, .inr (by omega)⟩
    have isOriginal : last fd = original fd := by
      rw [isLast, if_neg isLow]
      by_cases isWriter : fd = writer
      · rw [if_pos ⟨isWriter, closes writer isWriter⟩, isWriter, prepared.writerFree (by omega)]
      · rw [if_neg (fun closed => isWriter closed.1)]
        by_cases isReader : fd = reader
        · rw [if_pos ⟨isReader, closes reader isReader⟩, isReader, prepared.readerFree (by omega)]
        · rw [if_neg (fun closed => isReader closed.1), isPlaced.low fd below, prepared.low fd below isReader isWriter]
    simp only [exec, isOriginal]
  · intro fd above
    have isHigh : (if wayland.isSome then 5 else 4) ≤ fd := by split <;> omega
    simp only [exec, isLast, if_pos isHigh, Option.filter_none]

/-! ## The environment of the child -/

theorem lookup_filter_ne (environment : Environment) (key other : List UInt8) :
    (environment.filter fun entry => entry.1 != key).lookup other =
      if other = key then none else environment.lookup other := by
  induction environment with
  | nil => simp
  | cons entry rest inductionHypothesis =>
    obtain ⟨name, value⟩ := entry
    by_cases isKey : name = key
    · rw [List.filter_cons_of_neg (by simp [isKey]), inductionHypothesis, List.lookup_cons]
      by_cases isOther : other = key
      · simp [isOther]
      · have apart : (other == name) = false := by simp [isKey, isOther]
        rw [apart]
    · rw [List.filter_cons_of_pos (by simp [isKey]), List.lookup_cons, List.lookup_cons, inductionHypothesis]
      by_cases isName : other = name
      · simp [isName, isKey]
      · have apart : (other == name) = false := by simp [isName]
        rw [apart]

theorem childEnvironment_lookup (environment : Environment) (hasWaylandSocket : Bool) (key : List UInt8) :
    (childEnvironment environment hasWaylandSocket).lookup key =
      if key = waylandSocket then (if hasWaylandSocket then some "4".toUTF8.toList else none)
      else environment.lookup key := by
  rw [childEnvironment, List.lookup_append, lookup_filter_ne]
  by_cases isKey : key = waylandSocket
  · cases hasWaylandSocket with
    | false => simp [isKey]
    | true => simp [isKey]
  · have apart : (key == waylandSocket) = false := by simp [isKey]
    cases hasWaylandSocket with
    | false => simp [isKey]
    | true => simp [isKey, List.lookup_cons, apart]

/-! ## The hand-over -/

/-- What a locker is launched with, and what the launcher keeps. -/
structure HandedDown (table : Table File) (environment : Environment) (launched : Launched File) : Prop where
  /-- The standard streams are those of the launcher. -/
  standard : ∀ fd < 3, launched.child fd = exec (table.map .inherited) fd
  ready : launched.child childReadyFd = some ⟨.readyWriter, false⟩
  unconnected : environment.lookup waylandSocket = none → launched.child childWaylandFd = none
  connected : ∀ value, environment.lookup waylandSocket = some value →
    ∃ fd entry, rawFd value = some fd ∧ 0 ≤ fd ∧ table fd.toNat = some entry ∧
      launched.child childWaylandFd = some ⟨.inherited entry.file, false⟩
  nothingElse : ∀ fd ≥ 5, launched.child fd = none
  environment : ∀ key, launched.environment.lookup key =
    if key = waylandSocket then (environment.lookup key).map fun _ => "4".toUTF8.toList
    else environment.lookup key
  /-- No write end stays with the launcher: its reading ends when the locker closes the one it has. -/
  released : ∀ fd entry, launched.launcher fd = some entry → entry.file ≠ .readyWriter

theorem noWriter_map (table : Table File) (fd : Nat) (entry : Entry (Opened File))
    (isEntry : table.map .inherited fd = some entry) : entry.file ≠ .readyWriter := by
  obtain ⟨_, _, rfl⟩ := Option.map_eq_some_iff.mp isEntry
  simp

/-- What is kept of the connection is what the environment names. -/
theorem preserveWaylandSocket_kept {table : Table File} {next : Table (Opened File)} {limit : Nat}
    {environment : Environment} {wayland : Option Nat}
    (preserves : preserveWaylandSocket (table.map .inherited) limit environment = .ok (wayland, next)) :
    ∃ kept, wayland = Option.map Prod.fst kept ∧ Kept (table.map .inherited) next kept ∧
      (environment.lookup waylandSocket).isSome = kept.isSome ∧
      ∀ value, environment.lookup waylandSocket = some value →
        ∃ fd entry copy, rawFd value = some fd ∧ 0 ≤ fd ∧ table fd.toNat = some entry ∧
          kept = some (copy, .inherited entry.file) := by
  obtain ⟨isNone, rfl, rfl⟩ | ⟨value, copy, file, isValue, rfl, preserved⟩ := preserveWaylandSocket_eq_ok preserves
  · refine ⟨none, rfl, ?_, by simp [isNone], by simp [isNone]⟩
    exact { isWayland := by simp, low := fun _ _ => rfl, noWriter := noWriter_map table }
  · refine ⟨some (copy, file), rfl, preserved.kept (noWriter_map table), by simp [isValue], ?_⟩
    intro other isOther
    rw [isValue] at isOther
    cases isOther
    obtain ⟨fd, _, isFd, nonnegative, isOpen, rfl⟩ := preserved.named
    obtain ⟨entry, isEntry, rfl⟩ := Option.map_eq_some_iff.mp isOpen
    exact ⟨fd, entry, copy, isFd, nonnegative, isEntry, rfl⟩

theorem HandedDown.of_launch (table : Table File) (limit : Nat) (environment : Environment) (starts : Bool)
    (launched : Launched File) (launches : launch table limit environment starts = .ok launched) :
    HandedDown table environment launched := by
  obtain ⟨⟨wayland, keptTable⟩, preserves, launches⟩ := Results.bind_eq_ok.mp launches
  obtain ⟨kept, rfl, isKept, isSet, named⟩ := preserveWaylandSocket_kept preserves
  dsimp only at launches
  split at launches
  next => cases launches
  next reader first opened opens =>
    obtain ⟨⟨writer, moved⟩, ensures, launches⟩ := Results.bind_eq_ok.mp launches
    have prepared := isKept.prepared opens ensures
    dsimp only at launches
    split at launches
    next => cases launches
    next child spawns =>
      split at launches
      next =>
        cases launches
        obtain ⟨ready, wayland, standard, nothingElse⟩ := prepared.child spawns
        refine
          { standard, ready, nothingElse
            unconnected := ?_, connected := ?_, environment := ?_, released := ?_ }
        · intro isNone
          rw [isNone] at isSet
          have isUnset : kept = none := by simpa using isSet.symm
          rw [isUnset] at wayland
          exact wayland
        · intro value isValue
          obtain ⟨fd, entry, copy, isFd, nonnegative, isEntry, rfl⟩ := named value isValue
          exact ⟨fd, entry, isFd, nonnegative, isEntry, wayland⟩
        · intro key
          rw [childEnvironment_lookup, Option.isSome_map, ← isSet]
          by_cases isKey : key = waylandSocket
          · rw [if_pos isKey, if_pos isKey, isKey]
            cases environment.lookup waylandSocket with
            | none => rfl
            | some _ => rfl
          · rw [if_neg isKey, if_neg isKey]
        · intro fd entry isEntry isWriter
          change close moved writer fd = some entry at isEntry
          by_cases same : fd = writer
          · rw [same, close, Function.update_self] at isEntry
            cases isEntry
          · rw [close, Function.update_of_ne same] at isEntry
            exact same (prepared.onlyWriter fd entry isEntry isWriter)
      next => cases launches

theorem HandedDown.onlyWriter {table : Table File} {environment : Environment} {launched : Launched File}
    (handedDown : HandedDown table environment launched) {fd : Nat} {entry : Entry (Opened File)}
    (isEntry : launched.child fd = some entry) (isWriter : entry.file = .readyWriter) : fd = childReadyFd := by
  by_contra notReady
  by_cases isLow : fd < 3
  · rw [handedDown.standard fd isLow] at isEntry
    obtain ⟨isInherited, _⟩ := Option.filter_eq_some_iff.mp isEntry
    exact noWriter_map table fd entry isInherited isWriter
  by_cases isHigh : 5 ≤ fd
  · rw [handedDown.nothingElse fd isHigh] at isEntry
    cases isEntry
  have isWayland : fd = childWaylandFd := by
    simp only [childReadyFd, childWaylandFd] at notReady ⊢
    omega
  rw [isWayland] at isEntry
  cases isSet : environment.lookup waylandSocket with
  | none =>
    rw [handedDown.unconnected isSet] at isEntry
    cases isEntry
  | some value =>
    obtain ⟨_, _, _, _, _, isConnected⟩ := handedDown.connected value isSet
    rw [isConnected] at isEntry
    cases isEntry
    cases isWriter

/-- The locker finds a writable descriptor where it is told to look for one. -/
theorem HandedDown.adopts {table : Table File} {environment : Environment} {launched : Launched File}
    (handedDown : HandedDown table environment launched) (writable : File → Bool) {limit : Nat} (roomy : 5 < limit) :
    ∃ copy, copy ≠ childReadyFd ∧ adoptReadyFd (Opened.writable writable) launched.child limit childReadyFd =
      (.ok copy, close (Function.update launched.child copy (some ⟨.readyWriter, true⟩)) childReadyFd) := by
  obtain ⟨copy, isFree, duplicates⟩ :=
    exists_duplicate handedDown.ready (handedDown.nothingElse 5 le_rfl) (show 3 ≤ 5 by omega) roomy
  have moved : copy ≠ childReadyFd := by
    intro same
    rw [same, handedDown.ready] at isFree
    cases isFree
  refine ⟨copy, moved, ?_⟩
  rw [adoptReadyFd, duplicates]
  simp only [Function.update_self, Option.any_some, Opened.writable, if_true]

theorem launch_hands_over (table : Table File) (limit : Nat) (environment : Environment) (starts : Bool)
    (launched : Launched File) (launches : launch table limit environment starts = .ok launched)
    (writable : File → Bool) (childLimit : Nat) (roomy : 5 < childLimit) :
    HandedDown table environment launched ∧
      ∃ copy adopted,
        adoptReadyFd (Opened.writable writable) launched.child childLimit childReadyFd = (.ok copy, adopted) ∧
          adopted copy = some ⟨.readyWriter, true⟩ ∧
          (∀ fd entry, adopted fd = some entry → entry.file = .readyWriter → fd = copy) ∧
          (∀ fd entry, exec adopted fd = some entry → entry.file ≠ .readyWriter) ∧
          ∀ written status, awaitReady written status = .ok () ↔ written = ready := by
  have handedDown := HandedDown.of_launch table limit environment starts launched launches
  obtain ⟨copy, moved, adopts⟩ := handedDown.adopts writable roomy
  have isCopy : close (Function.update launched.child copy (some ⟨.readyWriter, true⟩)) childReadyFd copy =
      some ⟨.readyWriter, true⟩ := by
    rw [close, Function.update_of_ne moved, Function.update_self]
  have onlyCopy : ∀ fd entry,
      close (Function.update launched.child copy (some ⟨.readyWriter, true⟩)) childReadyFd fd = some entry →
        entry.file = .readyWriter → fd = copy := by
    intro fd entry isEntry isWriter
    by_contra notCopy
    by_cases isReady : fd = childReadyFd
    · rw [isReady, close, Function.update_self] at isEntry
      cases isEntry
    · rw [close, Function.update_of_ne isReady, Function.update_of_ne notCopy] at isEntry
      exact isReady (handedDown.onlyWriter isEntry isWriter)
  refine ⟨handedDown, copy, _, adopts, isCopy, onlyCopy, ?_, awaitReady_eq_ok⟩
  intro fd entry isEntry isWriter
  obtain ⟨isOpen, stays⟩ := Option.filter_eq_some_iff.mp isEntry
  rw [onlyCopy fd entry isOpen isWriter, isCopy] at isOpen
  cases isOpen
  cases stays

/-- No standard error, and a connection at seven. -/
def sampleTable : Table String := fun fd =>
  if fd = 0 ∨ fd = 1 then some ⟨"/dev/tty", false⟩ else if fd = 7 then some ⟨"wayland", false⟩ else none

/-- The second value is not text. -/
def sampleEnvironment : Environment := [("HOME".toUTF8.toList, [0x2F, 0xFF]), (waylandSocket, "7".toUTF8.toList)]

/-- The write end is first the descriptor of the child, and has to move away from it. -/
theorem launch_hands_over_sample :
    ∃ launched : Launched String, launch sampleTable 1024 sampleEnvironment true = .ok launched ∧
      launched.child 3 = some ⟨.readyWriter, false⟩ ∧
      launched.child 4 = some ⟨.inherited "wayland", false⟩ := by
  have succeeds : (launch sampleTable 1024 sampleEnvironment true).toOption.isSome = true := by decide +kernel
  obtain ⟨launched, launches⟩ := Option.isSome_iff_exists.mp succeeds
  rw [Results.toOption_eq_some] at launches
  have handedDown :=
    (launch_hands_over sampleTable 1024 sampleEnvironment true launched launches (fun _ => true) 1024
      (by decide)).1
  obtain ⟨fd, entry, isFd, _, isEntry, isConnected⟩ :=
    handedDown.connected "7".toUTF8.toList (by decide +kernel)
  have isSeven : rawFd "7".toUTF8.toList = some 7 := by decide +kernel
  cases isFd.symm.trans isSeven
  cases isEntry
  exact ⟨launched, launches, handedDown.ready, isConnected⟩

end Launcher

end Genkan.Locker
