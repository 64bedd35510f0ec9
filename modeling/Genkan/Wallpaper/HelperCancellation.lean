import Genkan.Wallpaper.Relay
import Genkan.Foundations.TransitionSystem
import Mathlib.Data.List.Basic

/-! # The cancellation of the decoding helper

A supervisor thread spawns the helper, reads its frames, kills it and reaps it; the thread that owns
the lock may drop the player at any time.  A section under a lock is one step, and so is each access
to an atomic and each system call.  A panic may unwind the supervisor while its guard is alive.
-/

namespace Genkan.Wallpaper

open Foundations

namespace Helper

/-- What a process was sent. -/
inductive Signal where
  | kill
  | reap
  deriving DecidableEq, Repr

/-! ## The supervisor -/

/-- The read that the supervisor waits in. -/
inductive Read where
  | tag
  | header
  | pixels (width height length : Nat)
  deriving DecidableEq, Repr

/-- What follows an update that was stored. -/
inductive Resume where
  | reading
  | loading
  | returning
  deriving DecidableEq, Repr

inductive Supervisor where
  | spawning
  /-- The child is spawned; before its `stdout` is taken. -/
  | piping
  /-- It has no `stdout`: before the kill, and before the wait. -/
  | killing
  | waiting
  | publishing
  /-- The guard is alive from here on; before the check of `stopping`. -/
  | checking
  | reading (read : Read)
  /-- A whole frame has been read; before the check of `stopping`. -/
  | received (width height : Nat) (pixels : List UInt8)
  | emitting (width height : Nat) (pixels : List UInt8)
  /-- Behind the loop of the reader; before the check of `stopping`. -/
  | leaving
  /-- In `fail_heic`: before the flag is swapped. -/
  | failing (resume : Resume)
  | storing (update : Update) (resume : Resume)
  | counting (resume : Resume)
  | sending (sequence : UInt64) (resume : Resume)
  /-- Before `failed` is loaded. -/
  | loading
  /-- The guard is dropped: before the kill, before the child is taken, and before the wait. -/
  | guardKilling (reported : Bool)
  | guardTaking (reported : Bool)
  | guardWaiting (reported : Bool)
  | reporting
  | returned
  deriving DecidableEq, Repr

/-- Where `HeicPlayer::drop` is. -/
inductive Dropper where
  | alive
  | signalling
  | dropped
  deriving DecidableEq, Repr

/-- `child` says that the slot holds the child, and `signals` is what the helper was sent. -/
structure State where
  supervisor : Supervisor := .spawning
  dropper : Dropper := .alive
  stopping : Bool := false
  child : Bool := false
  shared : HeicShared := {}
  spawned : Bool := false
  signals : List Signal := []
  deriving DecidableEq

/-- What the system answers to a step: whether a call succeeds, and the bytes that fill a read. -/
structure Answer where
  ok : Bool
  bytes : Option (List UInt8)

inductive Label where
  | supervise (answer : Answer)
  | panic
  | drop

namespace State

def signal (state : State) (signal : Signal) : State := { state with signals := state.signals ++ [signal] }

/-- `signal_heic_child`. -/
def signalHeicChild (state : State) : State := if state.child then state.signal .kill else state

def moveTo (state : State) (supervisor : Supervisor) : State := { state with supervisor }

def resume (state : State) : Resume → State
  | .reading => state.moveTo (.reading .tag)
  | .loading => state.moveTo .loading
  | .returning => state.moveTo .returned

/-- One read of `run_heic_reader` returns; a read that fails leaves the loop. -/
def read (state : State) (read : Read) (answer : Answer) : State :=
  match answer.bytes with
  | none => state.moveTo .leaving
  | some bytes =>
    match read with
    | .tag =>
      if bytes = [heicFailedTag] then state.moveTo (.failing .loading)
      else if bytes ≠ [heicFrameTag] then state.moveTo .leaving
      else state.moveTo (.reading .header)
    | .header =>
      let width := headerWidth bytes
      let height := headerHeight bytes
      let length := headerLength bytes
      match expectedFrameBytes width height with
      | none => state.moveTo .leaving
      | some expected =>
        if length ≠ expected then state.moveTo .leaving
        -- The buffer is reserved before anything is read into it.
        else if answer.ok then state.moveTo (.reading (.pixels width height length))
        else state.moveTo .leaving
    | .pixels width height _ => state.moveTo (.received width height bytes)

/-- `supervise_heic_worker` and what it calls. -/
def supervise (state : State) (answer : Answer) : Option State :=
  match state.supervisor with
  | .spawning =>
    if answer.ok then some ({ state with spawned := true }.moveTo .piping)
    else some (state.moveTo (.failing .returning))
  | .piping => some (state.moveTo (if answer.ok then .publishing else .killing))
  | .killing => some ((state.signal .kill).moveTo .waiting)
  | .waiting => some ((state.signal .reap).moveTo (.failing .returning))
  | .publishing => some ({ state with child := true }.moveTo .checking)
  | .checking => some (state.moveTo (if state.stopping then .loading else .reading .tag))
  | .reading read => some (state.read read answer)
  | .received width height pixels =>
    some (state.moveTo (if state.stopping then .leaving else .emitting width height pixels))
  | .emitting width height pixels =>
    if state.shared.failed then some (state.resume .reading)
    else some (state.moveTo (.storing (.frame { width, height, pixels, pts := none }) .reading))
  | .leaving => some (state.moveTo (if state.stopping then .loading else .failing .loading))
  | .failing resume =>
    if state.shared.failed then some (state.resume resume)
    else some ({ state with shared := { state.shared with failed := true } }.moveTo (.storing .failed resume))
  | .storing update resume =>
    some ({ state with shared := { state.shared with pending := some update } }.moveTo (.counting resume))
  | .counting resume =>
    some ({ state with shared := { state.shared with sequence := state.shared.sequence + 1 } }.moveTo
      (.sending (state.shared.sequence + 1) resume))
  | .sending sequence resume =>
    some ({ state with shared := { state.shared with signalled := sequence } }.resume resume)
  | .loading => some (state.moveTo (.guardKilling state.shared.failed))
  | .guardKilling reported => some (state.signalHeicChild.moveTo (.guardTaking reported))
  | .guardTaking reported =>
    if state.child then some ({ state with child := false }.moveTo (.guardWaiting reported))
    else some (state.moveTo (if reported then .reporting else .returned))
  | .guardWaiting reported =>
    some ((state.signal .reap).moveTo (if reported then .reporting else .returned))
  | .reporting => some (state.moveTo .returned)
  | .returned => none

end State

namespace Supervisor

/-- The guard is alive and not being dropped. -/
def guarded : Supervisor → Bool
  | .checking | .reading _ | .received _ _ _ | .emitting _ _ _ | .leaving | .loading => true
  | .failing resume | .storing _ resume | .counting resume | .sending _ resume => resume != .returning
  | _ => false

/-- In `run_heic_reader`. -/
def relaying : Supervisor → Bool
  | .reading _ | .received _ _ _ | .emitting _ _ _ | .leaving => true
  | .failing resume | .storing _ resume | .counting resume | .sending _ resume => resume != .returning
  | _ => false

end Supervisor

namespace State

/-- A panic skips the rest and drops the guard. -/
def panic (state : State) : Option State :=
  if state.supervisor.guarded then some (state.moveTo (.guardKilling false)) else none

/-- `HeicPlayer::drop`. -/
def drop (state : State) : Option State :=
  match state.dropper with
  | .alive => some { state with stopping := true, dropper := .signalling }
  | .signalling => some { state.signalHeicChild with dropper := .dropped }
  | .dropped => none

def next (state : State) : Label → Option State
  | .supervise answer => state.supervise answer
  | .panic => state.panic
  | .drop => state.drop

end State

def system : TransitionSystem State Label := .ofPartial (· = {}) State.next

/-! ## Who has the helper -/

inductive Custody where
  | unborn
  /-- Only the supervisor knows the child, and has not killed it or has. -/
  | held
  | condemned
  /-- The child is in the slot: before the kill of the guard, after it, and taken out for the wait. -/
  | slotted
  | signalled
  | taken
  | ended
  deriving DecidableEq, Repr

def Supervisor.custody : Supervisor → Custody
  | .spawning => .unborn
  | .piping | .killing | .publishing => .held
  | .waiting => .condemned
  | .checking | .reading _ | .received _ _ _ | .emitting _ _ _ | .leaving | .loading | .guardKilling _ => .slotted
  | .failing resume | .storing _ resume | .counting resume | .sending _ resume =>
    if resume = .returning then .ended else .slotted
  | .guardTaking _ => .signalled
  | .guardWaiting _ => .taken
  | .reporting | .returned => .ended

namespace State

/-- The kills that the drop of the player has issued at most. -/
def dropKills (state : State) : Nat := if state.dropper = .dropped then 1 else 0

/-- The helper was sent nothing but kills, within these bounds. -/
def Killed (state : State) (least most : Nat) : Prop :=
  ∃ kills, least ≤ kills ∧ kills ≤ most ∧ state.signals = .replicate kills .kill

/-- The helper was killed and then reaped. -/
def Reaped (state : State) : Prop :=
  ∃ kills, 1 ≤ kills ∧ kills ≤ 1 + state.dropKills ∧ state.signals = .replicate kills .kill ++ [.reap]

def InCustody (state : State) : Custody → Prop
  | .unborn => state.spawned = false ∧ state.child = false ∧ state.signals = []
  | .held => state.spawned = true ∧ state.child = false ∧ state.signals = []
  | .condemned => state.spawned = true ∧ state.child = false ∧ state.signals = [.kill]
  | .slotted => state.spawned = true ∧ state.child = true ∧ state.Killed 0 state.dropKills
  | .signalled => state.spawned = true ∧ state.child = true ∧ state.Killed 1 (1 + state.dropKills)
  | .taken => state.spawned = true ∧ state.child = false ∧ state.Killed 1 (1 + state.dropKills)
  | .ended => state.child = false ∧
      (state.spawned = false ∧ state.signals = [] ∨ state.spawned = true ∧ state.Reaped)

structure Consistent (state : State) : Prop where
  custody : state.InCustody state.supervisor.custody
  stopping : state.dropper ≠ .alive → state.stopping = true
  /-- A player that has been dropped leaves no reader behind with a helper that was not killed. -/
  cancelled : state.dropper = .dropped → state.supervisor.relaying = true → .kill ∈ state.signals

/-- Only the place of the supervisor and the shared updates differ. -/
structure SameHelper (state after : State) : Prop where
  dropper : after.dropper = state.dropper
  stopping : after.stopping = state.stopping
  child : after.child = state.child
  spawned : after.spawned = state.spawned
  signals : after.signals = state.signals

theorem InCustody.same {state after : State} {custody : Custody} (holds : state.InCustody custody)
    (same : SameHelper state after) : after.InCustody custody := by
  obtain ⟨dropper, stopping, child, spawned, signals⟩ := same
  cases custody <;> simpa [InCustody, Killed, Reaped, dropKills, dropper, child, spawned, signals] using holds

theorem Consistent.same {state after : State} (consistent : state.Consistent) (same : SameHelper state after)
    (custody : after.supervisor.custody = state.supervisor.custody)
    (relaying : after.supervisor.relaying = true →
      state.supervisor.relaying = true ∨ state.stopping = false) : after.Consistent where
  custody := custody ▸ consistent.custody.same same
  stopping called := same.stopping.trans (consistent.stopping (same.dropper ▸ called))
  cancelled dropped relays := by
    rw [same.signals]
    rw [same.dropper] at dropped
    cases relaying relays with
    | inl before => exact consistent.cancelled dropped before
    | inr unstopped =>
      have stopped := consistent.stopping (by rw [dropped]; simp)
      rw [unstopped] at stopped
      contradiction

/-! ## Steps -/

theorem read_moves (state : State) (read : Read) (answer : Answer) :
    ∃ supervisor, state.read read answer = state.moveTo supervisor ∧ supervisor.custody = .slotted := by
  simp only [State.read]
  split
  next => exact ⟨_, rfl, rfl⟩
  next bytes _ =>
    cases read with
    | tag =>
      dsimp only
      split
      next => exact ⟨_, rfl, rfl⟩
      next => split <;> exact ⟨_, rfl, rfl⟩
    | header =>
      dsimp only
      split
      next => exact ⟨_, rfl, rfl⟩
      next =>
        split
        next => exact ⟨_, rfl, rfl⟩
        next => split <;> exact ⟨_, rfl, rfl⟩
    | pixels => exact ⟨_, rfl, rfl⟩

/-- A step that changes no more than the place of the supervisor and the shared updates. -/
theorem Consistent.relayed {state after : State} (consistent : state.Consistent) {supervisor : Supervisor}
    (isHere : state.supervisor = supervisor) (same : SameHelper state after)
    (custody : after.supervisor.custody = supervisor.custody)
    (relaying : supervisor.relaying = true ∨ after.supervisor.relaying = false) : after.Consistent := by
  subst isHere
  refine consistent.same same custody fun relays => ?_
  cases relaying with
  | inl before => exact .inl before
  | inr not => rw [not] at relays; contradiction

theorem replicate_concat (kills : Nat) :
    List.replicate kills Signal.kill ++ [.kill] = .replicate (kills + 1) .kill :=
  List.replicate_succ'.symm

theorem Consistent.supervise {state after : State} {answer : Answer} (consistent : state.Consistent)
    (steps : state.supervise answer = some after) : after.Consistent := by
  have custody := consistent.custody
  cases isHere : state.supervisor with
  | spawning =>
    simp only [State.supervise, isHere] at steps
    rw [isHere] at custody
    obtain ⟨spawned, child, signals⟩ := custody
    split at steps <;> cases steps
    next => exact ⟨⟨rfl, child, signals⟩, consistent.stopping, fun _ relays => by contradiction⟩
    next => exact ⟨⟨child, .inl ⟨spawned, signals⟩⟩, consistent.stopping, fun _ relays => by contradiction⟩
  | piping =>
    simp only [State.supervise, isHere, Option.some.injEq] at steps
    cases steps
    split
    next => exact consistent.relayed isHere ⟨rfl, rfl, rfl, rfl, rfl⟩ rfl (.inr rfl)
    next => exact consistent.relayed isHere ⟨rfl, rfl, rfl, rfl, rfl⟩ rfl (.inr rfl)
  | killing =>
    simp only [State.supervise, isHere, Option.some.injEq] at steps
    cases steps
    rw [isHere] at custody
    obtain ⟨spawned, child, signals⟩ := custody
    exact ⟨⟨spawned, child, by simp [State.signal, State.moveTo, signals]⟩, consistent.stopping,
      fun _ relays => by contradiction⟩
  | waiting =>
    simp only [State.supervise, isHere, Option.some.injEq] at steps
    cases steps
    rw [isHere] at custody
    obtain ⟨spawned, child, signals⟩ := custody
    exact ⟨⟨child, .inr ⟨spawned, 1, Nat.le_refl _, Nat.le_add_right _ _, by
      simp [State.signal, State.moveTo, signals]⟩⟩, consistent.stopping, fun _ relays => by contradiction⟩
  | publishing =>
    simp only [State.supervise, isHere, Option.some.injEq] at steps
    cases steps
    rw [isHere] at custody
    obtain ⟨spawned, _, signals⟩ := custody
    exact ⟨⟨spawned, rfl, 0, Nat.le_refl _, Nat.zero_le _, signals⟩, consistent.stopping,
      fun _ relays => by contradiction⟩
  | checking =>
    simp only [State.supervise, isHere, Option.some.injEq] at steps
    cases steps
    split
    next => exact consistent.relayed isHere ⟨rfl, rfl, rfl, rfl, rfl⟩ rfl (.inr rfl)
    next unstopped =>
      refine consistent.same ⟨rfl, rfl, rfl, rfl, rfl⟩ (by rw [isHere]; rfl) fun _ => .inr ?_
      simpa using unstopped
  | reading read =>
    simp only [State.supervise, isHere, Option.some.injEq] at steps
    cases steps
    obtain ⟨supervisor, moves, slotted⟩ := state.read_moves read answer
    rw [moves]
    exact consistent.relayed isHere ⟨rfl, rfl, rfl, rfl, rfl⟩ slotted (.inl rfl)
  | received width height pixels | leaving =>
    simp only [State.supervise, isHere, Option.some.injEq] at steps
    cases steps
    split <;> exact consistent.relayed isHere ⟨rfl, rfl, rfl, rfl, rfl⟩ rfl (.inl rfl)
  | emitting width height pixels =>
    simp only [State.supervise, isHere] at steps
    split at steps <;> cases steps <;>
      exact consistent.relayed isHere ⟨rfl, rfl, rfl, rfl, rfl⟩ rfl (.inl rfl)
  | failing resume =>
    simp only [State.supervise, isHere] at steps
    split at steps <;> cases steps <;> cases resume <;>
      exact consistent.relayed isHere ⟨rfl, rfl, rfl, rfl, rfl⟩ rfl (by first | exact .inl rfl | exact .inr rfl)
  | storing update resume | counting resume | sending sequence resume =>
    simp only [State.supervise, isHere, Option.some.injEq] at steps
    cases steps
    cases resume <;>
      exact consistent.relayed isHere ⟨rfl, rfl, rfl, rfl, rfl⟩ rfl (by first | exact .inl rfl | exact .inr rfl)
  | loading =>
    simp only [State.supervise, isHere, Option.some.injEq] at steps
    cases steps
    exact consistent.relayed isHere ⟨rfl, rfl, rfl, rfl, rfl⟩ rfl (.inr rfl)
  | guardKilling reported =>
    simp only [State.supervise, isHere, Option.some.injEq] at steps
    cases steps
    rw [isHere] at custody
    obtain ⟨spawned, child, kills, _, most, signals⟩ := custody
    rw [signalHeicChild, if_pos child]
    -- The guard adds its kill to those of the drop, which may have come before.
    refine ⟨⟨spawned, child, kills + 1, Nat.le_add_left _ _, ?_, ?_⟩, consistent.stopping,
      fun _ relays => by contradiction⟩
    · change kills + 1 ≤ 1 + state.dropKills
      omega
    · simp only [State.signal, State.moveTo, signals, replicate_concat]
  | guardTaking reported =>
    simp only [State.supervise, isHere] at steps
    rw [isHere] at custody
    obtain ⟨spawned, child, killed⟩ := custody
    rw [if_pos child] at steps
    cases steps
    exact ⟨⟨spawned, rfl, killed⟩, consistent.stopping, fun _ relays => by contradiction⟩
  | guardWaiting reported =>
    simp only [State.supervise, isHere, Option.some.injEq] at steps
    cases steps
    rw [isHere] at custody
    obtain ⟨spawned, child, kills, least, most, signals⟩ := custody
    have reaped : (state.signal .reap).Reaped := ⟨kills, least, most, by simp [State.signal, signals]⟩
    split <;> exact ⟨⟨child, .inr ⟨spawned, reaped⟩⟩, consistent.stopping, fun _ relays => by contradiction⟩
  | reporting =>
    simp only [State.supervise, isHere, Option.some.injEq] at steps
    cases steps
    exact consistent.relayed isHere ⟨rfl, rfl, rfl, rfl, rfl⟩ rfl (.inr rfl)
  | returned => simp [State.supervise, isHere] at steps

theorem slotted_of_guarded {supervisor : Supervisor} (guarded : supervisor.guarded = true) :
    supervisor.custody = .slotted := by
  cases supervisor with
  | failing resume | storing update resume | counting resume | sending sequence resume =>
    have inside : resume ≠ .returning := by simpa [Supervisor.guarded] using guarded
    exact if_neg inside
  | checking | reading | received | emitting | leaving | loading => rfl
  | _ => contradiction

theorem guarded_of_relaying {supervisor : Supervisor} (relaying : supervisor.relaying = true) :
    supervisor.guarded = true := by
  cases supervisor <;> first | rfl | exact relaying

theorem Consistent.panic {state after : State} (consistent : state.Consistent)
    (steps : state.panic = some after) : after.Consistent := by
  simp only [State.panic, Option.ite_none_right_eq_some, Option.some.injEq] at steps
  obtain ⟨guarded, rfl⟩ := steps
  exact consistent.same ⟨rfl, rfl, rfl, rfl, rfl⟩ (slotted_of_guarded guarded).symm
    fun relays => by contradiction

/-- The kill of the drop reaches the child while it is in the slot, and nothing else. -/
theorem InCustody.dropped {state : State} {custody : Custody} (holds : state.InCustody custody)
    (pending : state.dropper = .signalling) :
    ({ state.signalHeicChild with dropper := .dropped } : State).InCustody custody := by
  have none : state.dropKills = 0 := by simp [dropKills, pending]
  have reaches (child : state.child = true) : state.signalHeicChild = state.signal .kill := if_pos child
  have misses (child : state.child = false) : state.signalHeicChild = state := by simp [signalHeicChild, child]
  cases custody with
  | unborn | held | condemned =>
    obtain ⟨spawned, child, signals⟩ := holds
    rw [misses child]
    exact ⟨spawned, child, signals⟩
  | slotted | signalled =>
    obtain ⟨spawned, child, kills, least, most, signals⟩ := holds
    have killed : (state.signal .kill).signals = .replicate (kills + 1) .kill := by
      rw [← replicate_concat, ← signals]
      rfl
    rw [none] at most
    rw [reaches child]
    exact ⟨spawned, child, kills + 1, by omega, Nat.succ_le_succ most, killed⟩
  | taken =>
    obtain ⟨spawned, child, kills, least, most, signals⟩ := holds
    rw [none] at most
    rw [misses child]
    exact ⟨spawned, child, kills, least, Nat.le_succ_of_le most, signals⟩
  | ended =>
    obtain ⟨child, unborn | ⟨spawned, kills, least, most, signals⟩⟩ := holds
    · rw [misses child]
      exact ⟨child, .inl unborn⟩
    · rw [none] at most
      rw [misses child]
      exact ⟨child, .inr ⟨spawned, kills, least, Nat.le_succ_of_le most, signals⟩⟩

theorem Consistent.drop {state after : State} (consistent : state.Consistent)
    (steps : state.drop = some after) : after.Consistent := by
  obtain ⟨custody, stopping, cancelled⟩ := consistent
  simp only [State.drop] at steps
  split at steps
  next alive =>
    cases steps
    refine ⟨?_, fun _ => rfl, fun dropped => by contradiction⟩
    have none : state.dropKills = 0 := by simp [dropKills, alive]
    cases isCustody : state.supervisor.custody <;>
      simpa [InCustody, Killed, Reaped, dropKills, alive, isCustody] using custody
  next signalling =>
    cases steps
    have isSame : state.signalHeicChild.supervisor = state.supervisor ∧
        state.signalHeicChild.stopping = state.stopping := by
      simp only [signalHeicChild]
      split <;> exact ⟨rfl, rfl⟩
    refine ⟨?_, fun _ => ?_, fun _ relays => ?_⟩
    · rw [isSame.1]
      exact custody.dropped signalling
    · exact isSame.2.trans (stopping (by rw [signalling]; simp))
    · -- A reader has its helper in the slot.
      rw [isSame.1] at relays
      rw [slotted_of_guarded (guarded_of_relaying relays)] at custody
      simp [signalHeicChild, custody.2.1, State.signal]
  next => contradiction

end State

theorem consistent_of_reachable {state : State} (reachable : system.Reachable state) : state.Consistent := by
  refine reachable.invariant State.Consistent ?_ ?_
  · rintro state rfl
    exact ⟨⟨rfl, rfl, rfl⟩, fun called => absurd rfl called, fun dropped => by contradiction⟩
  · intro state label after consistent steps
    cases label with
    | supervise answer => exact consistent.supervise steps
    | panic => exact consistent.panic steps
    | drop => exact consistent.drop steps

/-! ## Cancellation -/

theorem reap_last {signals : List Signal} {kills : Nat}
    (isSignals : signals = .replicate kills .kill ∨ signals = .replicate kills .kill ++ [.reap])
    {before after : List Signal} (equal : signals = before ++ .reap :: after) : after = [] := by
  have unreaped : Signal.reap ∉ List.replicate kills Signal.kill := by simp
  rcases isSignals with rfl | rfl
  · exact absurd (equal ▸ by simp) unreaped
  · exact ((List.append_cons_inj_of_notMem unreaped (by simp)).mp equal).2.2.symm

theorem signals_of_custody {state : State} {custody : Custody} (holds : state.InCustody custody) :
    ∃ kills, state.signals = .replicate kills .kill ∨ state.signals = .replicate kills .kill ++ [.reap] := by
  cases custody with
  | unborn | held => exact ⟨0, .inl holds.2.2⟩
  | condemned => exact ⟨1, .inl holds.2.2⟩
  | slotted | signalled | taken =>
    obtain ⟨_, _, kills, _, _, signals⟩ := holds
    exact ⟨kills, .inl signals⟩
  | ended =>
    obtain ⟨_, ⟨_, signals⟩ | ⟨_, kills, _, _, signals⟩⟩ := holds
    · exact ⟨0, .inl signals⟩
    · exact ⟨kills, .inr signals⟩

/-- A dropped player leaves no supervisor waiting for a helper that was not killed, no kill follows the
reap, and a supervisor that has returned has killed its helper, once or twice, and reaped it once. -/
theorem cancellation_reaches_helper {state : State} (reachable : system.Reachable state) :
    (∀ read, state.dropper = .dropped → state.supervisor = .reading read → .kill ∈ state.signals) ∧
    (∀ before after, state.signals = before ++ .reap :: after → after = []) ∧
    (state.supervisor = .returned → state.spawned = true →
      state.signals.count .reap = 1 ∧ 1 ≤ state.signals.count .kill ∧ state.signals.count .kill ≤ 2 ∧
        (state.dropper ≠ .dropped → state.signals.count .kill = 1)) := by
  have consistent := consistent_of_reachable reachable
  refine ⟨?_, ?_, ?_⟩
  · intro read dropped isReading
    exact consistent.cancelled dropped (by rw [isReading]; rfl)
  · intro before after equal
    obtain ⟨kills, isSignals⟩ := signals_of_custody consistent.custody
    exact reap_last isSignals equal
  · intro isReturned spawned
    have custody := consistent.custody
    rw [isReturned] at custody
    obtain ⟨_, ⟨unborn, _⟩ | ⟨_, kills, least, most, signals⟩⟩ := custody
    · rw [spawned] at unborn
      contradiction
    · -- One kill is that of the guard, and another can only be that of the drop.
      have killCount : state.signals.count .kill = kills := by simp [signals]
      have reapCount : state.signals.count .reap = 1 := by simp [signals, List.count_replicate]
      have bounded : state.dropKills ≤ 1 := by
        rw [State.dropKills]
        split <;> omega
      refine ⟨reapCount, by omega, by omega, fun undropped => ?_⟩
      rw [State.dropKills, if_neg undropped] at most
      omega

/-- The player is dropped while the supervisor waits for a frame. -/
def sampleCancellation : List Label :=
  let works : Label := .supervise { ok := true, bytes := none }
  [works, works, works, works, .drop, .drop, works, works, works, works, works, works]

def sampleCancelled : State where
  supervisor := .returned
  dropper := .dropped
  stopping := true
  spawned := true
  signals := [.kill, .kill, .reap]

theorem sampleCancelled_reachable : system.Reachable sampleCancelled :=
  TransitionSystem.reachable_of_labels (.initial rfl) sampleCancellation (by rfl)

/-- The player is dropped, and the supervisor has yet to see the end of its pipe. -/
def sampleReading : State where
  supervisor := .reading .tag
  dropper := .dropped
  stopping := true
  child := true
  spawned := true
  signals := [.kill]

theorem sampleReading_reachable : system.Reachable sampleReading :=
  TransitionSystem.reachable_of_labels (.initial rfl) (sampleCancellation.take 6) (by rfl)

theorem cancellation_reaches_helper_sample :
    .kill ∈ sampleReading.signals ∧
      sampleCancelled.signals.count .reap = 1 ∧ 1 ≤ sampleCancelled.signals.count .kill :=
  have waiting := (cancellation_reaches_helper sampleReading_reachable).1 .tag rfl rfl
  have reaped := (cancellation_reaches_helper sampleCancelled_reachable).2.2 rfl rfl
  ⟨waiting, reaped.1, reaped.2.1⟩

/-- Both the drop of the player and the guard of the supervisor kill the helper. -/
theorem helper_killed_twice :
    ¬ ∀ state, system.Reachable state → state.supervisor = .returned → state.spawned = true →
      state.signals.count .kill = 1 ∧ state.signals.count .reap = 1 :=
  fun claim => absurd (claim _ sampleCancelled_reachable rfl rfl).1 (by decide)

end Helper

end Genkan.Wallpaper
