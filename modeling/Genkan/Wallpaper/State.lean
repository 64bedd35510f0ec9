import Genkan.Foundations.Signalled
import Genkan.Wallpaper.FailureLatch
import Genkan.Wallpaper.HelperCancellation

/-! # The state of the wallpaper

The greeter shows frames of at most one source: the threads of a movie player, or the supervisor of a
decoding helper.  It takes the latest update of the source, has the renderer allocate the frame, and shows
the frame once that is done.
-/

namespace Genkan.Wallpaper

open Foundations Foundations.Threads

/-! ## The movie player -/

namespace Movie

/-- What the step of `takeLatest` does to the shared state. -/
def Shared.takeLatest (shared : Shared) : Shared :=
  { shared with
    state := { shared.state with pending := none }
    taken := shared.taken ++ shared.state.pending.toList }

example (shared : Shared) (now : Nat) :
    step .takeLatest shared now = some (.finished (.took shared.state.pending), shared.takeLatest) := rfl

namespace Operation

def isSending : Operation → Bool
  | .sending _ _ => true
  | _ => false

/-- An update has been stored, and its signal has not been sent. -/
def isNotifying : Operation → Bool
  | .counting _ | .sending _ _ => true
  | _ => false

end Operation

/-- The threads of a player do everything but take its updates, which the greeter does. -/
def publishers : Program Shared Operation Nat where
  starts operation := starts operation && operation != .takeLatest
  step := step

def slot : Slot (Pool Shared Operation) (Label Operation Nat) Update where
  next := publishers.next
  pending pool := pool.shared.state.pending
  take pool := { pool with shared := pool.shared.takeLatest }
  sends pool
    | .start _ => false
    | .advance index _ => pool.threads[index]?.any Operation.isSending
  unsent pool := ∃ operation ∈ pool.threads, operation.isNotifying = true

theorem step_fills {operation operation' : Operation} {shared shared' : Shared} {now : Nat}
    (steps : step operation shared now = some (operation', shared')) (pending : shared'.state.pending ≠ none) :
    shared.state.pending ≠ none ∨ operation'.isNotifying = true := by
  cases operation with
  | publishFrame frame | failOnce =>
    simp only [step] at steps
    split at steps <;> cases steps <;> exact .inl pending
  | publishing frame transition =>
    simp only [step] at steps
    split at steps <;> cases steps
    next => exact .inl pending
    next => exact .inr rfl
  | failing =>
    cases steps
    exact .inr rfl
  | takeLatest =>
    cases steps
    contradiction
  | blending | beginLoopAt | counting | sending =>
    cases steps
    exact .inl pending
  | finished => contradiction

theorem step_remembers {operation operation' : Operation} {shared shared' : Shared} {now : Nat}
    (steps : step operation shared now = some (operation', shared')) (notifying : operation.isNotifying = true) :
    operation.isSending = true ∨ operation'.isNotifying = true := by
  cases operation with
  | counting =>
    cases steps
    exact .inr rfl
  | sending => exact .inl rfl
  | _ => contradiction

theorem publishers_fill {pool after : Pool Shared Operation} {label : Label Operation Nat}
    (steps : publishers.next pool label = some after) (pending : after.shared.state.pending ≠ none) :
    pool.shared.state.pending ≠ none ∨ ∃ operation ∈ after.threads, operation.isNotifying = true := by
  cases Program.next_cases steps with
  | inl starts =>
    obtain ⟨place, _, _, isAfter⟩ := starts
    subst isAfter
    exact .inl pending
  | inr advances =>
    obtain ⟨index, now, operation, operation', shared', _, found, taken, isAfter⟩ := advances
    subst isAfter
    cases step_fills taken pending with
    | inl before => exact .inl before
    | inr notifying => exact .inr ⟨operation', Lists.mem_set_of_found found _, notifying⟩

theorem publishers_remember {pool after : Pool Shared Operation} {label : Label Operation Nat}
    (steps : publishers.next pool label = some after)
    (unsent : ∃ operation ∈ pool.threads, operation.isNotifying = true) :
    slot.sends pool label = true ∨ ∃ operation ∈ after.threads, operation.isNotifying = true := by
  obtain ⟨waiting, member, notifying⟩ := unsent
  cases Program.next_cases steps with
  | inl starts =>
    obtain ⟨place, _, _, isAfter⟩ := starts
    subst isAfter
    exact .inr ⟨waiting, List.mem_append_left _ member, notifying⟩
  | inr advances =>
    obtain ⟨index, now, operation, operation', shared', isLabel, found, taken, isAfter⟩ := advances
    subst isLabel isAfter
    obtain ⟨other, isWaiting⟩ := List.mem_iff_getElem?.mp member
    by_cases same : other = index
    · -- The thread that takes the step is the one with the signal to send.
      subst same
      cases found.symm.trans isWaiting
      cases step_remembers taken notifying with
      | inl sending => exact .inl (by simp [slot, found, sending])
      | inr still => exact .inr ⟨operation', Lists.mem_set_of_found found _, still⟩
    · exact .inr ⟨waiting, Lists.mem_set_of_ne isWaiting same, notifying⟩

theorem slot_lawful : slot.Lawful where
  takes _ := rfl
  fills := publishers_fill
  remembers := publishers_remember

end Movie

/-! ## The supervisor of the helper -/

namespace Helper

namespace Supervisor

def isSending : Supervisor → Bool
  | .sending _ _ => true
  | _ => false

def isNotifying : Supervisor → Bool
  | .counting _ | .sending _ _ => true
  | _ => false

end Supervisor

def slot : Slot State Answer Update where
  next := State.supervise
  pending state := state.shared.pending
  take state := { state with shared := state.shared.takeLatest.2 }
  sends state _ := state.supervisor.isSending
  unsent state := state.supervisor.isNotifying = true

@[simp] theorem resume_shared (state : State) (resume : Resume) : (state.resume resume).shared = state.shared := by
  cases resume <;> rfl

@[simp] theorem signalHeicChild_shared (state : State) : state.signalHeicChild.shared = state.shared := by
  simp only [State.signalHeicChild]
  split <;> rfl

theorem supervise_fills {state after : State} {answer : Answer} (steps : state.supervise answer = some after)
    (pending : after.shared.pending ≠ none) :
    state.shared.pending ≠ none ∨ after.supervisor.isNotifying = true := by
  cases isHere : state.supervisor with
  | storing update resume =>
    simp only [State.supervise, isHere, Option.some.injEq] at steps
    subst steps
    exact .inr rfl
  | reading read =>
    simp only [State.supervise, isHere, Option.some.injEq] at steps
    obtain ⟨supervisor, moves, _⟩ := state.read_moves read answer
    rw [← steps, moves] at pending
    exact .inl pending
  | spawning | emitting width height pixels | failing resume | guardTaking reported =>
    simp only [State.supervise, isHere] at steps
    split at steps <;> cases steps <;> exact .inl (by simpa [State.moveTo] using pending)
  | returned => simp [State.supervise, isHere] at steps
  | _ =>
    simp only [State.supervise, isHere, Option.some.injEq] at steps
    subst steps
    exact .inl (by simpa [State.moveTo, State.signal] using pending)

theorem supervise_remembers {state after : State} {answer : Answer} (steps : state.supervise answer = some after)
    (unsent : state.supervisor.isNotifying = true) :
    state.supervisor.isSending = true ∨ after.supervisor.isNotifying = true := by
  cases isHere : state.supervisor with
  | counting resume =>
    simp only [State.supervise, isHere, Option.some.injEq] at steps
    subst steps
    exact .inr rfl
  | sending sequence resume => exact .inl rfl
  | _ =>
    rw [isHere] at unsent
    contradiction

theorem slot_lawful : slot.Lawful where
  takes _ := rfl
  fills := supervise_fills
  remembers := supervise_remembers

end Helper

/-! ## Settings and images -/

/-- `heicPath` is the path that `heic_path` finds. -/
structure Settings where
  animate : Bool
  heicPath : Option String
  deriving DecidableEq, Repr

def selectsDynamicHeic (settings : Settings) : Bool := settings.animate && settings.heicPath.isSome

def rendererSupportsDynamicHeic (backend : String) : Bool :=
  match backend with
  | "tiny-skia" | "Null" => false
  | "" => false
  | _ => true

structure Handle where
  width : Nat
  height : Nat
  pixels : List UInt8
  deriving DecidableEq, Repr

def Handle.fromRgba (frame : Frame) : Handle where
  width := frame.width
  height := frame.height
  pixels := frame.pixels

/-- The renderer keeps the image of the handle. -/
structure Allocation where
  handle : Handle
  deriving DecidableEq, Repr

inductive Refresh where
  | unchanged
  | frame
  | failed
  deriving DecidableEq, Repr

/-! ## The state -/

structure State where
  player : Option (Source (Pool Movie.Shared Movie.Operation))
  heic : Option (Source Helper.State)
  poster : Option Handle
  frame : Option Handle
  allocation : Option Allocation
  allocationPending : Bool
  heicAdopted : Bool

namespace State

def posterOnly (poster : Option Handle) : State where
  player := none
  heic := none
  poster := poster
  frame := poster
  allocation := none
  allocationPending := false
  heicAdopted := false

/-- `started` tells whether the source can be started. -/
def startHeic (settings : Settings) (poster : Option Handle) (started : Bool) : State :=
  if !settings.animate then posterOnly poster
  else if started then { posterOnly poster with heic := some (.fresh {}) }
  else posterOnly poster

def start (settings : Settings) (poster : Option Handle) (started : Bool) : State :=
  match settings.heicPath with
  | some _ => startHeic settings poster started
  | none =>
    if !settings.animate then posterOnly poster
    else if started then { posterOnly poster with player := some (.fresh { shared := {}, threads := [] }) }
    else posterOnly poster

def startDeferred (settings : Settings) (poster : Option Handle) (started : Bool) : State :=
  if !selectsDynamicHeic settings then start settings poster started else posterOnly poster

def startHeicSource (state : State) (settings : Settings) (started : Bool) : State :=
  if state.heic.isSome || state.player.isSome || !selectsDynamicHeic settings then state
  else
    match settings.heicPath with
    | none => state
    | some _ => if started then { state with heic := some (.fresh {}) } else state

def takeLatest (state : State) : Option Update × State :=
  match Movie.slot.takeLatest state.player with
  | (some update, player) => (some update, { state with player })
  | (none, player) =>
    let (update, heic) := Helper.slot.takeLatest state.heic
    (update, { state with player, heic })

def noteHeicAdoption (state : State) : State :=
  if state.heic.isNone || state.heicAdopted then state else { state with heicAdopted := true }

def stopPlayback (state : State) : State :=
  { state with allocationPending := false, frame := state.frame.or state.poster, player := none, heic := none }

def hasFailed (state : State) : Bool :=
  state.player.any (fun source => source.filler.shared.failed) ||
    state.heic.any fun source => source.filler.shared.failed

def stopAfterTerminalFailure (state : State) : Bool × State :=
  if !state.hasFailed then (false, state) else (true, state.stopPlayback)

/-- The image that is to be allocated, if there is one. -/
def prepareLatest (state : State) : Option Handle × State :=
  if state.allocationPending then (none, state)
  else
    match state.takeLatest with
    | (none, state) => (none, state)
    | (some (.frame frame), state) => (some (.fromRgba frame), { state with allocationPending := true })
    | (some .failed, state) => (none, state.stopPlayback)

def finishAllocation (state : State) (result : Except String Allocation) : Refresh × State :=
  if !state.allocationPending then (.unchanged, state)
  else
    match { state with allocationPending := false }.stopAfterTerminalFailure with
    | (true, state) => (.failed, state)
    | (false, state) =>
      match result with
      | .ok allocation =>
        (.frame, { state with frame := some allocation.handle, allocation := some allocation }.noteHeicAdoption)
      | .error _ => (.failed, state.stopPlayback)

def hasFrame (state : State) : Bool := state.frame.isSome

def decoderIsStopped (state : State) : Bool := state.player.isNone && state.heic.isNone

/-! ## What is pending -/

/-- The update that `take_latest` would find. -/
def pending (state : State) : Option Update := state.takeLatest.1

/-- A signal is still to be heard of, or to be sent. -/
def Changing (state : State) : Prop :=
  (∃ source, state.player = some source ∧ Movie.slot.Changing source) ∨
    ∃ source, state.heic = some source ∧ Helper.slot.Changing source

/-- There is at most one source, and nothing is waited for without one. -/
structure Single (state : State) : Prop where
  exclusive : state.player = none ∨ state.heic = none
  awaited : state.decoderIsStopped = true → state.allocationPending = false

/-- Every source has its update covered. -/
structure Covered (owed : Prop) (state : State) : Prop where
  player : ∀ {source}, state.player = some source → Movie.slot.Covered owed source
  heic : ∀ {source}, state.heic = some source → Helper.slot.Covered owed source

variable {state after : State} {owed : Prop}

theorem Covered.mono {later : Prop} (covered : state.Covered owed) (keeps : owed → later) :
    state.Covered later where
  player isPlayer := (covered.player isPlayer).mono keeps
  heic isHeic := (covered.heic isHeic).mono keeps

theorem Covered.same (covered : state.Covered owed) (player : after.player = state.player)
    (heic : after.heic = state.heic) : after.Covered owed where
  player isPlayer := covered.player (player ▸ isPlayer)
  heic isHeic := covered.heic (heic ▸ isHeic)

/-- A source that has changed is still the one source. -/
theorem Single.advance_player (single : state.Single) {before source} (isPlayer : state.player = some before) :
    { state with player := some source }.Single where
  exclusive := single.exclusive.imp_left fun noPlayer => by rw [noPlayer] at isPlayer; contradiction
  awaited isStopped := by simp [decoderIsStopped] at isStopped

theorem Single.advance_heic (single : state.Single) {before source} (isHeic : state.heic = some before) :
    { state with heic := some source }.Single where
  exclusive := single.exclusive.imp_right fun noHeic => by rw [noHeic] at isHeic; contradiction
  awaited isStopped := by simp [decoderIsStopped] at isStopped

theorem Covered.advance_player (covered : state.Covered owed) {source} (isCovered : Movie.slot.Covered owed source) :
    { state with player := some source }.Covered owed where
  player isPlayer := Option.some.inj isPlayer ▸ isCovered
  heic := covered.heic

theorem Covered.advance_heic (covered : state.Covered owed) {source} (isCovered : Helper.slot.Covered owed source) :
    { state with heic := some source }.Covered owed where
  player := covered.player
  heic isHeic := Option.some.inj isHeic ▸ isCovered

theorem Covered.of_stopped (player : state.player = none) (heic : state.heic = none) : state.Covered owed where
  player isPlayer := by rw [player] at isPlayer; contradiction
  heic isHeic := by rw [heic] at isHeic; contradiction

theorem Covered.of_player {source} (isPlayer : state.player = some source) (noHeic : state.heic = none)
    (covered : Movie.slot.Covered owed source) : state.Covered owed where
  player isOther := Option.some.inj (isPlayer.symm.trans isOther) ▸ covered
  heic isHeic := by rw [noHeic] at isHeic; contradiction

theorem Covered.of_heic {source} (noPlayer : state.player = none) (isHeic : state.heic = some source)
    (covered : Helper.slot.Covered owed source) : state.Covered owed where
  player isPlayer := by rw [noPlayer] at isPlayer; contradiction
  heic isOther := Option.some.inj (isHeic.symm.trans isOther) ▸ covered

theorem takeLatest_of_player {source} (isPlayer : state.player = some source) (noHeic : state.heic = none) :
    state.takeLatest = (Movie.slot.pending source.filler,
      { state with player := some { source with filler := Movie.slot.take source.filler } }) := by
  cases isPending : Movie.slot.pending source.filler <;>
    simp only [takeLatest, isPlayer, Slot.takeLatest, noHeic, isPending]

theorem takeLatest_of_heic {source} (noPlayer : state.player = none) (isHeic : state.heic = some source) :
    state.takeLatest = (Helper.slot.pending source.filler,
      { state with heic := some { source with filler := Helper.slot.take source.filler } }) := by
  simp only [takeLatest, noPlayer, Slot.takeLatest, isHeic]

theorem takeLatest_of_stopped (noPlayer : state.player = none) (noHeic : state.heic = none) :
    state.takeLatest = (none, state) := by
  cases state
  cases noPlayer
  cases noHeic
  rfl

theorem pending_of_player {source} (isPlayer : state.player = some source) (noHeic : state.heic = none) :
    state.pending = Movie.slot.pending source.filler := by
  rw [pending, takeLatest_of_player isPlayer noHeic]

theorem pending_of_heic {source} (noPlayer : state.player = none) (isHeic : state.heic = some source) :
    state.pending = Helper.slot.pending source.filler := by
  rw [pending, takeLatest_of_heic noPlayer isHeic]

theorem pending_of_stopped (noPlayer : state.player = none) (noHeic : state.heic = none) : state.pending = none := by
  rw [pending, takeLatest_of_stopped noPlayer noHeic]

theorem pending_same (player : after.player = state.player) (heic : after.heic = state.heic) :
    after.pending = state.pending := by
  simp only [pending, takeLatest, player, heic]
  split <;> rfl

theorem stopped_iff : state.decoderIsStopped = true ↔ state.player = none ∧ state.heic = none := by
  simp [decoderIsStopped]

/-- Which of the sources there is. -/
theorem sources (exclusive : state.player = none ∨ state.heic = none) :
    (state.player = none ∧ state.heic = none) ∨ (∃ source, state.player = some source ∧ state.heic = none) ∨
      ∃ source, state.player = none ∧ state.heic = some source := by
  cases isPlayer : state.player with
  | none =>
    cases isHeic : state.heic with
    | none => exact .inl ⟨rfl, rfl⟩
    | some source => exact .inr (.inr ⟨source, rfl, rfl⟩)
  | some source =>
    rw [isPlayer] at exclusive
    exact .inr (.inl ⟨source, rfl, exclusive.resolve_left (by simp)⟩)

/-- What is pending is the update of the one source. -/
theorem Covered.of_pending (covered : state.Covered owed) (exclusive : state.player = none ∨ state.heic = none)
    (isPending : state.pending ≠ none) : state.Changing ∨ owed := by
  obtain ⟨player, heic⟩ | ⟨source, player, heic⟩ | ⟨source, player, heic⟩ := sources exclusive
  · exact absurd (pending_of_stopped player heic) isPending
  · rw [pending_of_player player heic] at isPending
    exact ((covered.player player).covered isPending).imp_left fun changing => .inl ⟨source, player, changing⟩
  · rw [pending_of_heic player heic] at isPending
    exact ((covered.heic heic).covered isPending).imp_left fun changing => .inr ⟨source, heic, changing⟩

/-- The update of the one source has been taken, and nothing else has changed. -/
structure Drained (state after : State) : Prop where
  exclusive : after.player = none ∨ after.heic = none
  stopped : after.decoderIsStopped = true ↔ state.decoderIsStopped = true
  empty : after.pending = none
  covered : after.Covered False
  allocationPending : after.allocationPending = state.allocationPending

theorem takeLatest_drained (exclusive : state.player = none ∨ state.heic = none) (covered : state.Covered owed) :
    Drained state state.takeLatest.2 := by
  obtain ⟨player, heic⟩ | ⟨source, player, heic⟩ | ⟨source, player, heic⟩ := sources exclusive
  · rw [takeLatest_of_stopped player heic]
    exact ⟨exclusive, Iff.rfl, pending_of_stopped player heic, .of_stopped player heic, rfl⟩
  · have heard := (covered.player player).heard
    have empty := Movie.slot_lawful.takes source.filler
    rw [takeLatest_of_player player heic]
    refine ⟨.inr heic, by simp [decoderIsStopped, player], ?_, ?_, rfl⟩
    · exact Eq.trans (pending_of_player rfl heic) empty
    · exact .of_player rfl heic (.of_empty heard empty)
  · have heard := (covered.heic heic).heard
    have empty := Helper.slot_lawful.takes source.filler
    rw [takeLatest_of_heic player heic]
    refine ⟨.inl player, by simp [decoderIsStopped, heic], ?_, ?_, rfl⟩
    · exact Eq.trans (pending_of_heic player rfl) empty
    · exact .of_heic player rfl (.of_empty heard empty)

/-! ## What the operations do -/

theorem stopPlayback_hasFrame (hasFrame : state.hasFrame = true) : state.stopPlayback.hasFrame = true := by
  obtain ⟨frame, isFrame⟩ := Option.isSome_iff_exists.mp hasFrame
  simp [State.hasFrame, stopPlayback, isFrame]

/-- What `prepare_latest` leads to when no allocation is waited for. -/
structure Prepared (state : State) (handle : Option Handle) (after : State) : Prop where
  single : after.Single
  empty : after.pending = none
  covered : after.Covered False
  launches : after.allocationPending = true → handle.isSome = true
  hands : ∀ frame, state.pending = some (.frame frame) → handle = some (.fromRgba frame)

theorem prepareLatest_prepared (exclusive : state.player = none ∨ state.heic = none) (covered : state.Covered owed)
    (unawaited : state.allocationPending = false) :
    Prepared state state.prepareLatest.1 state.prepareLatest.2 := by
  cases isTaken : state.takeLatest with
  | mk update taken =>
    have drained : Drained state taken := by
      have drained := takeLatest_drained exclusive covered
      rw [isTaken] at drained
      exact drained
    have isPending : state.pending = update := congrArg Prod.fst isTaken
    cases update with
    | none =>
      simp only [prepareLatest, unawaited, Bool.false_eq_true, if_false, isTaken]
      have unawaited := drained.allocationPending.trans unawaited
      refine ⟨⟨drained.exclusive, fun _ => unawaited⟩, drained.empty, drained.covered, ?_, ?_⟩
      · intro awaited
        rw [unawaited] at awaited
        contradiction
      · intro frame isFrame
        rw [isPending] at isFrame
        contradiction
    | some update =>
      cases update with
      | frame frame =>
        simp only [prepareLatest, unawaited, Bool.false_eq_true, if_false, isTaken]
        refine ⟨⟨drained.exclusive, ?_⟩, ?_, ?_, fun _ => rfl, ?_⟩
        · -- What was taken came from a source, which is still there.
          intro isStopped
          obtain ⟨noPlayer, noHeic⟩ := stopped_iff.mp (drained.stopped.mp isStopped)
          rw [pending_of_stopped noPlayer noHeic] at isPending
          contradiction
        · have same : { taken with allocationPending := true }.pending = taken.pending := pending_same rfl rfl
          exact same.trans drained.empty
        · exact drained.covered.same rfl rfl
        · intro found isFrame
          rw [isPending, Option.some.injEq, Update.frame.injEq] at isFrame
          rw [isFrame]
      | failed =>
        simp only [prepareLatest, unawaited, Bool.false_eq_true, if_false, isTaken]
        refine ⟨⟨.inl rfl, fun _ => rfl⟩, pending_of_stopped rfl rfl, .of_stopped rfl rfl, ?_, ?_⟩
        · intro awaited
          contradiction
        · intro frame isFrame
          rw [isPending] at isFrame
          cases isFrame

theorem takeLatest_frame (state : State) : state.takeLatest.2.frame = state.frame := by
  simp only [takeLatest]
  split <;> rfl

theorem prepareLatest_hasFrame (isShown : state.hasFrame = true) : state.prepareLatest.2.hasFrame = true := by
  have taken : state.takeLatest.2.hasFrame = true := by
    rw [hasFrame, takeLatest_frame]
    exact isShown
  simp only [prepareLatest]
  split
  next => exact isShown
  next =>
    split
    next takes =>
      rw [takes] at taken
      exact taken
    next takes =>
      rw [takes] at taken
      exact taken
    next takes =>
      rw [takes] at taken
      exact stopPlayback_hasFrame taken

/-- The sources are kept, or dropped together. -/
structure Finished (state after : State) : Prop where
  unawaited : after.allocationPending = false
  sources : after.player = state.player ∧ after.heic = state.heic ∨ after.player = none ∧ after.heic = none
  hasFrame : state.hasFrame = true → after.hasFrame = true

theorem stopPlayback_finished {before : State} (isFrame : before.frame = state.frame) :
    Finished state before.stopPlayback where
  unawaited := rfl
  sources := .inr ⟨rfl, rfl⟩
  hasFrame isShown := stopPlayback_hasFrame (by rw [State.hasFrame, isFrame]; exact isShown)

theorem noteHeicAdoption_finished {before : State} (unawaited : before.allocationPending = false)
    (player : before.player = state.player) (heic : before.heic = state.heic) (isShown : before.hasFrame = true) :
    Finished state before.noteHeicAdoption := by
  simp only [noteHeicAdoption]
  split
  next => exact ⟨unawaited, .inl ⟨player, heic⟩, fun _ => isShown⟩
  next => exact ⟨unawaited, .inl ⟨player, heic⟩, fun _ => isShown⟩

theorem finishAllocation_finished (result : Except String Allocation) :
    Finished state (state.finishAllocation result).2 := by
  simp only [finishAllocation, stopAfterTerminalFailure]
  split
  next unawaited => exact ⟨by simpa using unawaited, .inl ⟨rfl, rfl⟩, id⟩
  next =>
    split
    next stops =>
      split at stops <;> cases stops
      exact stopPlayback_finished rfl
    next goesOn =>
      split at goesOn <;> cases goesOn
      cases result with
      | ok allocation => exact noteHeicAdoption_finished rfl rfl rfl rfl
      | error message => exact stopPlayback_finished rfl

/-- Without a source nothing is waited for, and there is nothing to take. -/
theorem finishAllocation_of_stopped (single : state.Single) (isStopped : state.decoderIsStopped = true)
    (result : Except String Allocation) : (state.finishAllocation result).2 = state := by
  simp [finishAllocation, single.awaited isStopped]

theorem prepareLatest_of_stopped (single : state.Single) (isStopped : state.decoderIsStopped = true) :
    state.prepareLatest = (none, state) := by
  obtain ⟨noPlayer, noHeic⟩ := stopped_iff.mp isStopped
  simp [prepareLatest, single.awaited isStopped, takeLatest_of_stopped noPlayer noHeic]

/-! ## Starting -/

theorem posterOnly_single (poster : Option Handle) : (posterOnly poster).Single := ⟨.inl rfl, fun _ => rfl⟩

/-- What a source has published so far is nothing. -/
structure Fresh (state : State) : Prop where
  single : state.Single
  covered : state.Covered False
  unawaited : state.allocationPending = false

theorem posterOnly_fresh (poster : Option Handle) : (posterOnly poster).Fresh :=
  ⟨posterOnly_single poster, .of_stopped rfl rfl, rfl⟩

theorem playing_fresh {state : State} (noHeic : state.heic = none) (unawaited : state.allocationPending = false) :
    { state with player := some (.fresh { shared := {}, threads := [] }) }.Fresh :=
  ⟨⟨.inr noHeic, fun _ => unawaited⟩, .of_player rfl noHeic (.of_empty (Nat.le_refl _) rfl), unawaited⟩

theorem decoding_fresh {state : State} (noPlayer : state.player = none) (unawaited : state.allocationPending = false) :
    { state with heic := some (.fresh {}) }.Fresh :=
  ⟨⟨.inl noPlayer, fun _ => unawaited⟩, .of_heic noPlayer rfl (.of_empty (Nat.le_refl _) rfl), unawaited⟩

theorem startHeic_fresh (settings : Settings) (poster : Option Handle) (started : Bool) :
    (startHeic settings poster started).Fresh := by
  simp only [startHeic]
  split
  next => exact posterOnly_fresh poster
  next =>
    split
    next => exact decoding_fresh rfl rfl
    next => exact posterOnly_fresh poster

theorem start_fresh (settings : Settings) (poster : Option Handle) (started : Bool) :
    (start settings poster started).Fresh := by
  simp only [start]
  split
  next => exact startHeic_fresh settings poster started
  next =>
    split
    next => exact posterOnly_fresh poster
    next =>
      split
      next => exact playing_fresh rfl rfl
      next => exact posterOnly_fresh poster

/-- What is held back is the only source. -/
theorem startDeferred_fresh (settings : Settings) (poster : Option Handle) (started : Bool) :
    (startDeferred settings poster started).Fresh ∧
      (selectsDynamicHeic settings = true → (startDeferred settings poster started).decoderIsStopped = true) := by
  simp only [startDeferred]
  split
  next unselected => exact ⟨start_fresh settings poster started, fun selected => by simp [selected] at unselected⟩
  next => exact ⟨posterOnly_fresh poster, fun _ => rfl⟩

theorem startHeicSource_fresh (single : state.Single) (isStopped : state.decoderIsStopped = true)
    (settings : Settings) (started : Bool) : (state.startHeicSource settings started).Fresh := by
  obtain ⟨noPlayer, noHeic⟩ := stopped_iff.mp isStopped
  have unawaited := single.awaited isStopped
  have still : state.Fresh := ⟨single, .of_stopped noPlayer noHeic, unawaited⟩
  simp only [startHeicSource]
  split
  next => exact still
  next =>
    split
    next => exact still
    next =>
      split
      next => exact decoding_fresh noPlayer unawaited
      next => exact still

theorem startHeicSource_frame (state : State) (settings : Settings) (started : Bool) :
    (state.startHeicSource settings started).frame = state.frame := by
  simp only [startHeicSource]
  split
  next => rfl
  next =>
    split
    next => rfl
    next => split <;> rfl

end State

end Genkan.Wallpaper
