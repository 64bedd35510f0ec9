import Genkan.DynamicWallpaper.PresentationChange

/-! # The worker of a dynamic wallpaper

One iteration of the worker brings the schedule up to date, samples a dissolve, and decodes what the
playback asks for; each of the three hands the frame to the sink when it reports a change.  What an
iteration reads from outside is its input, and an iteration in which the worker returns has no result.
-/

namespace Genkan.Wallpaper

open DynamicWallpaper Foundations

/-! ## Suspensions -/

/-- Ten milliseconds. -/
def suspendDetectionThreshold : Nat := 10000000

/-- How far the clock that counts suspensions was ahead of the one that does not. -/
structure SuspendDetector where
  offset : Option Nat
  deriving DecidableEq, Repr

namespace SuspendDetector

def observe (detector : SuspendDetector) (offset : Nat) : SuspendDetector × Bool :=
  match detector.offset with
  | none => ({ offset := some offset }, false)
  | some previous =>
    if offset ≤ previous then (detector, false)
    else ({ offset := some offset }, decide (suspendDetectionThreshold < offset - previous))

/-- `offset` is what the clocks say, if they can be read. -/
def sample (detector : SuspendDetector) (offset : Option Nat) : SuspendDetector × Bool :=
  match offset with
  | none => (detector, false)
  | some offset => detector.observe offset

end SuspendDetector

/-! ## Diagnostics -/

/-- `reported` remembers the diagnostics. -/
structure HeicDiagnostics where
  decodeFailureReported : Bool := false
  reported : List String := []
  deriving DecidableEq, Repr

namespace HeicDiagnostics

def decodeFailure (diagnostics : HeicDiagnostics) : HeicDiagnostics :=
  if diagnostics.decodeFailureReported then diagnostics
  else
    { decodeFailureReported := true
      reported := diagnostics.reported ++
        ["dynamic wallpaper frame could not be decoded; retaining the last valid frame"] }

def decoded (diagnostics : HeicDiagnostics) : HeicDiagnostics :=
  { diagnostics with decodeFailureReported := false }

end HeicDiagnostics

/-! ## The worker -/

/-- The playback, the counter and whether the pixels on screen change. -/
def applyHeicSchedule (playback : Playback) (counter : UInt64) (clock : ClockSnapshot) (monotonic : Nat)
    (discontinuity : Bool) : Playback × UInt64 × Bool :=
  let (next, counter, outcome) :=
    if discontinuity then playback.resynchronizeAfterDiscontinuity counter clock monotonic
    else playback.synchronize counter clock monotonic
  (next, counter, outcome.presentationChanged)

def finishHeicDecode (playback : Playback) (counter : UInt64) (request : DecodeRequest)
    (result : Option RgbaFrame) (clock : ClockSnapshot) (monotonic : Nat) (discontinuity : Bool)
    (diagnostics : HeicDiagnostics) (storage : Option Nat) : Playback × HeicDiagnostics × Bool :=
  let (scheduled, counter, publish) := applyHeicSchedule playback counter clock monotonic discontinuity
  let (next, _, outcome) := scheduled.completeDecode counter request result monotonic storage
  match outcome with
  | .presented => (next, diagnostics.decoded, true)
  | .transitioning => (next, diagnostics.decoded, true)
  | .failed => (next, diagnostics.decodeFailure, publish)
  | .rejected => (next, diagnostics.decodeFailure, publish)
  | .ignored => (next, diagnostics, publish)

/-- `published` remembers the frames that the sink was given. -/
structure HeicWorker where
  initialClock : ClockSnapshot
  playback : Playback
  suspend : SuspendDetector
  diagnostics : HeicDiagnostics
  published : List RgbaFrame

/-- What the clocks say at one place of an iteration, and the counter that the schedule finds there. -/
structure Moment where
  clock : Option ClockSnapshot
  monotonic : Nat
  offset : Option Nat
  counter : UInt64

/-- What an iteration meets: two moments, the answers of the sink, of the decoder and of the allocator,
and whether the consumer stops the worker while it decodes. -/
structure Surrounding where
  before : Moment
  takesSchedule : Bool
  takesBlend : Bool
  decoded : Option RgbaFrame
  stopping : Bool
  after : Moment
  storage : Option Nat
  takesDecoded : Bool

namespace HeicWorker

/-- The worker before its first iteration, unless the file or the clock cannot be read. -/
def start (document : Option (Metadata × ImageReference)) (appearance : AppearancePreference)
    (reducedMotion : Bool) (moment : Moment) : Option HeicWorker := do
  let (metadata, primary) ← document
  let initialClock ← moment.clock
  pure
    { initialClock := initialClock
      playback := (Playback.withSolar metadata primary appearance initialClock moment.monotonic
        reducedMotion none moment.counter).1
      suspend := { offset := moment.offset }
      diagnostics := {}
      published := [] }

/-- The sink is given the frame on screen, and its refusal ends the worker. -/
def publishIf (worker : HeicWorker) (changed takes : Bool) : Option HeicWorker :=
  if changed then
    if takes then some { worker with published := worker.published ++ worker.playback.frame.toList }
    else none
  else some worker

def schedule (worker : HeicWorker) (moment : Moment) (takes : Bool) : Option HeicWorker :=
  let (suspend, discontinuity) := worker.suspend.sample moment.offset
  let (playback, _, changed) := applyHeicSchedule worker.playback moment.counter
    (moment.clock.getD worker.initialClock) moment.monotonic discontinuity
  { worker with playback := playback, suspend := suspend }.publishIf changed takes

def advance (worker : HeicWorker) (monotonic : Nat) (takes : Bool) : Option HeicWorker :=
  let (playback, changed) := worker.playback.advanceTransition monotonic
  { worker with playback := playback }.publishIf changed takes

def finish (worker : HeicWorker) (request : DecodeRequest) (decoded : Option RgbaFrame) (moment : Moment)
    (storage : Option Nat) (takes : Bool) : Option HeicWorker :=
  let (suspend, discontinuity) := worker.suspend.sample moment.offset
  let (playback, diagnostics, changed) := finishHeicDecode worker.playback moment.counter request decoded
    (moment.clock.getD worker.initialClock) moment.monotonic discontinuity worker.diagnostics storage
  { worker with
    playback := playback
    suspend := suspend
    diagnostics := diagnostics }.publishIf changed takes

def iterate (worker : HeicWorker) (surrounding : Surrounding) : Option HeicWorker := do
  let worker ← worker.schedule surrounding.before surrounding.takesSchedule
  let worker ← worker.advance surrounding.before.monotonic surrounding.takesBlend
  let (playback, request) := worker.playback.takeDecodeRequest
  let worker := { worker with playback := playback }
  match request with
  | none => pure worker
  | some request =>
    if surrounding.stopping then none
    else
      worker.finish request surrounding.decoded surrounding.after surrounding.storage
        surrounding.takesDecoded

def Starts (worker : HeicWorker) : Prop :=
  ∃ document appearance reducedMotion moment, start document appearance reducedMotion moment = some worker

end HeicWorker

/-- Runs of a worker; each step is an iteration that comes to its end. -/
def heicSystem : TransitionSystem HeicWorker Surrounding := .ofPartial HeicWorker.Starts HeicWorker.iterate

/-! ## The sink has the frame on screen -/

namespace HeicWorker

structure Current (worker : HeicWorker) : Prop where
  structured : worker.playback.Structured
  latest : ∀ content, worker.playback.content = some content →
    worker.published.getLast?.map (·.content) = some content

/-- A step of the playback that keeps the frame unless it reports a change keeps the sink current. -/
theorem Current.published {worker after : HeicWorker} (current : worker.Current) {playback : Playback}
    {suspend : SuspendDetector} {diagnostics : HeicDiagnostics} {changed takes : Bool}
    (structured : playback.Structured)
    (keeps : changed = false → playback.content = worker.playback.content)
    (publishes : { worker with
      playback := playback
      suspend := suspend
      diagnostics := diagnostics }.publishIf changed takes = some after) : after.Current := by
  cases changed with
  | false =>
    cases publishes
    refine ⟨structured, ?_⟩
    intro content isContent
    exact current.latest content (keeps rfl ▸ isContent)
  | true =>
    simp only [publishIf, if_true, Option.ite_none_right_eq_some] at publishes
    cases publishes.2
    refine ⟨structured, ?_⟩
    intro content isContent
    obtain ⟨frame, isFrame, rfl⟩ := Option.map_eq_some_iff.mp isContent
    simp [isFrame]

theorem applyHeicSchedule_reported (playback : Playback) (counter : UInt64) (clock : ClockSnapshot)
    (monotonic : Nat) (discontinuity : Bool) (structured : playback.Structured) :
    let result := applyHeicSchedule playback counter clock monotonic discontinuity
    result.1.Structured ∧ (result.2.2 = false → result.1.content = playback.content) := by
  simp only [applyHeicSchedule]
  split
  next =>
    exact ⟨structured.handled counter (.resynchronizeAfterDiscontinuity clock monotonic),
      (playback.synchronizeInner_reported counter clock monotonic true).same structured⟩
  next =>
    exact ⟨structured.handled counter (.synchronize clock monotonic),
      (playback.synchronizeInner_reported counter clock monotonic false).same structured⟩

theorem finishHeicDecode_reported (playback : Playback) (counter : UInt64) (request : DecodeRequest)
    (result : Option RgbaFrame) (clock : ClockSnapshot) (monotonic : Nat) (discontinuity : Bool)
    (diagnostics : HeicDiagnostics) (storage : Option Nat) (structured : playback.Structured) :
    let finished := finishHeicDecode playback counter request result clock monotonic discontinuity
      diagnostics storage
    finished.1.Structured ∧ (finished.2.2 = false → finished.1.content = playback.content) := by
  have scheduled := applyHeicSchedule_reported playback counter clock monotonic discontinuity structured
  simp only [finishHeicDecode]
  generalize applyHeicSchedule playback counter clock monotonic discontinuity = schedule at scheduled
  obtain ⟨next, drawn, changed⟩ := schedule
  have completed := scheduled.1.handled drawn (.completeDecode request result monotonic storage)
  have keeps (hidden : (next.completeDecode drawn request result monotonic storage).2.2.shows = false)
      (unchanged : changed = false) :
      (next.completeDecode drawn request result monotonic storage).1.content = playback.content := by
    rw [Playback.content, Playback.completeDecode_frame hidden]
    exact scheduled.2 unchanged
  dsimp only
  split
  next => exact ⟨completed, by simp⟩
  next => exact ⟨completed, by simp⟩
  next isOutcome => exact ⟨completed, keeps (by rw [isOutcome]; rfl)⟩
  next isOutcome => exact ⟨completed, keeps (by rw [isOutcome]; rfl)⟩
  next isOutcome => exact ⟨completed, keeps (by rw [isOutcome]; rfl)⟩

theorem Current.iterated {worker after : HeicWorker} (current : worker.Current) {surrounding : Surrounding}
    (iterates : worker.iterate surrounding = some after) : after.Current := by
  obtain ⟨scheduled, schedules, iterates⟩ := Option.bind_eq_some_iff.mp iterates
  obtain ⟨advanced, advances, iterates⟩ := Option.bind_eq_some_iff.mp iterates
  have isScheduled : scheduled.Current := by
    obtain ⟨structured, keeps⟩ := applyHeicSchedule_reported worker.playback surrounding.before.counter
      (surrounding.before.clock.getD worker.initialClock) surrounding.before.monotonic
      (worker.suspend.sample surrounding.before.offset).2 current.structured
    exact current.published structured keeps schedules
  have isAdvanced : advanced.Current := by
    have structured := isScheduled.structured.handled 0 (.advanceTransition surrounding.before.monotonic)
    have reported := scheduled.playback.advanceTransition_reported surrounding.before.monotonic
    exact isScheduled.published structured (reported.same isScheduled.structured) advances
  have structured := isAdvanced.structured.handled 0 .takeDecodeRequest
  have asked : HeicWorker.Current
      { advanced with playback := advanced.playback.takeDecodeRequest.1 } := by
    refine ⟨structured, ?_⟩
    intro content isContent
    rw [Playback.content, Playback.takeDecodeRequest_frame] at isContent
    exact isAdvanced.latest content isContent
  dsimp only at iterates
  split at iterates
  next =>
    cases iterates
    exact asked
  next request _ =>
    rw [Option.ite_none_left_eq_some] at iterates
    obtain ⟨finishes, keeps⟩ := finishHeicDecode_reported advanced.playback.takeDecodeRequest.1
      surrounding.after.counter request surrounding.decoded
      (surrounding.after.clock.getD advanced.initialClock) surrounding.after.monotonic
      (advanced.suspend.sample surrounding.after.offset).2 advanced.diagnostics surrounding.storage structured
    exact asked.published finishes keeps iterates.2

theorem Starts.current {worker : HeicWorker} (starts : worker.Starts) : worker.Current := by
  obtain ⟨document, appearance, reducedMotion, moment, isStart⟩ := starts
  obtain ⟨⟨metadata, primary⟩, _, isStart⟩ := Option.bind_eq_some_iff.mp isStart
  obtain ⟨initialClock, _, isStart⟩ := Option.bind_eq_some_iff.mp isStart
  cases isStart
  refine ⟨Playback.withSolar_structured metadata primary appearance initialClock _ reducedMotion none _, ?_⟩
  intro content isContent
  exact absurd isContent (by simp [Playback.content, Playback.frame, Playback.withSolar])

end HeicWorker

/-- The reports of a changed presentation are exact and a completion that shows nothing leaves the frame,
so whenever an iteration of the worker comes to its end, the last frame that the sink was given is the one
on screen. -/
theorem presentation_reported :
    (∀ (playback : Playback) monotonic,
      (playback.advanceTransition monotonic).2 = true ↔
        playback.pixels ≠ (playback.advanceTransition monotonic).1.pixels) ∧
    (∀ (playback : Playback) counter clock monotonic synchronization,
      let result := playback.synchronized counter clock monotonic synchronization
      result.2.2.presentationChanged = true ↔ playback.pixels ≠ result.1.pixels) ∧
    (∀ (playback : Playback) counter request decoded monotonic storage,
      let result := playback.completeDecode counter request decoded monotonic storage
      result.2.2 = .failed ∨ result.2.2 = .rejected ∨ result.2.2 = .ignored →
        result.1.frame = playback.frame) ∧
    ∀ worker, heicSystem.Reachable worker → ∀ frame, worker.playback.frame = some frame →
      ∃ last, worker.published.getLast? = some last ∧ last.content = frame.content := by
  refine ⟨?_, ?_, ?_, ?_⟩
  · intro playback monotonic
    exact (playback.advanceTransition_reported monotonic).exact
  · intro playback counter clock monotonic synchronization
    exact (playback.synchronized_reported counter clock monotonic synchronization).exact
  · intro playback counter request decoded monotonic storage result hidden
    apply Playback.completeDecode_frame
    rcases hidden with isOutcome | isOutcome | isOutcome
    · exact isOutcome ▸ rfl
    · exact isOutcome ▸ rfl
    · exact isOutcome ▸ rfl
  · intro worker reachable frame isFrame
    have current : worker.Current := by
      refine reachable.invariant HeicWorker.Current (fun _ => HeicWorker.Starts.current) ?_
      intro before surrounding after current iterates
      exact current.iterated iterates
    have latest := current.latest frame.content (by simp [Playback.content, isFrame])
    exact Option.map_eq_some_iff.mp latest

/-! ## The first frame of a file without a schedule -/

def sampleMoment (monotonic : Nat) : Moment where
  clock := some (sampleClock 12 0 noon_valid)
  monotonic := monotonic
  offset := none
  counter := 1

def sampleSurrounding : Surrounding where
  before := sampleMoment 1
  takesSchedule := true
  takesBlend := true
  decoded := some (sampleFrame 10)
  stopping := false
  after := sampleMoment 2
  storage := none
  takesDecoded := true

def sampleStart : HeicWorker :=
  (HeicWorker.start (some ({}, ⟨0⟩)) .automatic false (sampleMoment 0)).get rfl

def sampleWorker : HeicWorker := (sampleStart.iterate sampleSurrounding).get (by decide +kernel)

theorem sampleWorker_reachable : heicSystem.Reachable sampleWorker := by
  have starts : heicSystem.Reachable sampleStart := .initial ⟨_, _, _, _, (Option.some_get rfl).symm⟩
  exact .step starts (Option.some_get _).symm

theorem presentation_reported_sample :
    sampleWorker.playback.frame = some (sampleFrame 10) ∧
      ∃ last, sampleWorker.published.getLast? = some last ∧ last.content = (1, 1, [10, 10, 10, 255]) := by
  have isFrame : sampleWorker.playback.frame = some (sampleFrame 10) := by decide +kernel
  exact ⟨isFrame, presentation_reported.2.2.2 sampleWorker sampleWorker_reachable _ isFrame⟩

end Genkan.Wallpaper
