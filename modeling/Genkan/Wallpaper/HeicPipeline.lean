import Genkan.DynamicWallpaper.RetainedSizes
import Genkan.Wallpaper.HeicWorker
import Genkan.Wallpaper.RelayStream

/-! # From a file to the consumer

The worker opens a document, plays it and writes its frames to the pipe; the reader of the process that owns
the lock accepts every one of them.  What the consumer is given is what the playback showed.
-/

namespace Genkan.Wallpaper

open DynamicWallpaper Foundations Foundations.ByteStream Foundations.Bytes

/-! ## A worker of a document -/

/-- The decoder of the worker is that of the document. -/
def Decodes (libraries : Heic.Libraries) (document : Heic.Document) (surrounding : Surrounding) : Prop :=
  ∀ frame, surrounding.decoded = some frame →
    ∃ image options reserved, document.decode libraries image options reserved = .ok frame

/-- Runs of a worker that plays the document. -/
def documentSystem (libraries : Heic.Libraries) (document : Heic.Document) :
    TransitionSystem HeicWorker Surrounding where
  initial worker := ∃ appearance reducedMotion moment,
    HeicWorker.start (some (document.metadata, document.primary)) appearance reducedMotion moment = some worker
  step worker surrounding next := Decodes libraries document surrounding ∧ worker.iterate surrounding = some next

/-! ## What is written is sound -/

/-- The reader accepts frames of this size. -/
def Relayable (width height : Nat) : Prop := width ≤ maxHeicFrameDimension ∧ height ≤ maxHeicFrameDimension

theorem consistent_frame {playback : Playback} (structured : playback.Structured) (sized : playback.Sized Relayable)
    {frame : RgbaFrame} (isFrame : playback.frame = some frame) :
    Consistent frame.width frame.height frame.pixels.length := by
  have isOpaque : frame.Opaque := by
    rw [Playback.frame, Option.or_eq_some_iff] at isFrame
    cases isFrame with
    | inl isBlend =>
      obtain ⟨transition, isTransition, rfl⟩ := Option.map_eq_some_iff.mp isBlend
      exact (structured.endpoints transition isTransition).2.2
    | inr isPresented => exact structured.whole frame isPresented.2
  obtain ⟨wide, tall⟩ := sized.frame isFrame
  exact
    { wide := ⟨isOpaque.width, wide⟩
      tall := ⟨isOpaque.height, tall⟩
      exactly := isOpaque.length
      bounded := isOpaque.bounded }

namespace HeicWorker

structure Relays (worker : HeicWorker) : Prop where
  structured : worker.playback.Structured
  sized : worker.playback.Sized Relayable
  published : ∀ frame ∈ worker.published, Consistent frame.width frame.height frame.pixels.length

theorem Relays.publishing {worker after : HeicWorker} (relays : worker.Relays) {playback : Playback}
    {suspend : SuspendDetector} {diagnostics : HeicDiagnostics} {changed takes : Bool}
    (structured : playback.Structured) (sized : playback.Sized Relayable)
    (publishes : { worker with
      playback := playback
      suspend := suspend
      diagnostics := diagnostics }.publishIf changed takes = some after) : after.Relays := by
  cases changed with
  | false =>
    cases publishes
    exact { structured, sized, published := relays.published }
  | true =>
    simp only [publishIf, if_true, Option.ite_none_right_eq_some] at publishes
    cases publishes.2
    refine { structured, sized, published := ?_ }
    intro frame member
    rw [List.mem_append] at member
    cases member with
    | inl earlier => exact relays.published frame earlier
    | inr latest => exact consistent_frame structured sized (Option.mem_toList.mp latest)

theorem applyHeicSchedule_sized {playback : Playback} (sized : playback.Sized Relayable) (counter : UInt64)
    (clock : ClockSnapshot) (monotonic : Nat) (discontinuity : Bool) :
    (applyHeicSchedule playback counter clock monotonic discontinuity).1.Sized Relayable := by
  simp only [applyHeicSchedule]
  split
  next => exact sized.synchronized counter clock monotonic true
  next => exact sized.synchronized counter clock monotonic false

theorem finishHeicDecode_sized {playback : Playback} (sized : playback.Sized Relayable) (counter : UInt64)
    (request : DecodeRequest) {result : Option RgbaFrame}
    (fits : ∀ frame, result = some frame → Relayable frame.width frame.height) (clock : ClockSnapshot)
    (monotonic : Nat) (discontinuity : Bool) (diagnostics : HeicDiagnostics) (storage : Option Nat) :
    (finishHeicDecode playback counter request result clock monotonic discontinuity diagnostics
      storage).1.Sized Relayable := by
  have scheduled := applyHeicSchedule_sized sized counter clock monotonic discontinuity
  simp only [finishHeicDecode]
  generalize applyHeicSchedule playback counter clock monotonic discontinuity = schedule at scheduled
  obtain ⟨next, drawn, changed⟩ := schedule
  have completed := scheduled.completed drawn request fits monotonic storage
  dsimp only
  split
  next => exact completed
  next => exact completed
  next => exact completed
  next => exact completed
  next => exact completed

theorem Relays.iterated {worker after : HeicWorker} (relays : worker.Relays) {surrounding : Surrounding}
    (fits : ∀ frame, surrounding.decoded = some frame → Relayable frame.width frame.height)
    (iterates : worker.iterate surrounding = some after) : after.Relays := by
  obtain ⟨scheduled, schedules, iterates⟩ := Option.bind_eq_some_iff.mp iterates
  obtain ⟨advanced, advances, iterates⟩ := Option.bind_eq_some_iff.mp iterates
  have isScheduled : scheduled.Relays := by
    obtain ⟨structured, _⟩ := applyHeicSchedule_reported worker.playback surrounding.before.counter
      (surrounding.before.clock.getD worker.initialClock) surrounding.before.monotonic
      (worker.suspend.sample surrounding.before.offset).2 relays.structured
    exact relays.publishing structured (applyHeicSchedule_sized relays.sized _ _ _ _) schedules
  have isAdvanced : advanced.Relays := by
    have structured := isScheduled.structured.handled 0 (.advanceTransition surrounding.before.monotonic)
    exact isScheduled.publishing structured (isScheduled.sized.advanced _) advances
  have structured := isAdvanced.structured.handled 0 .takeDecodeRequest
  have asked : HeicWorker.Relays { advanced with playback := advanced.playback.takeDecodeRequest.1 } :=
    { structured, sized := isAdvanced.sized.asked, published := isAdvanced.published }
  dsimp only at iterates
  split at iterates
  next =>
    cases iterates
    exact asked
  next request _ =>
    rw [Option.ite_none_left_eq_some] at iterates
    obtain ⟨finishes, _⟩ := finishHeicDecode_reported advanced.playback.takeDecodeRequest.1
      surrounding.after.counter request surrounding.decoded
      (surrounding.after.clock.getD advanced.initialClock) surrounding.after.monotonic
      (advanced.suspend.sample surrounding.after.offset).2 advanced.diagnostics surrounding.storage structured
    exact asked.publishing finishes (finishHeicDecode_sized asked.sized _ request fits _ _ _ _ _) iterates.2

end HeicWorker

section Document

variable {libraries : Heic.Libraries} {source : Bytes.Slice} {document : Heic.Document} {worker : HeicWorker}

theorem Decodes.fits (opens : Heic.Document.openSource libraries source {} = .ok document)
    {surrounding : Surrounding} (decodes : Decodes libraries document surrounding) :
    ∀ frame, surrounding.decoded = some frame → Relayable frame.width frame.height := by
  intro frame isFrame
  obtain ⟨image, options, reserved, isDecoded⟩ := decodes frame isFrame
  have within := Heic.Document.decode_within isDecoded
  rw [Heic.Document.openSource_limits opens] at within
  exact within

theorem documentSystem_relays (opens : Heic.Document.openSource libraries source {} = .ok document)
    (reachable : (documentSystem libraries document).Reachable worker) : worker.Relays := by
  refine reachable.invariant HeicWorker.Relays ?_ ?_
  · intro worker starts
    obtain ⟨appearance, reducedMotion, moment, isStart⟩ := starts
    obtain ⟨initialClock, _, isStart⟩ := Option.bind_eq_some_iff.mp isStart
    cases isStart
    exact
      { structured := Playback.withSolar_structured document.metadata document.primary appearance initialClock _
          reducedMotion none _
        sized := Playback.sized_of_idle rfl (by simp [Playback.withSolar])
        published := by simp }
  · intro worker surrounding next relays steps
    exact relays.iterated (steps.1.fits opens) steps.2

/-- A worker of a document is a worker. -/
theorem documentSystem_current (reachable : (documentSystem libraries document).Reachable worker) :
    worker.Current := by
  refine reachable.invariant HeicWorker.Current ?_ ?_
  · intro worker starts
    obtain ⟨appearance, reducedMotion, moment, isStart⟩ := starts
    exact HeicWorker.Starts.current ⟨_, appearance, reducedMotion, moment, isStart⟩
  · intro worker surrounding next current steps
    exact current.iterated steps.2

end Document

/-! ## What is relayed -/

theorem exists_relayFrames {frames : List RgbaFrame}
    (sound : ∀ frame ∈ frames, Consistent frame.width frame.height frame.pixels.length) :
    ∃ relayed : List RelayFrame, relayed.map RelayFrame.toRgbaFrame = frames := by
  induction frames with
  | nil => exact ⟨[], rfl⟩
  | cons frame frames inductionHypothesis =>
    obtain ⟨isSound, others⟩ := List.forall_mem_cons.mp sound
    obtain ⟨relayed, same⟩ := inductionHypothesis others
    exact ⟨{ frame with sound := isSound } :: relayed, by rw [List.map_cons, same]⟩

/-- What is relayed of bytes that start with sound frames starts with these frames. -/
theorem relay_prefix {surroundings : Surroundings} (running : ∀ turn, surroundings.stopping turn = false)
    (granted : ∀ turn length, surroundings.reserves turn length = true) (frames : List RelayFrame)
    {stream : List Piece} {rest : List UInt8}
    (holds : delivered stream = frames.flatMap RelayFrame.bytes ++ rest) :
    ∃ final later, runHeicReader surroundings stream {} = some final ∧
      final.published = frames.map (Update.frame ·.frame) ++ later ∧ (rest = [] → later = [.failed]) := by
  obtain ⟨others, tail, splits⟩ :=
    splits_exist (fun index => surroundings.reserves (frames.length + index)) rest
  have whole : Splits (fun index => surroundings.reserves (0 + index)) (delivered stream) (frames ++ others) tail :=
    { whole := by rw [holds, splits.whole, List.flatMap_append, List.append_assoc]
      granted := fun index frame _ => granted _ _
      stops := by
        rw [List.length_append, Nat.zero_add]
        exact splits.stops }
  have fresh : ({} : HeicShared).failed = false := rfl
  obtain ⟨final, finishes, _, published⟩ := relayLoop_splits running whole fresh (Nat.lt_succ_self _)
  refine ⟨final, others.map (Update.frame ·.frame) ++ [.failed], finishes, ?_, ?_⟩
  · rw [published, List.map_append]
    simp
  · intro isEmpty
    have isNil : others = [] := by
      cases others with
      | nil => rfl
      | cons other others =>
        have bytes := splits.whole
        rw [isEmpty, List.flatMap_cons, RelayFrame.bytes] at bytes
        cases bytes
    rw [isNil]
    rfl

/-- What the consumer is given of a frame. -/
def relayed (frame : RgbaFrame) : Update :=
  .frame { width := frame.width, height := frame.height, pixels := frame.pixels, pts := none }

/-- Whatever the file and whatever the libraries make of it: the reader accepts all that the worker wrote, in
this order and however the pipe cuts it, and the last of it has the pixels that the playback shows. -/
theorem relay_shows_playback (libraries : Heic.Libraries) (source : Bytes.Slice) (document : Heic.Document)
    (opens : Heic.Document.openSource libraries source {} = .ok document) (worker : HeicWorker)
    (reachable : (documentSystem libraries document).Reachable worker) (surroundings : Surroundings)
    (running : ∀ turn, surroundings.stopping turn = false)
    (granted : ∀ turn length, surroundings.reserves turn length = true) :
    ∃ written, writeHeicFrames worker.published = .ok written ∧
      (∀ stream rest, delivered stream = written ++ rest →
        ∃ final later, runHeicReader surroundings stream {} = some final ∧
          final.published = worker.published.map relayed ++ later ∧ (rest = [] → later = [.failed])) ∧
      ∀ frame, worker.playback.frame = some frame →
        ∃ last, worker.published.getLast? = some last ∧ last.content = frame.content := by
  have relays := documentSystem_relays opens reachable
  obtain ⟨frames, isPublished⟩ := exists_relayFrames relays.published
  refine ⟨frames.flatMap RelayFrame.bytes, ?_, ?_, ?_⟩
  · rw [← isPublished]
    exact writeHeicFrames_ok frames
  · intro stream rest holds
    obtain ⟨final, later, finishes, published, ends⟩ := relay_prefix running granted frames holds
    refine ⟨final, later, finishes, ?_, ends⟩
    rw [published, ← isPublished, List.map_map]
    rfl
  · intro frame isFrame
    have latest := (documentSystem_current reachable).latest frame.content (by simp [Playback.content, isFrame])
    exact Option.map_eq_some_iff.mp latest

/-! ## A file with one image of one pixel -/

def sampleHandle : Heic.ImageHandle where
  itemId := 1
  width := 1
  height := 1
  lumaBitsPerPixel := 8
  chromaBitsPerPixel := 8
  colorProfileRaw := none
  colorProfileNclx := none
  numberOfMetadataBlocks := 0
  metadataBlockIds _ := []
  metadataBlock _ := { size := 0, metadataType := none, contentType := none, metadata := .error "missing" }

def samplePlane : Heic.Plane where
  data := ⟨[10, 10, 10, 255], by decide⟩
  stride := 4
  width := 1
  height := 1
  bitsPerPixel := 8
  storageBitsPerPixel := 32

def sampleContext : Heic.HeifContext where
  imageIds := [1]
  primaryImageHandle := .ok sampleHandle
  imageHandle _ := .ok sampleHandle
  setSecurityLimits := .ok ()
  decode _ := .ok
    { colorProfileRaw := none
      colorProfileNclx := none
      isPremultipliedAlpha := false
      interleaved := some samplePlane }

def sampleLibraries : Heic.Libraries where
  xml := { events := fun _ _ => [], decodeBase64 := fun _ => .error "not encoded", reserves := fun _ _ => true }
  plist := { fromReader := fun _ => .error "no list", fromReaderXml := fun _ => .error "no list" }
  readHeif _ _ := .ok sampleContext
  readProfile _ := none

/-- One empty box, `mini`. -/
def sampleSource : Bytes.Slice := ⟨[0, 0, 0, 8, 109, 105, 110, 105], by decide⟩

def sampleDocument : Heic.Document where
  context := sampleContext
  images := { itemIds := [1] }
  primary := ⟨0⟩
  metadata := {}
  limits := {}

theorem sampleSource_preflight :
    Container.preflight sampleSource ({} : Heic.Limits).containerBudget = .ok () := by
  have walks : Container.walkFile sampleSource ({} : Heic.Limits).containerBudget =
      .ok { boxes := 1, sawMini := true } := by
    have reads : Container.readHeader sampleSource 0 sampleSource.length = .ok ⟨[109, 105, 110, 105], 8, 8, 8⟩ := rfl
    have ends : ∀ visit walk, Container.walkLoop sampleSource visit sampleSource.length 8 walk = .ok walk := by
      intro visit walk
      rw [Container.walkLoop]
      rfl
    rw [Container.walkFile, Container.walkBoxes, Heic.rejectIf, if_neg (by decide), Results.ok_bind, Container.walkLoop,
      if_pos (by decide)]
    split
    next isError =>
      rw [reads] at isError
      cases isError
    next header isHeader =>
      rw [reads] at isHeader
      cases isHeader
      exact ends _ _
  rw [Container.preflight, walks]
  rfl

theorem sampleSource_opens : Heic.Document.openSource sampleLibraries sampleSource {} = .ok sampleDocument := by
  rw [Heic.Document.openSource, sampleSource_preflight]
  rfl

theorem sampleWorker_plays : (documentSystem sampleLibraries sampleDocument).Reachable sampleWorker := by
  have starts : (documentSystem sampleLibraries sampleDocument).Reachable sampleStart :=
    .initial ⟨_, _, _, (Option.some_get rfl).symm⟩
  refine .step starts ⟨?_, (Option.some_get _).symm⟩
  intro frame isFrame
  cases isFrame
  exact ⟨⟨0⟩, true, ⟨some 4, true⟩, rfl⟩

theorem relay_shows_playback_sample :
    ∃ written, writeHeicFrames sampleWorker.published = .ok written ∧
      ∃ final, runHeicReader sampleSurroundings [.bytes written] {} = some final ∧
        final.published = sampleWorker.published.map relayed ++ [.failed] := by
  obtain ⟨written, writes, arrives, _⟩ := relay_shows_playback sampleLibraries sampleSource sampleDocument
    sampleSource_opens sampleWorker sampleWorker_plays sampleSurroundings (fun _ => rfl) (fun _ _ => rfl)
  have holds : delivered [.bytes written] = written ++ [] := by simp [delivered]
  obtain ⟨final, later, finishes, published, ends⟩ := arrives [.bytes written] [] holds
  rw [ends rfl] at published
  exact ⟨written, writes, final, finishes, published⟩

end Genkan.Wallpaper
