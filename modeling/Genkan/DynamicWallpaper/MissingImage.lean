import Genkan.DynamicWallpaper.DecodeErrors
import Genkan.DynamicWallpaper.ImageReferences
import Genkan.DynamicWallpaper.PlaybackChanges
import Genkan.DynamicWallpaper.SolarTrajectory

/-! # No decode misses its image

A playback asks only for images of its schedule, for the selected one and for the primary one.  All of
these come from the metadata of the document or are its primary image, so whatever is done to the
playback, the document has the image that is decoded next.
-/

namespace Genkan.DynamicWallpaper

open Foundations Foundations.Results

variable {allowed : ImageReference → Prop}

/-! ## The images of a playback -/

theorem selectedPoint_mem (points : TimePoints) (clock : ClockSnapshot) :
    selectedPoint points clock ∈ points.points := by
  simp only [selectedPoint]
  cases found : points.points.reverse.find? fun point =>
      effectiveBoundarySecond point.time ≤ clock.secondsOfDay with
  | none => exact List.getLast_mem points.nonempty
  | some point => exact List.mem_reverse.mp (List.mem_of_find?_eq_some found)

theorem mem_sortedTimePoints {points : TimePoints} {point : TimePoint}
    (member : point ∈ (sortedTimePoints points).points) : point ∈ points.points :=
  (List.mem_insertionSort _).mp member

namespace Playback

/-- Every image that is asked for now or may be selected later is allowed. -/
structure ImagesIn (allowed : ImageReference → Prop) (playback : Playback) : Prop where
  scheduled : ∀ points, playback.mode = .time points → ∀ point ∈ points.points, allowed point.image
  primary : allowed playback.primary
  selected : allowed playback.selected
  pending : ∀ pending, playback.pending = some pending → allowed pending.request.image

/-- Nothing is selected, and no decode is asked for that was not asked for before. -/
structure Quiet (playback next : Playback) : Prop where
  mode : next.mode = playback.mode
  primary : next.primary = playback.primary
  selected : next.selected = playback.selected
  pending : ∀ pending, next.pending = some pending →
    ∃ before, playback.pending = some before ∧ pending.request = before.request

theorem Quiet.of_same {playback next : Playback} (mode : next.mode = playback.mode)
    (primary : next.primary = playback.primary) (selected : next.selected = playback.selected)
    (pending : next.pending = playback.pending) : Quiet playback next where
  mode := mode
  primary := primary
  selected := selected
  pending := fun found isFound => ⟨found, pending ▸ isFound, rfl⟩

theorem Quiet.trans {playback next last : Playback} (first : Quiet playback next)
    (second : Quiet next last) : Quiet playback last where
  mode := second.mode.trans first.mode
  primary := second.primary.trans first.primary
  selected := second.selected.trans first.selected
  pending := by
    intro pending isPending
    obtain ⟨middle, isMiddle, sameMiddle⟩ := second.pending pending isPending
    obtain ⟨before, isBefore, sameBefore⟩ := first.pending middle isMiddle
    exact ⟨before, isBefore, sameMiddle.trans sameBefore⟩

theorem ImagesIn.quiet {playback next : Playback} (inBefore : playback.ImagesIn allowed)
    (quiet : Quiet playback next) : next.ImagesIn allowed where
  scheduled := by
    rw [quiet.mode]
    exact inBefore.scheduled
  primary := quiet.primary ▸ inBefore.primary
  selected := quiet.selected ▸ inBefore.selected
  pending := by
    intro pending isPending
    obtain ⟨before, isBefore, same⟩ := quiet.pending pending isPending
    exact same ▸ inBefore.pending before isBefore

theorem ImagesIn.queueDecode {playback : Playback} (inBefore : playback.ImagesIn allowed)
    (counter : UInt64) {image : ImageReference} (startedAt : Option Nat) (isAllowed : allowed image) :
    (playback.queueDecode counter image startedAt).ImagesIn allowed where
  scheduled := inBefore.scheduled
  primary := inBefore.primary
  selected := inBefore.selected
  pending := by
    intro pending isPending
    cases isPending
    exact isAllowed

theorem ImagesIn.selection {playback : Playback} (inBefore : playback.ImagesIn allowed)
    (clock : ClockSnapshot) : allowed (playback.selection clock) := by
  rw [Playback.selection]
  split
  next => exact inBefore.selected
  next points isTime => exact inBefore.scheduled points isTime _ (selectedPoint_mem points clock)

/-! ## Dissolves and requests -/

theorem settle_quiet (playback : Playback) : Quiet playback playback.settle.1 := by
  rw [settle]
  split
  next => exact .of_same rfl rfl rfl rfl
  next => exact .of_same rfl rfl rfl rfl

theorem advanceTransition_quiet (playback : Playback) (monotonic : Nat) :
    Quiet playback (playback.advanceTransition monotonic).1 := by
  rw [advanceTransition]
  split
  next => exact .of_same rfl rfl rfl rfl
  next =>
    simp only
    split
    next => exact settle_quiet playback
    next => exact .of_same rfl rfl rfl rfl

theorem adopt_quiet (playback : Playback) (pending : PendingDecode) (frame : RgbaFrame)
    (monotonic maxBlendBytes : Nat) (storage : Option Nat) :
    Quiet playback (playback.adopt pending frame monotonic maxBlendBytes storage).1 := by
  simp only [adopt]
  split
  next =>
    split
    next => exact .of_same rfl rfl rfl rfl
    next =>
      split
      next => exact .of_same rfl rfl rfl rfl
      next =>
        have begun : ∀ transition, Quiet playback
            { playback with presented := none, presentedImage := none, transition := transition } :=
          fun transition => .of_same rfl rfl rfl rfl
        exact (begun _).trans (advanceTransition_quiet _ monotonic)
  next => exact .of_same rfl rfl rfl rfl

theorem takeDecodeRequest_quiet (playback : Playback) : Quiet playback playback.takeDecodeRequest.1 := by
  rw [takeDecodeRequest]
  split
  next => exact .of_same rfl rfl rfl rfl
  next pending isPending =>
    split
    next => exact .of_same rfl rfl rfl rfl
    next =>
      constructor
      case pending =>
        intro dispatched isDispatched
        cases isDispatched
        exact ⟨pending, isPending, rfl⟩
      all_goals rfl

theorem ImagesIn.takeDecodeRequest {playback : Playback} (inBefore : playback.ImagesIn allowed)
    {request : DecodeRequest} (takes : playback.takeDecodeRequest.2 = some request) :
    allowed request.image := by
  rw [Playback.takeDecodeRequest] at takes
  split at takes
  next => contradiction
  next pending isPending =>
    split at takes
    next => contradiction
    next =>
      cases takes
      exact inBefore.pending pending isPending

/-! ## Synchronization -/

theorem ImagesIn.reselect {playback : Playback} (inBefore : playback.ImagesIn allowed) (counter : UInt64)
    {selection : ImageReference} (isAllowed : allowed selection) (clock : ClockSnapshot) (monotonic : Nat)
    (discontinuity : Bool) :
    (playback.reselect counter selection clock monotonic discontinuity).ImagesIn allowed := by
  rw [Playback.reselect]
  constructor
  case scheduled =>
    intro points isTime
    split at isTime
    next => exact inBefore.scheduled points isTime
    next => exact inBefore.scheduled points isTime
  case primary =>
    simp only
    split
    next => exact inBefore.primary
    next => exact inBefore.primary
  case selected => exact isAllowed
  case pending =>
    intro pending isPending
    cases isPending
    exact isAllowed

/-- A decode that is asked for again, with whatever becomes of the retry. -/
theorem ImagesIn.requeue {playback : Playback} (inBefore : playback.ImagesIn allowed) (counter : UInt64)
    {image : ImageReference} (startedAt retry : Option Nat) (isAllowed : allowed image) :
    { playback.queueDecode counter image startedAt with retryNotBefore := retry }.ImagesIn allowed :=
  (inBefore.queueDecode counter startedAt isAllowed).quiet (.of_same rfl rfl rfl rfl)

theorem ImagesIn.recover {playback : Playback} (inBefore : playback.ImagesIn allowed) (counter : UInt64)
    {selection : ImageReference} (isAllowed : allowed selection) (monotonic : Nat) :
    (playback.recover counter selection monotonic).1.ImagesIn allowed := by
  have settled := inBefore.quiet (settle_quiet playback)
  simp only [Playback.recover]
  split
  next => exact settled.queueDecode counter none isAllowed
  next =>
    split
    next => exact settled.requeue counter none none isAllowed
    next => exact settled

theorem ImagesIn.retry {playback : Playback} (inBefore : playback.ImagesIn allowed) (counter : UInt64)
    {selection : ImageReference} (isAllowed : allowed selection) (clock : ClockSnapshot) (monotonic : Nat) :
    (playback.retry counter selection clock monotonic).1.ImagesIn allowed := by
  simp only [Playback.retry]
  split
  next => exact inBefore.requeue counter _ none isAllowed
  next => exact inBefore

theorem ImagesIn.synchronizeInner {playback : Playback} (inBefore : playback.ImagesIn allowed)
    (counter : UInt64) (clock : ClockSnapshot) (monotonic : Nat) (forceDiscontinuity : Bool) :
    (playback.synchronizeInner counter clock monotonic forceDiscontinuity).1.ImagesIn allowed := by
  have isAllowed := inBefore.selection clock
  simp only [Playback.synchronizeInner]
  have clocked {next : Playback} (inNext : next.ImagesIn allowed) :
      { next with lastClock := clock, lastMonotonic := monotonic }.ImagesIn allowed :=
    inNext.quiet (.of_same rfl rfl rfl rfl)
  apply clocked
  split
  next => exact inBefore.reselect counter isAllowed clock monotonic _
  next =>
    split
    next => exact inBefore.recover counter isAllowed monotonic
    next => exact inBefore.retry counter isAllowed clock monotonic

theorem ImagesIn.setSolarSchedule {playback : Playback} (inBefore : playback.ImagesIn allowed)
    (counter : UInt64) {points : TimePoints} (areAllowed : ∀ point ∈ points.points, allowed point.image)
    (clock : ClockSnapshot) (monotonic : Nat) :
    (playback.setSolarSchedule counter points clock monotonic).1.ImagesIn allowed := by
  have rescheduled : { playback with mode := .time (sortedTimePoints points) }.ImagesIn allowed := by
    refine { inBefore with scheduled := ?_ }
    intro sorted isTime point member
    cases isTime
    exact areAllowed point (mem_sortedTimePoints member)
  exact rescheduled.synchronizeInner counter clock monotonic false

/-! ## Completions -/

theorem ImagesIn.fail {playback : Playback} (inBefore : playback.ImagesIn allowed) (counter : UInt64)
    (image : ImageReference) (monotonic : Nat) :
    (playback.fail counter image monotonic).1.ImagesIn allowed := by
  have planned (retry : Option Nat) : { playback with retryNotBefore := retry }.ImagesIn allowed :=
    inBefore.quiet (.of_same rfl rfl rfl rfl)
  rw [Playback.fail, queuePrimaryFallback]
  split
  next => exact planned _
  next => exact (planned _).queueDecode counter none inBefore.primary

theorem ImagesIn.completeDecode {playback : Playback} (inBefore : playback.ImagesIn allowed)
    (counter : UInt64) (request : DecodeRequest) (result : Option RgbaFrame) (monotonic : Nat)
    (storage : Option Nat) :
    (playback.completeDecode counter request result monotonic storage).1.ImagesIn allowed := by
  have completed (retry : Option Nat) :
      { playback with pending := none, retryNotBefore := retry }.ImagesIn allowed :=
    { inBefore with pending := nofun }
  simp only [Playback.completeDecode, completeDecodeWithLimit]
  split
  next => exact inBefore
  next pending _ =>
    split
    next => exact inBefore
    next =>
      split
      next => exact (completed _).fail counter request.image monotonic
      next frame =>
        split
        next => exact (completed _).fail counter request.image monotonic
        next =>
          split
          next => exact (completed none).quiet (adopt_quiet _ pending frame monotonic _ storage)
          next => exact (completed _).quiet (adopt_quiet _ pending frame monotonic _ storage)

/-! ## Construction -/

/-- The mode and the image that a playback starts with are allowed. -/
structure InitialImagesIn (allowed : ImageReference → Prop) (initial : Mode × ImageReference) : Prop where
  scheduled : ∀ points, initial.1 = .time points → ∀ point ∈ points.points, allowed point.image
  selected : allowed initial.2

theorem InitialImagesIn.schedule {points : TimePoints}
    (within : ∀ point ∈ points.points, allowed point.image) (clock : ClockSnapshot) :
    InitialImagesIn allowed
      (.time (sortedTimePoints points), (selectedPoint (sortedTimePoints points) clock).image) where
  scheduled := by
    intro sorted isTime point member
    cases isTime
    exact within point (mem_sortedTimePoints member)
  selected := within _ (mem_sortedTimePoints (selectedPoint_mem _ clock))

theorem InitialImagesIn.static {image : ImageReference} (isAllowed : allowed image) :
    InitialImagesIn allowed (.static, image) where
  scheduled := by
    intro points isTime
    cases isTime
  selected := isAllowed

theorem initialMode_imagesIn {metadata : Metadata} (inMetadata : metadata.ImagesIn allowed)
    {primary : ImageReference} (isPrimary : allowed primary) (appearance : AppearancePreference)
    (clock : ClockSnapshot) {solar : Option TimePoints}
    (areAllowed : ∀ points, solar = some points → ∀ point ∈ points.points, allowed point.image) :
    InitialImagesIn allowed (initialMode metadata primary appearance clock solar) := by
  have selects : InitialImagesIn allowed (initialMode metadata primary appearance clock none) := by
    simp only [initialMode]
    split
    next schedule isTime =>
      have within : ∀ point ∈ schedule.timePoints.points, allowed point.image := inMetadata.scheduled isTime
      exact .schedule within clock
    next image isFixed => exact .static (inMetadata.fixed isFixed)
    next => exact .static isPrimary
    next => exact .static isPrimary
  cases solar with
  | none => exact selects
  | some points =>
    cases appearance with
    | automatic => exact .schedule (areAllowed points rfl) clock
    | light => exact selects
    | dark => exact selects

theorem withSolar_imagesIn {metadata : Metadata} (inMetadata : metadata.ImagesIn allowed)
    {primary : ImageReference} (isPrimary : allowed primary) (appearance : AppearancePreference)
    (clock : ClockSnapshot) (monotonic : Nat) (reducedMotion : Bool) {solar : Option TimePoints}
    (areAllowed : ∀ points, solar = some points → ∀ point ∈ points.points, allowed point.image)
    (counter : UInt64) :
    (withSolar metadata primary appearance clock monotonic reducedMotion solar counter).1.ImagesIn
      allowed := by
  have initial := initialMode_imagesIn inMetadata isPrimary appearance clock areAllowed
  refine ⟨initial.scheduled, isPrimary, initial.selected, ?_⟩
  intro pending isPending
  cases isPending
  exact initial.selected

theorem ImagesIn.step {playback : Playback} (inBefore : playback.ImagesIn allowed)
    (counter : UInt64) {call : PlaybackCall}
    (areAllowed : ∀ points clock monotonic, call = .setSolarSchedule points clock monotonic →
      ∀ point ∈ points.points, allowed point.image) : (playback.step (counter, call)).ImagesIn allowed := by
  cases call with
  | takeDecodeRequest => exact inBefore.quiet (takeDecodeRequest_quiet playback)
  | synchronize clock monotonic => exact inBefore.synchronizeInner counter clock monotonic false
  | resynchronizeAfterDiscontinuity clock monotonic =>
    exact inBefore.synchronizeInner counter clock monotonic true
  | setSolarSchedule points clock monotonic =>
    exact inBefore.setSolarSchedule counter (areAllowed points clock monotonic rfl) clock monotonic
  | completeDecode request result monotonic storage =>
    exact inBefore.completeDecode counter request result monotonic storage
  | advanceTransition monotonic => exact inBefore.quiet (advanceTransition_quiet playback monotonic)

end Playback

/-! ## Playbacks of a document -/

section Playing

variable {Location Vector Distance : Type} [LinearOrder Distance] (sun : Sun Location Vector Distance)

/-- The points are those that the solar schedule is mapped to, somewhere and on some day. -/
def Metadata.MapsTo (metadata : Metadata) (points : TimePoints) : Prop :=
  ∃ schedule location clock, metadata.solar.value = some schedule ∧
    mapSchedule sun schedule location clock = .ok points.points

variable {sun}

theorem mapSchedule_images {schedule : Schedule SolarPoint} {location : Location} {clock : ClockSnapshot}
    {points : List TimePoint} (maps : mapSchedule sun schedule location clock = .ok points)
    {mapped : TimePoint} (member : mapped ∈ points) : ∃ point ∈ schedule.points, mapped.image = point.image := by
  obtain ⟨base, _, rest⟩ := bind_eq_ok.mp maps
  obtain ⟨positions, _, rest⟩ := bind_eq_ok.mp rest
  obtain ⟨point, isPoint, isMapped⟩ := mem_of_mapM rest member
  obtain ⟨second, _, isMapped⟩ := bind_eq_ok.mp isMapped
  refine ⟨point, isPoint, ?_⟩
  split at isMapped
  next => rw [← pure_eq_ok.mp isMapped]
  next => contradiction

theorem Metadata.ImagesIn.mapsTo {metadata : Metadata} (inMetadata : metadata.ImagesIn allowed)
    {points : TimePoints} (maps : metadata.MapsTo sun points) :
    ∀ point ∈ points.points, allowed point.image := by
  obtain ⟨schedule, location, clock, isSolar, isMapped⟩ := maps
  intro mapped member
  obtain ⟨point, isPoint, same⟩ := mapSchedule_images isMapped member
  rw [same]
  exact (inMetadata.solar schedule isSolar).points point isPoint

namespace Heic

variable (sun)

/-- A playback starts from the metadata and the primary image of the document, with its time schedule
or with its solar one mapped, and its solar schedule may be mapped again later. -/
def Document.playbackSystem (document : Document) : TransitionSystem Playback (UInt64 × PlaybackCall) where
  initial playback := ∃ appearance clock monotonic reducedMotion solar counter,
    (∀ points, solar = some points → document.metadata.MapsTo sun points) ∧
      playback = (Playback.withSolar document.metadata document.primary appearance clock monotonic
        reducedMotion solar counter).1
  step playback label next :=
    (∀ points clock monotonic, label.2 = .setSolarSchedule points clock monotonic →
      document.metadata.MapsTo sun points) ∧ next = playback.step label

variable {sun}

theorem Document.Consistent.reachable {document : Document} (consistent : document.Consistent)
    {playback : Playback} (reachable : (document.playbackSystem sun).Reachable playback) :
    playback.ImagesIn document.images.Resolves := by
  refine reachable.invariant (Playback.ImagesIn document.images.Resolves) ?_ ?_
  · intro playback starts
    obtain ⟨appearance, clock, monotonic, reducedMotion, solar, counter, maps, rfl⟩ := starts
    exact Playback.withSolar_imagesIn consistent.metadata consistent.primary appearance clock monotonic
      reducedMotion (fun points isSolar => consistent.metadata.mapsTo (maps points isSolar)) counter
  · intro playback label next inBefore steps
    obtain ⟨maps, rfl⟩ := steps
    exact inBefore.step label.1 fun points clock monotonic isCall =>
      consistent.metadata.mapsTo (maps points clock monotonic isCall)

/-- What a parsed property refers to is among the images, and so is whatever a playback of an opened
document asks to be decoded, in any run.  Its decode may fail, but not for want of an image. -/
theorem no_missing_image (libraries : Libraries) (sun : Sun Location Vector Distance) :
    (∀ name slice images limits entry,
      parseProperty libraries.xml libraries.plist name slice images limits = .ok entry →
        entry.2.ImagesIn images.Resolves) ∧
    ∀ source limits document, Document.openSource libraries source limits = .ok document →
      ∀ playback, (document.playbackSystem sun).Reachable playback →
        ∀ request, playback.takeDecodeRequest.2 = some request →
          document.images.Resolves request.image ∧
            ∀ options reserved,
              document.decode libraries request.image options reserved ≠ .error .missingImage := by
  constructor
  · intro name slice images limits entry parsed
    exact parseProperty_resolves parsed
  · intro source limits document opens playback reachable request takes
    have consistent := Document.openSource_consistent opens
    have resolves := (consistent.reachable reachable).takeDecodeRequest takes
    obtain ⟨itemId, isItem⟩ := Option.isSome_iff_exists.mp resolves
    refine ⟨resolves, ?_⟩
    intro options reserved missing
    exact document.decode_finds libraries isItem options reserved _ missing rfl

end Heic

end Playing

end Genkan.DynamicWallpaper
