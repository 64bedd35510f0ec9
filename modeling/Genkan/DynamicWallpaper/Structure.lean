import Genkan.DynamicWallpaper.PlaybackChanges

/-! # The frames that a playback retains

A dissolve owns all frames of the playback: while it runs nothing is pending and nothing else is
presented.  `Structured` also records why the target of a dissolve is the selected image: only a
decode of the selected image is asked for with a start time.
-/

namespace Genkan.DynamicWallpaper

open Foundations

namespace Playback

structure Structured (playback : Playback) : Prop where
  pending : playback.transition.isSome = true → playback.pending = none
  presented : playback.transition.isSome = true → playback.presented = none
  presentedImage : playback.transition.isSome = true → playback.presentedImage = none
  target : ∀ transition, playback.transition = some transition →
    transition.toImage = playback.selected
  dimensions : ∀ transition, playback.transition = some transition →
    sameDimensions transition.fromFrame transition.toFrame = true ∧
      sameDimensions transition.blend transition.toFrame = true
  endpoints : ∀ transition, playback.transition = some transition →
    transition.fromFrame.Opaque ∧ transition.toFrame.Opaque ∧ transition.blend.Opaque
  shown : playback.presentedImage.isSome = true → playback.presented.isSome = true
  whole : ∀ frame, playback.presented = some frame → frame.Opaque
  timed : ∀ pending, playback.pending = some pending → pending.transitionStartedAt.isSome = true →
    pending.request.image = playback.selected

theorem Structured.idle {playback : Playback} (structured : playback.Structured)
    {pending : PendingDecode} (isPending : playback.pending = some pending) :
    playback.transition = none := by
  cases isTransition : playback.transition with
  | none => rfl
  | some transition =>
    have settled := structured.pending (by simp [isTransition])
    simp [settled] at isPending

/-- Without a dissolve only the presented frame and the pending decode matter. -/
theorem structured_of_idle {playback : Playback} (idle : playback.transition = none)
    (shown : playback.presentedImage.isSome = true → playback.presented.isSome = true)
    (whole : ∀ frame, playback.presented = some frame → frame.Opaque)
    (timed : ∀ pending, playback.pending = some pending →
      pending.transitionStartedAt.isSome = true → pending.request.image = playback.selected) :
    playback.Structured where
  pending running := by simp [idle] at running
  presented running := by simp [idle] at running
  presentedImage running := by simp [idle] at running
  target transition running := by simp [idle] at running
  dimensions transition running := by simp [idle] at running
  endpoints transition running := by simp [idle] at running
  shown := shown
  whole := whole
  timed := timed

theorem Structured.settled {playback : Playback} (structured : playback.Structured) :
    playback.settle.1.Structured := by
  simp only [settle]
  split
  next transition isTransition =>
    have settled := structured.pending (by simp [isTransition])
    refine structured_of_idle rfl (fun _ => rfl) ?_ ?_
    · intro frame isFrame
      cases isFrame
      exact (structured.endpoints transition isTransition).2.1
    · intro pending isPending
      simp [settled] at isPending
  next => exact structured

theorem Structured.reselected {playback : Playback} (structured : playback.Structured)
    (counter : UInt64) (selection : ImageReference) (clock : ClockSnapshot) (monotonic : Nat)
    (discontinuity : Bool) :
    (playback.reselect counter selection clock monotonic discontinuity).Structured := by
  have timed : ∀ startedAt pending, some (undispatched counter selection startedAt) = some pending →
      pending.transitionStartedAt.isSome = true → pending.request.image = selection := by
    intro startedAt pending isPending _
    cases isPending
    rfl
  cases isTransition : playback.transition with
  | some transition =>
    simp only [reselect, isTransition]
    refine structured_of_idle rfl (by simp) ?_ (timed _)
    intro frame isFrame
    cases isFrame
    exact (structured.endpoints transition isTransition).2.2
  | none =>
    simp only [reselect, isTransition]
    exact structured_of_idle rfl structured.shown structured.whole (timed _)

theorem Structured.failed {playback : Playback} (structured : playback.Structured)
    {pending : PendingDecode} (counter : UInt64) (retry : Option Nat)
    (isPending : playback.pending = some pending) :
    ({ playback with pending := none, retryNotBefore := retry }.queuePrimaryFallback
      pending.request.image counter).1.Structured := by
  simp only [queuePrimaryFallback]
  split
  next => exact structured_of_idle (structured.idle isPending) structured.shown structured.whole (by simp)
  next =>
    refine structured_of_idle (structured.idle isPending) structured.shown structured.whole ?_
    intro fallback isFallback starts
    cases isFallback
    simp [undispatched] at starts

theorem Structured.began {playback : Playback} (structured : playback.Structured)
    {pending : PendingDecode} {frame previous blended : RgbaFrame} {startedAt maxBlendBytes : Nat}
    {storage : Option Nat} (isPending : playback.pending = some pending)
    (valid : validFrame frame = true) (isPresented : playback.presented = some previous)
    (starts : pending.transitionStartedAt = some startedAt)
    (same : sameDimensions previous frame = true)
    (blends : blend previous frame 0 maxBlendBytes storage = some blended) (retry : Option Nat) :
    Structured { playback with
      pending := none
      retryNotBefore := retry
      presented := none
      presentedImage := none
      transition := some
        { fromFrame := previous
          toFrame := frame
          blend := blended
          toImage := pending.request.image
          startedAt := startedAt } } := by
  have frameOpaque := validFrame_opaque valid
  have previousOpaque := structured.whole previous isPresented
  obtain ⟨blendOpaque, sameBlend⟩ :=
    blend_opaque (Nat.zero_le 256) previousOpaque frameOpaque same blends
  have selected := structured.timed pending isPending (by simp [starts])
  constructor <;> simp_all

theorem Structured.blended {playback : Playback} (structured : playback.Structured)
    {transition : Transition} {weight : Nat} (bound : weight ≤ 256)
    (isTransition : playback.transition = some transition) :
    Structured { playback with
      transition := some { transition with
        blend := (blendInto transition.fromFrame transition.toFrame transition.blend weight).1 } } := by
  obtain ⟨same, sameBlend⟩ := structured.dimensions transition isTransition
  obtain ⟨fromOpaque, toOpaque, blendOpaque⟩ := structured.endpoints transition isTransition
  obtain ⟨nextOpaque, sameNext⟩ :=
    blendInto_opaque bound fromOpaque toOpaque blendOpaque same sameBlend
  have running : playback.transition.isSome = true := by simp [isTransition]
  constructor
  case pending => exact fun _ => structured.pending running
  case presented => exact fun _ => structured.presented running
  case presentedImage => exact fun _ => structured.presentedImage running
  case shown => exact structured.shown
  case whole => exact structured.whole
  case timed => exact structured.timed
  all_goals
    intro next isNext
    cases isNext
  case target => exact structured.target transition isTransition
  case dimensions => exact ⟨same, sameNext⟩
  case endpoints => exact ⟨fromOpaque, toOpaque, nextOpaque⟩

theorem Structured.changed {Retries : Option Nat → Prop} {playback next : Playback}
    (structured : playback.Structured) (change : Change Retries playback next) : next.Structured := by
  cases change with
  | clocked clock monotonic => exact { structured with }
  | rescheduled points => exact { structured with }
  | dispatched isPending =>
    refine structured_of_idle (structured.idle isPending) structured.shown structured.whole ?_
    intro pending isDispatched starts
    cases isDispatched
    have chosen := structured.timed _ isPending starts
    exact chosen
  | reselected counter selection clock monotonic discontinuity =>
    exact structured.reselected counter selection clock monotonic discontinuity
  | settled => exact structured.settled
  | requeued counter startedAt retry settled =>
    refine structured_of_idle settled structured.shown structured.whole ?_
    intro pending isPending _
    cases isPending
    rfl
  | failed counter retry isPending => exact structured.failed counter retry isPending
  | presented isPending valid =>
    refine structured_of_idle rfl (fun _ => rfl) ?_ (by simp [present])
    intro shown isShown
    cases isShown
    exact validFrame_opaque valid
  | began isPending valid isPresented starts same blends =>
    exact structured.began isPending valid isPresented starts same blends _
  | blended bound isTransition => exact structured.blended bound isTransition

theorem withSolar_structured (metadata : Metadata) (primary : ImageReference)
    (appearance : AppearancePreference) (clock : ClockSnapshot) (monotonic : Nat)
    (reducedMotion : Bool) (solar : Option TimePoints) (counter : UInt64) :
    (withSolar metadata primary appearance clock monotonic reducedMotion solar
      counter).1.Structured := by
  refine structured_of_idle rfl (by simp [withSolar]) (by simp [withSolar]) ?_
  intro pending isPending starts
  cases isPending
  simp [undispatched] at starts

theorem Structured.handled {playback : Playback} (structured : playback.Structured)
    (counter : UInt64) (call : PlaybackCall) : (playback.handle counter call).1.Structured := by
  have changes : Changes (fun _ => True) playback (playback.handle counter call).1 :=
    playback.handle_changes counter call fun _ _ _ _ _ => trivial
  exact changes.keeps Structured (fun _ _ holds => holds.changed) structured

/-- Every decoded frame that the playback holds. -/
def retainedFrames (playback : Playback) : List RgbaFrame :=
  playback.presented.toList ++
    (playback.transition.map fun transition =>
      [transition.fromFrame, transition.toFrame, transition.blend]).getD []

theorem Structured.retained_opaque {playback : Playback} (structured : playback.Structured) :
    ∀ frame ∈ playback.retainedFrames, frame.Opaque := by
  intro frame member
  cases List.mem_append.mp member with
  | inl presented => exact structured.whole frame (by simpa using presented)
  | inr dissolving =>
    cases isTransition : playback.transition with
    | none => simp [isTransition] at dissolving
    | some transition =>
      obtain ⟨fromOpaque, toOpaque, blendOpaque⟩ := structured.endpoints transition isTransition
      simp only [isTransition, Option.map_some, Option.getD_some, List.mem_cons, List.not_mem_nil,
        or_false] at dissolving
      rcases dissolving with rfl | rfl | rfl
      · exact fromOpaque
      · exact toOpaque
      · exact blendOpaque

theorem Structured.retained_length {playback : Playback} (structured : playback.Structured) :
    playback.retainedFrames.length ≤ 3 := by
  cases isTransition : playback.transition with
  | none =>
    cases isPresented : playback.presented <;> simp [retainedFrames, isTransition, isPresented]
  | some transition =>
    have vacant := structured.presented (by simp [isTransition])
    simp [retainedFrames, isTransition, vacant]

end Playback

theorem playback_structured {playback : Playback} (reachable : playbackSystem.Reachable playback) :
    playback.Structured := by
  refine reachable.invariant Playback.Structured ?_ ?_
  · rintro _ ⟨metadata, primary, appearance, clock, monotonic, reducedMotion, solar, counter, rfl⟩
    exact Playback.withSolar_structured metadata primary appearance clock monotonic reducedMotion solar
      counter
  · rintro before ⟨counter, call⟩ _ structured rfl
    exact structured.handled counter call

/-- In every reachable state a dissolve stands alone, an image on screen has its frame, and at most
three frames are held, each of them opaque, within the limit and as large as it says. -/
theorem playback_structure {playback : Playback} (reachable : playbackSystem.Reachable playback) :
    (∀ transition, playback.transition = some transition →
      playback.pending = none ∧ playback.presented = none ∧ playback.presentedImage = none ∧
      sameDimensions transition.fromFrame transition.toFrame = true ∧
      sameDimensions transition.blend transition.toFrame = true ∧
      transition.toImage = playback.selected) ∧
    (playback.presentedImage.isSome = true → playback.presented.isSome = true) ∧
    (∀ frame ∈ playback.retainedFrames, frame.Opaque) ∧
    playback.retainedFrames.length ≤ 3 := by
  have structured := playback_structured reachable
  refine ⟨?_, structured.shown, structured.retained_opaque, structured.retained_length⟩
  intro transition isTransition
  have running : playback.transition.isSome = true := by simp [isTransition]
  obtain ⟨same, sameBlend⟩ := structured.dimensions transition isTransition
  exact ⟨structured.pending running, structured.presented running, structured.presentedImage running,
    same, sameBlend, structured.target transition isTransition⟩

/-! ## A dissolve at noon -/

def sampleClock (hour minute : Nat) (valid : hour < 24 ∧ minute < 60) : ClockSnapshot where
  date := { year := 2026, month := 11, day := 1, valid := by decide }
  time := { hour := hour, minute := minute, second := 0, valid := ⟨valid.1, valid.2, by decide⟩ }
  nanosecond := 0
  utcOffsetSeconds := 0
  validNanosecond := ClockSnapshot.validNanosecond_zero
  validOffset := ClockSnapshot.validOffset_zero

theorem noon_valid : 12 < 24 ∧ 0 < 60 := by decide

theorem beforeNoon_valid : 11 < 24 ∧ 59 < 60 := by decide

def samplePoints : TimePoints where
  points :=
    [{ image := ⟨0⟩, time := ⟨0, by norm_num⟩ }, { image := ⟨1⟩, time := ⟨1 / 2, NormalizedTime.valid_half⟩ }]
  nonempty := by simp

def sampleFrame (value : UInt8) : RgbaFrame where
  width := 1
  height := 1
  pixels := [value, value, value, 255]
  capacity := 4

/-- One minute to noon, before the first decode. -/
def morningPlayback : Playback :=
  (Playback.withSolar {} ⟨0⟩ .automatic (sampleClock 11 59 beforeNoon_valid) 0 false (some samplePoints) 0).1

def noonCalls : List (UInt64 × PlaybackCall) :=
  [(1, .takeDecodeRequest),
    (1, .completeDecode ⟨0, ⟨0⟩⟩ (some (sampleFrame 10)) 0 none),
    (1, .synchronize (sampleClock 12 0 noon_valid) (Duration.fromSecs 60)),
    (2, .takeDecodeRequest),
    (2, .completeDecode ⟨1, ⟨1⟩⟩ (some (sampleFrame 200)) (Duration.fromSecs 61) (some 4))]

def noonPlayback : Playback :=
  noonCalls.foldl Playback.step morningPlayback

theorem noonPlayback_reachable : playbackSystem.Reachable noonPlayback := by
  have morning : playbackSystem.Reachable morningPlayback := .initial ⟨_, _, _, _, _, _, _, _, rfl⟩
  exact TransitionSystem.reachable_foldl morning noonCalls

theorem playback_structure_sample :
    noonPlayback.isTransitioning = true ∧
    (∀ transition, noonPlayback.transition = some transition →
      noonPlayback.pending = none ∧ noonPlayback.presented = none ∧
      noonPlayback.presentedImage = none ∧
      sameDimensions transition.fromFrame transition.toFrame = true ∧
      sameDimensions transition.blend transition.toFrame = true ∧
      transition.toImage = noonPlayback.selected) ∧
    (noonPlayback.presentedImage.isSome = true → noonPlayback.presented.isSome = true) ∧
    (∀ frame ∈ noonPlayback.retainedFrames, frame.Opaque) ∧
    noonPlayback.retainedFrames.length ≤ 3 :=
  ⟨by decide +kernel, playback_structure noonPlayback_reachable⟩

end Genkan.DynamicWallpaper
