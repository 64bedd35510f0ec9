import Genkan.DynamicWallpaper.Document
import Genkan.DynamicWallpaper.PlaybackChanges
import Genkan.Foundations.Results

/-! # The sizes of the frames that a playback retains

No function of the playback makes a size of its own: every frame that it holds, a blend included, is as
large as one that was decoded.  What is decoded is within the limits of the document.
-/

namespace Genkan.DynamicWallpaper

open Foundations

namespace Playback

/-- Every frame that the playback holds has an allowed size. -/
structure Sized (allowed : Nat → Nat → Prop) (playback : Playback) : Prop where
  presented : ∀ frame, playback.presented = some frame → allowed frame.width frame.height
  endpoints : ∀ transition, playback.transition = some transition →
    allowed transition.fromFrame.width transition.fromFrame.height ∧
      allowed transition.toFrame.width transition.toFrame.height
  blend : ∀ transition, playback.transition = some transition →
    allowed transition.blend.width transition.blend.height

variable {allowed : Nat → Nat → Prop} {playback : Playback}

/-- What is shown or about to be shown is all that matters. -/
theorem Sized.of_frames {next : Playback} (sized : playback.Sized allowed)
    (presented : next.presented = playback.presented) (transition : next.transition = playback.transition) :
    next.Sized allowed where
  presented := presented ▸ sized.presented
  endpoints := transition ▸ sized.endpoints
  blend := transition ▸ sized.blend

theorem sized_of_idle (idle : playback.transition = none)
    (presented : ∀ frame, playback.presented = some frame → allowed frame.width frame.height) :
    playback.Sized allowed where
  presented := presented
  endpoints := by simp [idle]
  blend := by simp [idle]

theorem Sized.frame (sized : playback.Sized allowed) {frame : RgbaFrame} (isFrame : playback.frame = some frame) :
    allowed frame.width frame.height := by
  rw [Playback.frame, Option.or_eq_some_iff] at isFrame
  cases isFrame with
  | inl isBlend =>
    obtain ⟨transition, isTransition, rfl⟩ := Option.map_eq_some_iff.mp isBlend
    exact sized.blend transition isTransition
  | inr isPresented => exact sized.presented frame isPresented.2

/-! ## Synchronization -/

theorem Sized.settled (sized : playback.Sized allowed) : playback.settle.1.Sized allowed := by
  simp only [settle]
  split
  next transition isTransition =>
    refine sized_of_idle rfl ?_
    intro frame isFrame
    cases isFrame
    exact (sized.endpoints transition isTransition).2
  next => exact sized

theorem Sized.reselected (sized : playback.Sized allowed) (counter : UInt64) (selection : ImageReference)
    (clock : ClockSnapshot) (monotonic : Nat) (discontinuity : Bool) :
    (playback.reselect counter selection clock monotonic discontinuity).Sized allowed := by
  cases isTransition : playback.transition with
  | some transition =>
    simp only [reselect, isTransition]
    refine sized_of_idle rfl ?_
    intro frame isFrame
    cases isFrame
    exact sized.blend transition isTransition
  | none =>
    simp only [reselect, isTransition]
    exact sized_of_idle rfl sized.presented

theorem Sized.recovered (sized : playback.Sized allowed) (counter : UInt64) (selection : ImageReference)
    (monotonic : Nat) : (playback.recover counter selection monotonic).1.Sized allowed := by
  have settled := sized.settled
  simp only [recover]
  split
  next => exact settled.of_frames rfl rfl
  next =>
    split
    next => exact settled.of_frames rfl rfl
    next => exact settled

theorem Sized.retried (sized : playback.Sized allowed) (counter : UInt64) (selection : ImageReference)
    (clock : ClockSnapshot) (monotonic : Nat) :
    (playback.retry counter selection clock monotonic).1.Sized allowed := by
  simp only [retry]
  split
  next => exact sized.of_frames rfl rfl
  next => exact sized

theorem Sized.synchronized (sized : playback.Sized allowed) (counter : UInt64) (clock : ClockSnapshot)
    (monotonic : Nat) (forceDiscontinuity : Bool) :
    (playback.synchronizeInner counter clock monotonic forceDiscontinuity).1.Sized allowed := by
  have clocked (next : Playback) (nextSized : next.Sized allowed) :
      Sized allowed { next with lastClock := clock, lastMonotonic := monotonic } := nextSized.of_frames rfl rfl
  simp only [synchronizeInner]
  split
  next => exact clocked _ (sized.reselected counter _ clock monotonic _)
  next =>
    split
    next => exact clocked _ (sized.recovered counter _ monotonic)
    next => exact clocked _ (sized.retried counter _ clock monotonic)

/-! ## Dissolves and completions -/

theorem Sized.advanced (sized : playback.Sized allowed) (monotonic : Nat) :
    (playback.advanceTransition monotonic).1.Sized allowed := by
  simp only [advanceTransition]
  split
  next => exact sized
  next transition isTransition =>
    split
    next => exact sized.settled
    next =>
      refine { presented := sized.presented, endpoints := ?_, blend := ?_ }
      · intro next isNext
        cases isNext
        exact sized.endpoints transition isTransition
      · intro next isNext
        cases isNext
        exact sized.blend transition isTransition

theorem Sized.asked (sized : playback.Sized allowed) : playback.takeDecodeRequest.1.Sized allowed := by
  simp only [takeDecodeRequest]
  split
  next => exact sized
  next =>
    split
    next => exact sized
    next => exact sized.of_frames rfl rfl

theorem Sized.resolved (sized : playback.Sized allowed) (pending : Option PendingDecode) (retry : Option Nat) :
    Sized allowed { playback with pending := pending, retryNotBefore := retry } := sized.of_frames rfl rfl

theorem Sized.queued (sized : playback.Sized allowed) (image : ImageReference) (counter : UInt64) :
    (playback.queuePrimaryFallback image counter).1.Sized allowed := by
  simp only [queuePrimaryFallback]
  split
  next => exact sized
  next => exact sized.of_frames rfl rfl

theorem Sized.failed (sized : playback.Sized allowed) (counter : UInt64) (image : ImageReference) (monotonic : Nat) :
    (playback.fail counter image monotonic).1.Sized allowed := by
  rw [fail]
  exact (sized.resolved playback.pending _).queued image counter

/-- A blend is as large as the frame that it leads to. -/
theorem Sized.adopted (sized : playback.Sized allowed) (pending : PendingDecode) {frame : RgbaFrame}
    (fits : allowed frame.width frame.height) (monotonic maxBlendBytes : Nat) (storage : Option Nat) :
    (playback.adopt pending frame monotonic maxBlendBytes storage).1.Sized allowed := by
  have shown : (playback.present frame pending.request.image).Sized allowed := by
    refine sized_of_idle rfl ?_
    intro other isFrame
    cases isFrame
    exact fits
  simp only [adopt]
  split
  next previous startedAt isPresented _ =>
    split
    next => exact shown
    next =>
      split
      next => exact shown
      next blended blends =>
        apply Sized.advanced
        simp only [DynamicWallpaper.blend, Option.ite_none_left_eq_some, Option.map_eq_some_iff] at blends
        obtain ⟨_, capacity, _, rfl⟩ := blends
        refine { presented := by simp, endpoints := ?_, blend := ?_ }
        · intro transition isTransition
          cases isTransition
          exact ⟨sized.presented previous isPresented, fits⟩
        · intro transition isTransition
          cases isTransition
          exact fits
  next => exact shown

theorem Sized.completed (sized : playback.Sized allowed) (counter : UInt64) (request : DecodeRequest)
    {result : Option RgbaFrame} (fits : ∀ frame, result = some frame → allowed frame.width frame.height)
    (monotonic : Nat) (storage : Option Nat) :
    (playback.completeDecode counter request result monotonic storage).1.Sized allowed := by
  simp only [completeDecode, completeDecodeWithLimit]
  split
  next => exact sized
  next pending _ =>
    split
    next => exact sized
    next =>
      split
      next => exact (sized.resolved none playback.retryNotBefore).failed counter _ monotonic
      next frame =>
        split
        next => exact (sized.resolved none playback.retryNotBefore).failed counter _ monotonic
        next =>
          split
          next => exact (sized.resolved none none).adopted pending (fits frame rfl) monotonic _ storage
          next =>
            exact (sized.resolved none playback.retryNotBefore).adopted pending (fits frame rfl) monotonic _ storage

end Playback

/-! ## Decoded frames -/

namespace Heic

open Foundations.Bytes Foundations.Results

theorem packRgba_size {source : Slice} {stride width height : Nat} {limits : Limits} {premultipliedAlpha : Bool}
    {color : Option TransformExecutor} {reserved : Reservations} {frame : RgbaFrame}
    (packs : packRgba source stride width height limits premultipliedAlpha color reserved = .ok frame) :
    frame.width = width ∧ frame.height = height := by
  simp only [packRgba, bind_eq_ok] at packs
  obtain ⟨_, _, _, _, _, _, _, _, _, _, _, _, _, _, packs⟩ := packs
  cases color with
  | none =>
    cases packs
    exact ⟨rfl, rfl⟩
  | some transform =>
    obtain ⟨_, _, packs⟩ := bind_eq_ok.mp packs
    cases packs
    exact ⟨rfl, rfl⟩

/-- A decoded frame is within the limits of the document that it is decoded from. -/
theorem Document.decode_within {libraries : Libraries} {document : Document} {image : ImageReference} {options : Bool}
    {reserved : Reservations} {frame : RgbaFrame}
    (decodes : document.decode libraries image options reserved = .ok frame) :
    frame.width ≤ document.limits.maxWidth.toNat ∧ frame.height ≤ document.limits.maxHeight.toNat := by
  simp only [Document.decode, bind_eq_ok] at decodes
  obtain ⟨_, _, handle, _, _, validates, _, _, _, _, _, _, _, _, _, _, plane, _, _, matching, _, _, packs⟩ := decodes
  simp only [validateDimensions, bind_eq_ok] at validates
  obtain ⟨_, _, within⟩ := validates
  rw [rejectIf_eq_ok] at matching within
  obtain ⟨isWidth, isHeight⟩ := packRgba_size packs
  simp only [not_or, not_lt, ne_eq, not_not] at matching within
  rw [isWidth, isHeight, matching.1, matching.2]
  exact ⟨UInt32.le_iff_toNat_le.mp (UInt32.not_lt.mp within.2.2.1),
    UInt32.le_iff_toNat_le.mp (UInt32.not_lt.mp within.2.2.2.1)⟩

theorem Document.openSource_limits {libraries : Libraries} {source : Slice} {limits : Limits} {document : Document}
    (opens : openSource libraries source limits = .ok document) : document.limits = limits := by
  simp only [openSource, bind_eq_ok] at opens
  obtain ⟨_, _, _, _, _, _, _, _, _, _, _, _, _, _, _, _, _, _, isDocument⟩ := opens
  cases isDocument
  rfl

end Heic

end Genkan.DynamicWallpaper
