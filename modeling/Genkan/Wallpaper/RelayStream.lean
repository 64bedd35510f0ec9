import Genkan.Wallpaper.Relay

/-! # What is relayed

Every byte stream is a list of sound frames and a rest at which the reader stops.
-/

namespace Genkan.Wallpaper

open DynamicWallpaper (RgbaFrame checkedMul)
open Foundations.Bytes Foundations.ByteStream

/-! ## Sound frames -/

/-- A header may announce these pixels. -/
structure Consistent (width height length : Nat) : Prop where
  wide : 1 ≤ width ∧ width ≤ maxHeicFrameDimension
  tall : 1 ≤ height ∧ height ≤ maxHeicFrameDimension
  exactly : length = width * height * 4
  bounded : length ≤ maxHeicFrameBytes

/-- Within the limit on the dimensions no product overflows. -/
theorem checkedMul_within {width height : Nat} (wide : width ≤ maxHeicFrameDimension)
    (tall : height ≤ maxHeicFrameDimension) :
    (checkedMul width height).bind (checkedMul · 4) = some (width * height * 4) := by
  have area : width * height ≤ maxHeicFrameDimension * maxHeicFrameDimension :=
    Nat.mul_le_mul wide tall
  have room : maxHeicFrameDimension * maxHeicFrameDimension * 4 < DynamicWallpaper.usizeLimit := by decide
  have first : width * height < DynamicWallpaper.usizeLimit := by omega
  have second : width * height * 4 < DynamicWallpaper.usizeLimit := by omega
  rw [checkedMul, if_pos first, Option.bind_some, checkedMul, if_pos second]

theorem expectedFrameBytes_eq_some {width height length : Nat} :
    expectedFrameBytes width height = some length ↔ Consistent width height length := by
  constructor
  · intro expected
    rw [expectedFrameBytes] at expected
    split at expected
    next => contradiction
    next positive =>
      split at expected
      next => contradiction
      next within =>
        have wide : width ≤ maxHeicFrameDimension := by omega
        have tall : height ≤ maxHeicFrameDimension := by omega
        rw [checkedMul_within wide tall] at expected
        simp only at expected
        split at expected
        next bounded =>
          have isLength := Option.some.inj expected
          exact {
            wide := ⟨by omega, wide⟩
            tall := ⟨by omega, tall⟩
            exactly := isLength.symm
            bounded := isLength ▸ bounded }
        next => contradiction
  · intro consistent
    have wide := consistent.wide
    have tall := consistent.tall
    have bounded := consistent.bounded
    rw [consistent.exactly] at bounded ⊢
    rw [expectedFrameBytes, if_neg (by omega), if_neg (by omega), checkedMul_within wide.2 tall.2]
    simp only
    rw [if_pos bounded]

/-- A decoded frame that may be relayed. -/
structure RelayFrame extends RgbaFrame where
  sound : Consistent width height pixels.length

namespace RelayFrame

/-- What the consumer is given. -/
def frame (frame : RelayFrame) : Frame :=
  { width := frame.width, height := frame.height, pixels := frame.pixels, pts := none }

def header (frame : RelayFrame) : List UInt8 :=
  toLittleEndian 4 frame.width ++ toLittleEndian 4 frame.height ++ toLittleEndian 4 frame.pixels.length

def bytes (frame : RelayFrame) : List UInt8 := heicFrameTag :: (frame.header ++ frame.pixels)

theorem written (frame : RelayFrame) : writeHeicFrame frame.toRgbaFrame none = .ok frame.bytes := by
  have small : ¬ 2 ^ 32 ≤ frame.pixels.length := by
    have bounded := frame.sound.bounded
    have ceiling : maxHeicFrameBytes < 2 ^ 32 := by decide
    omega
  rw [writeHeicFrame, if_neg small]
  simp [bytes, header]

theorem header_length (frame : RelayFrame) : frame.header.length = heicHeaderBytes := by
  simp [header, heicHeaderBytes]

end RelayFrame

/-! ## One pass of the loop -/

def ConsistentHeader (header : List UInt8) : Prop :=
  Consistent (headerWidth header) (headerHeight header) (headerLength header)

theorem RelayFrame.header_fields (frame : RelayFrame) :
    headerWidth frame.header = frame.width ∧ headerHeight frame.header = frame.height ∧
      headerLength frame.header = frame.pixels.length := by
  have ceiling : maxHeicFrameDimension < 256 ^ 4 ∧ maxHeicFrameBytes < 256 ^ 4 := by decide
  have sound := frame.sound
  have width : frame.width < 256 ^ 4 := Nat.lt_of_le_of_lt sound.wide.2 ceiling.1
  have height : frame.height < 256 ^ 4 := Nat.lt_of_le_of_lt sound.tall.2 ceiling.1
  have length : frame.pixels.length < 256 ^ 4 := Nat.lt_of_le_of_lt sound.bounded ceiling.2
  refine ⟨?_, ?_, ?_⟩
  · rw [headerWidth, header, List.append_assoc, List.take_left' (toLittleEndian_length _ _),
      ofLittleEndian_toLittleEndian width]
  · rw [headerHeight, header, List.append_assoc, List.drop_left' (toLittleEndian_length _ _),
      List.take_left' (toLittleEndian_length _ _), ofLittleEndian_toLittleEndian height]
  · rw [headerLength, header, List.drop_left' (by simp),
      List.take_of_length_le (Nat.le_of_eq (toLittleEndian_length _ _)),
      ofLittleEndian_toLittleEndian length]

/-- Why the reader stops at these bytes.  `reserves` tells which buffers the allocator grants. -/
inductive Stops (reserves : Nat → Bool) : List UInt8 → Prop where
  | closed : Stops reserves []
  | failureTag (rest : List UInt8) : Stops reserves (heicFailedTag :: rest)
  | unknownTag (tag : UInt8) (rest : List UInt8) (notFrame : tag ≠ heicFrameTag)
      (notFailed : tag ≠ heicFailedTag) : Stops reserves (tag :: rest)
  | shortHeader (header : List UInt8) (short : header.length < heicHeaderBytes) :
      Stops reserves (heicFrameTag :: header)
  | inconsistent (header rest : List UInt8) (length : header.length = heicHeaderBytes)
      (bad : ¬ ConsistentHeader header) : Stops reserves (heicFrameTag :: (header ++ rest))
  | shortPixels (header pixels : List UInt8) (length : header.length = heicHeaderBytes)
      (consistent : ConsistentHeader header) (short : pixels.length < headerLength header) :
      Stops reserves (heicFrameTag :: (header ++ pixels))
  | refused (header rest : List UInt8) (length : header.length = heicHeaderBytes)
      (consistent : ConsistentHeader header) (refusal : reserves (headerLength header) = false) :
      Stops reserves (heicFrameTag :: (header ++ rest))

/-- Filling a buffer from the front of what is delivered. -/
theorem readExact_front {stream : List Piece} {front rest : List UInt8} {needed : Nat}
    (length : front.length = needed) (holds : delivered stream = front ++ rest) :
    ∃ remaining, readExact needed stream = (.ok front, remaining) ∧ delivered remaining = rest := by
  have enough : needed ≤ (delivered stream).length := by
    rw [holds, List.length_append, length]
    exact Nat.le_add_right _ _
  obtain ⟨taken, left⟩ := readExact_filled enough
  rw [holds, List.take_left' length] at taken
  rw [holds, List.drop_left' length] at left
  exact ⟨(readExact needed stream).2, Prod.ext taken rfl, left⟩

theorem readExact_cut {stream : List Piece} {needed : Nat}
    (short : (delivered stream).length < needed) :
    ∃ stop remaining, readExact needed stream = (.error stop, remaining) := by
  obtain ⟨stop, stopped⟩ := readExact_short short
  exact ⟨stop, (readExact needed stream).2, Prod.ext stopped rfl⟩

theorem readRelayed_frameTag (reserves : Nat → Bool) {stream : List Piece} {rest : List UInt8}
    (holds : delivered stream = heicFrameTag :: rest) :
    ∃ remaining, delivered remaining = rest ∧
      readRelayed reserves stream = readRelayedFrame reserves remaining := by
  have length : [heicFrameTag].length = 1 := rfl
  obtain ⟨remaining, reads, left⟩ := readExact_front length holds
  refine ⟨remaining, left, ?_⟩
  rw [readRelayed, reads]
  simp only
  rw [if_neg (by decide), if_neg (by decide)]

theorem readRelayed_otherTag (reserves : Nat → Bool) {stream : List Piece} {tag : UInt8}
    {rest : List UInt8} (holds : delivered stream = tag :: rest) (notFrame : tag ≠ heicFrameTag) :
    readRelayed reserves stream = if tag = heicFailedTag then .failed else .broken := by
  have length : [tag].length = 1 := rfl
  obtain ⟨remaining, reads, _⟩ := readExact_front length holds
  rw [readRelayed, reads]
  simp [notFrame]

theorem readRelayedFrame_whole {reserves : Nat → Bool} {stream : List Piece}
    {header pixels rest : List UInt8} (length : header.length = heicHeaderBytes)
    (consistent : ConsistentHeader header) (whole : pixels.length = headerLength header)
    (granted : reserves (headerLength header) = true)
    (holds : delivered stream = header ++ (pixels ++ rest)) :
    ∃ remaining, delivered remaining = rest ∧ readRelayedFrame reserves stream =
      .frame (headerWidth header) (headerHeight header) pixels remaining := by
  obtain ⟨between, readsHeader, afterHeader⟩ := readExact_front length holds
  obtain ⟨remaining, readsPixels, left⟩ := readExact_front whole afterHeader
  refine ⟨remaining, left, ?_⟩
  rw [readRelayedFrame, readsHeader]
  simp only
  rw [expectedFrameBytes_eq_some.mpr consistent, readFrameBuffer, if_pos granted, readsPixels]
  simp only [ne_eq, not_true_eq_false, if_false]

/-- A buffer that is refused, or that the pipe cannot fill, ends the relay. -/
theorem readRelayedFrame_unfilled {reserves : Nat → Bool} {stream : List Piece}
    {header rest : List UInt8} (length : header.length = heicHeaderBytes)
    (consistent : ConsistentHeader header)
    (unfilled : reserves (headerLength header) = true → rest.length < headerLength header)
    (holds : delivered stream = header ++ rest) : readRelayedFrame reserves stream = .broken := by
  obtain ⟨between, readsHeader, afterHeader⟩ := readExact_front length holds
  have nothing : readFrameBuffer reserves between (headerLength header) = none := by
    rw [readFrameBuffer]
    split
    next granted =>
      rw [← afterHeader] at unfilled
      obtain ⟨stop, remaining, stopped⟩ := readExact_cut (unfilled granted)
      rw [stopped]
    next => rfl
  rw [readRelayedFrame, readsHeader]
  simp only
  rw [expectedFrameBytes_eq_some.mpr consistent, nothing]
  simp only [ne_eq, not_true_eq_false, if_false]

theorem readRelayedFrame_inconsistent (reserves : Nat → Bool) {stream : List Piece}
    {header rest : List UInt8} (length : header.length = heicHeaderBytes)
    (bad : ¬ ConsistentHeader header) (holds : delivered stream = header ++ rest) :
    readRelayedFrame reserves stream = .broken := by
  obtain ⟨remaining, reads, _⟩ := readExact_front length holds
  rw [readRelayedFrame, reads]
  simp only
  split
  next => rfl
  next expected isExpected =>
    have differs : headerLength header ≠ expected := by
      intro same
      rw [← same] at isExpected
      exact bad (expectedFrameBytes_eq_some.mp isExpected)
    rw [if_pos differs]

theorem readRelayed_frame {reserves : Nat → Bool} {stream : List Piece} {frame : RelayFrame}
    {rest : List UInt8} (granted : reserves frame.pixels.length = true)
    (holds : delivered stream = frame.bytes ++ rest) :
    ∃ remaining, delivered remaining = rest ∧
      readRelayed reserves stream = .frame frame.width frame.height frame.pixels remaining := by
  obtain ⟨isWidth, isHeight, isLength⟩ := frame.header_fields
  have front : delivered stream = heicFrameTag :: (frame.header ++ (frame.pixels ++ rest)) := by
    rw [holds, RelayFrame.bytes, List.cons_append, List.append_assoc]
  obtain ⟨between, afterTag, isBody⟩ := readRelayed_frameTag reserves front
  have consistent : ConsistentHeader frame.header := by
    rw [ConsistentHeader, isWidth, isHeight, isLength]
    exact frame.sound
  obtain ⟨remaining, left, isFrame⟩ := readRelayedFrame_whole frame.header_length consistent
    isLength.symm (isLength.symm ▸ granted) afterTag
  rw [isWidth, isHeight] at isFrame
  exact ⟨remaining, left, isBody.trans isFrame⟩

/-- Where the reader stops it takes no frame. -/
theorem readRelayed_stops {reserves : Nat → Bool} {stream : List Piece}
    (stops : Stops reserves (delivered stream)) :
    readRelayed reserves stream = .failed ∨ readRelayed reserves stream = .broken := by
  generalize isDelivered : delivered stream = bytes at stops
  cases stops with
  | closed =>
    have short : (delivered stream).length < 1 := by simp [isDelivered]
    obtain ⟨stop, remaining, stopped⟩ := readExact_cut short
    exact .inr (by rw [readRelayed, stopped])
  | failureTag rest =>
    rw [readRelayed_otherTag reserves isDelivered (by decide)]
    exact .inl (if_pos rfl)
  | unknownTag tag rest notFrame notFailed =>
    rw [readRelayed_otherTag reserves isDelivered notFrame]
    exact .inr (if_neg notFailed)
  | shortHeader header short =>
    obtain ⟨between, afterTag, isBody⟩ := readRelayed_frameTag reserves isDelivered
    rw [← afterTag] at short
    obtain ⟨stop, remaining, stopped⟩ := readExact_cut short
    exact .inr (by rw [isBody, readRelayedFrame, stopped])
  | inconsistent header rest length bad =>
    obtain ⟨between, afterTag, isBody⟩ := readRelayed_frameTag reserves isDelivered
    exact .inr (isBody.trans (readRelayedFrame_inconsistent reserves length bad afterTag))
  | shortPixels header pixels length consistent short =>
    obtain ⟨between, afterTag, isBody⟩ := readRelayed_frameTag reserves isDelivered
    exact .inr (isBody.trans (readRelayedFrame_unfilled length consistent (fun _ => short) afterTag))
  | refused header rest length consistent refusal =>
    obtain ⟨between, afterTag, isBody⟩ := readRelayed_frameTag reserves isDelivered
    have unfilled : reserves (headerLength header) = true → rest.length < headerLength header := by
      intro granted
      rw [refusal] at granted
      contradiction
    exact .inr (isBody.trans (readRelayedFrame_unfilled length consistent unfilled afterTag))

/-! ## Every stream is frames and a stop -/

/-- A consistent header announces a sound frame. -/
theorem sound_frame {header pixels : List UInt8} (length : header.length = heicHeaderBytes)
    (consistent : ConsistentHeader header) (whole : pixels.length = headerLength header) :
    ∃ frame : RelayFrame, frame.pixels = pixels ∧
      frame.bytes = heicFrameTag :: (header ++ pixels) := by
  let frame : RelayFrame :=
    { width := headerWidth header
      height := headerHeight header
      pixels := pixels
      capacity := pixels.length
      sound := whole ▸ consistent }
  have isHeader : frame.header = header := by
    simp only [heicHeaderBytes] at length
    have last : (header.drop 8).take 4 = (header.drop 4).drop 4 := by
      rw [List.drop_drop, List.take_of_length_le (by simp [length])]
    simp only [RelayFrame.header, frame, whole]
    rw [headerWidth, headerHeight, headerLength, toLittleEndian_ofLittleEndian (by simp [length]),
      toLittleEndian_ofLittleEndian (by simp [length]), toLittleEndian_ofLittleEndian (by simp [length]),
      last, List.append_assoc, List.take_append_drop, List.take_append_drop]
  exact ⟨frame, rfl, by rw [RelayFrame.bytes, isHeader]⟩

/-- The front of a stream is a frame or a stop. -/
theorem frame_or_stops (reserves : Nat → Bool) (bytes : List UInt8) :
    (∃ (frame : RelayFrame) (rest : List UInt8), reserves frame.pixels.length = true ∧
      bytes = frame.bytes ++ rest) ∨ Stops reserves bytes := by
  cases bytes with
  | nil => exact .inr .closed
  | cons tag body =>
    by_cases isFrame : tag = heicFrameTag
    · subst isFrame
      by_cases longHeader : heicHeaderBytes ≤ body.length
      · -- The header is whole: what it announces decides.
        have length : (body.take heicHeaderBytes).length = heicHeaderBytes :=
          List.length_take_of_le longHeader
        rw [← List.take_append_drop heicHeaderBytes body]
        generalize body.take heicHeaderBytes = header at length ⊢
        generalize body.drop heicHeaderBytes = rest
        by_cases consistent : ConsistentHeader header
        · cases granted : reserves (headerLength header) with
          | false => exact .inr (.refused header rest length consistent granted)
          | true =>
            by_cases longPixels : headerLength header ≤ rest.length
            · have whole := List.length_take_of_le longPixels
              obtain ⟨frame, isPixels, isBytes⟩ := sound_frame length consistent whole
              refine .inl ⟨frame, rest.drop (headerLength header), ?_, ?_⟩
              · rw [isPixels, whole, granted]
              · rw [isBytes, List.cons_append, List.append_assoc, List.take_append_drop]
            · exact .inr (.shortPixels header rest length consistent (Nat.lt_of_not_le longPixels))
        · exact .inr (.inconsistent header rest length consistent)
      · exact .inr (.shortHeader body (Nat.lt_of_not_le longHeader))
    · by_cases isFailed : tag = heicFailedTag
      · subst isFailed
        exact .inr (.failureTag body)
      · exact .inr (.unknownTag tag body isFrame isFailed)

/-- The bytes are these frames, for each of which a buffer is granted, and a rest at which the reader
stops.  `reserves` is indexed by the number of frames before. -/
structure Splits (reserves : Nat → Nat → Bool) (bytes : List UInt8) (frames : List RelayFrame)
    (rest : List UInt8) : Prop where
  whole : bytes = frames.flatMap RelayFrame.bytes ++ rest
  granted : ∀ index frame, frames[index]? = some frame → reserves index frame.pixels.length = true
  stops : Stops (reserves frames.length) rest

theorem Splits.cons {reserves : Nat → Nat → Bool} {bytes rest : List UInt8} {frame : RelayFrame}
    {frames : List RelayFrame} (granted : reserves 0 frame.pixels.length = true)
    (splits : Splits (fun index => reserves (index + 1)) bytes frames rest) :
    Splits reserves (frame.bytes ++ bytes) (frame :: frames) rest := by
  refine { whole := ?_, granted := ?_, stops := splits.stops }
  · rw [splits.whole, List.flatMap_cons, List.append_assoc]
  · intro index later isLater
    cases index with
    | zero =>
      have isFrame : frame = later := Option.some.inj isLater
      rw [← isFrame]
      exact granted
    | succ index => exact splits.granted index later isLater

theorem Splits.of_cons {reserves : Nat → Nat → Bool} {bytes rest : List UInt8} {frame : RelayFrame}
    {frames : List RelayFrame} (splits : Splits reserves bytes (frame :: frames) rest) :
    reserves 0 frame.pixels.length = true ∧ ∃ after, bytes = frame.bytes ++ after ∧
      Splits (fun index => reserves (index + 1)) after frames rest := by
  refine ⟨splits.granted 0 frame rfl, frames.flatMap RelayFrame.bytes ++ rest, ?_, ?_⟩
  · rw [splits.whole, List.flatMap_cons, List.append_assoc]
  · exact {
      whole := rfl
      granted := fun index later isLater => splits.granted (index + 1) later isLater
      stops := splits.stops }

/-- Every byte string splits.  The induction is on its length, since a frame takes at least its tag. -/
theorem splits_exist (reserves : Nat → Nat → Bool) (bytes : List UInt8) :
    ∃ frames rest, Splits reserves bytes frames rest := by
  induction isLength : bytes.length using Nat.strong_induction_on generalizing bytes reserves with
  | h length inductionHypothesis =>
    cases frame_or_stops (reserves 0) bytes with
    | inl isFrame =>
      obtain ⟨frame, after, granted, whole⟩ := isFrame
      have shorter : after.length < length := by
        rw [← isLength, whole, List.length_append, RelayFrame.bytes, List.length_cons]
        omega
      obtain ⟨frames, rest, splits⟩ :=
        inductionHypothesis after.length shorter (fun index => reserves (index + 1)) after rfl
      exact ⟨frame :: frames, rest, whole ▸ splits.cons granted⟩
    | inr stops =>
      refine ⟨[], bytes, { whole := rfl, granted := ?_, stops := stops }⟩
      intro index frame isFrame
      simp at isFrame

/-! ## The whole loop -/

theorem failHeic_fresh {shared : HeicShared} (fresh : shared.failed = false) :
    shared.failHeic.failed = true ∧ shared.failHeic.published = shared.published ++ [.failed] := by
  rw [HeicShared.failHeic, fresh]
  exact ⟨rfl, rfl⟩

theorem emitHeicFrame_fresh {shared : HeicShared} (fresh : shared.failed = false) (frame : RelayFrame) :
    (shared.emitHeicFrame frame.width frame.height (some frame.pixels)).2.failed = false ∧
      (shared.emitHeicFrame frame.width frame.height (some frame.pixels)).2.published =
        shared.published ++ [.frame frame.frame] := by
  rw [HeicShared.emitHeicFrame, fresh]
  exact ⟨fresh, rfl⟩

/-- The consumer leaves the record of what was published and the latch alone. -/
theorem taken_published (takes : Bool) (shared : HeicShared) :
    (if takes then shared.takeLatest.2 else shared).failed = shared.failed ∧
      (if takes then shared.takeLatest.2 else shared).published = shared.published := by
  cases takes <;> exact ⟨rfl, rfl⟩

/-- The induction is on the frames that are still to come. -/
theorem relayLoop_splits {surroundings : Surroundings} {fuel relayed : Nat} {stream : List Piece}
    {shared : HeicShared} {frames : List RelayFrame} {rest : List UInt8}
    (running : ∀ turn, surroundings.stopping turn = false)
    (splits : Splits (fun index => surroundings.reserves (relayed + index)) (delivered stream) frames rest)
    (fresh : shared.failed = false) (enough : (delivered stream).length < fuel) :
    ∃ final, relayLoop surroundings fuel relayed stream shared = some final ∧ final.failed = true ∧
      final.published = shared.published ++ frames.map (Update.frame ·.frame) ++ [.failed] := by
  -- By induction on the frames; the fuel is more than the bytes, and a frame has at least one.
  induction frames generalizing fuel relayed stream shared with
  | nil =>
    obtain ⟨fuel, rfl⟩ := Nat.exists_eq_succ_of_ne_zero (Nat.ne_zero_of_lt enough)
    obtain ⟨latched, published⟩ := failHeic_fresh fresh
    refine ⟨shared.failHeic, ?_, latched, by rw [published, List.map_nil, List.append_nil]⟩
    have stops : Stops (surroundings.reserves relayed) (delivered stream) := by
      have isRest : delivered stream = rest := splits.whole
      rw [isRest]
      exact splits.stops
    cases readRelayed_stops stops with
    | inl isFailed => rw [relayLoop, isFailed]
    | inr isBroken =>
      rw [relayLoop, isBroken, running relayed]
      rfl
  | cons frame frames inductionHypothesis =>
    obtain ⟨fuel, rfl⟩ := Nat.exists_eq_succ_of_ne_zero (Nat.ne_zero_of_lt enough)
    obtain ⟨granted, after, whole, later⟩ := splits.of_cons
    simp only [Nat.add_zero] at granted
    obtain ⟨remaining, left, isFrame⟩ := readRelayed_frame granted whole
    obtain ⟨stillFresh, emitted⟩ := emitHeicFrame_fresh fresh frame
    obtain ⟨takenFresh, takenPublished⟩ := taken_published (surroundings.takes relayed)
      (shared.emitHeicFrame frame.width frame.height (some frame.pixels)).2
    have shorter : (delivered remaining).length < fuel := by
      rw [whole, List.length_append, RelayFrame.bytes, List.length_cons] at enough
      rw [left]
      omega
    have laterSplits : Splits (fun index => surroundings.reserves (relayed + 1 + index))
        (delivered remaining) frames rest := by
      rw [left]
      simpa only [Nat.add_assoc, Nat.add_comm 1] using later
    obtain ⟨final, finishes, latched, published⟩ :=
      inductionHypothesis laterSplits (takenFresh.trans stillFresh) shorter
    refine ⟨final, ?_, latched, ?_⟩
    · rw [relayLoop, isFrame]
      simp only
      rw [running relayed]
      exact finishes
    · rw [published, takenPublished, emitted, List.map_cons]
      simp

theorem writeHeicFrames_ok (frames : List RelayFrame) :
    writeHeicFrames (frames.map RelayFrame.toRgbaFrame) = .ok (frames.flatMap RelayFrame.bytes) := by
  induction frames with
  | nil => rfl
  | cons frame frames inductionHypothesis =>
    rw [List.map_cons, writeHeicFrames, frame.written, inductionHypothesis]
    rfl

/-- The relay, while nobody cancels.  What was written arrives frame by frame if no buffer is refused,
and any stream whatsoever, wherever it is cut, yields its sound frames before the first stop and then
one failure. -/
theorem heic_relay (surroundings : Surroundings)
    (running : ∀ turn, surroundings.stopping turn = false) (stream : List Piece) :
    (∀ frames : List RelayFrame,
      (∀ index frame, frames[index]? = some frame →
        surroundings.reserves index frame.pixels.length = true) →
      ∃ written, writeHeicFrames (frames.map RelayFrame.toRgbaFrame) = .ok written ∧
        (delivered stream = written → ∃ final, runHeicReader surroundings stream {} = some final ∧
          final.published = frames.map (Update.frame ·.frame) ++ [.failed])) ∧
    (∃ frames rest, Splits surroundings.reserves (delivered stream) frames rest) ∧
    ∀ frames rest, Splits surroundings.reserves (delivered stream) frames rest →
      ∃ final, runHeicReader surroundings stream {} = some final ∧ final.failed = true ∧
        final.published = frames.map (Update.frame ·.frame) ++ [.failed] := by
  have characterised : ∀ frames rest, Splits surroundings.reserves (delivered stream) frames rest →
      ∃ final, runHeicReader surroundings stream {} = some final ∧ final.failed = true ∧
        final.published = frames.map (Update.frame ·.frame) ++ [.failed] := by
    intro frames rest splits
    have shifted : Splits (fun index => surroundings.reserves (0 + index)) (delivered stream) frames
        rest := by simpa only [Nat.zero_add] using splits
    have fresh : ({} : HeicShared).failed = false := rfl
    obtain ⟨final, finishes, latched, published⟩ :=
      relayLoop_splits running shifted fresh (Nat.lt_succ_self _)
    exact ⟨final, finishes, latched, published⟩
  refine ⟨?_, splits_exist surroundings.reserves (delivered stream), characterised⟩
  intro frames granted
  refine ⟨frames.flatMap RelayFrame.bytes, writeHeicFrames_ok frames, ?_⟩
  intro holds
  have splits : Splits surroundings.reserves (delivered stream) frames [] := {
    whole := by rw [holds, List.append_nil]
    granted := granted
    stops := .closed }
  obtain ⟨final, finishes, _, published⟩ := characterised frames [] splits
  exact ⟨final, finishes, published⟩

/-- One pixel. -/
def sampleFrame : RelayFrame where
  width := 1
  height := 1
  pixels := [1, 2, 3, 255]
  capacity := 4
  sound := { wide := by decide, tall := by decide, exactly := rfl, bounded := by decide }

/-- Nobody cancels, every buffer is granted, and the consumer takes every other update. -/
def sampleSurroundings : Surroundings where
  stopping _ := false
  reserves _ _ := true
  takes relayed := relayed % 2 == 0

/-- Two pixels. -/
def wideFrame : RelayFrame where
  width := 2
  height := 1
  pixels := [4, 5, 6, 255, 7, 8, 9, 255]
  capacity := 8
  sound := { wide := by decide, tall := by decide, exactly := rfl, bounded := by decide }

def sampleFrames : List RelayFrame := [sampleFrame, wideFrame]

def sampleBytes : List UInt8 := sampleFrames.flatMap RelayFrame.bytes

/-- The reads end within the header of the first frame and between two pixels of the second one. -/
def cutStream : List Piece :=
  [.bytes (sampleBytes.take 6), .interrupted, .bytes ((sampleBytes.drop 6).take 28),
    .bytes (sampleBytes.drop 34)]

/-- The connection breaks within the header of the second frame. -/
def brokenStream : List Piece :=
  [.bytes (sampleBytes.take 6), .bytes ((sampleBytes.drop 6).take 14), .failed "connection reset"]

theorem brokenStream_splits :
    Splits sampleSurroundings.reserves (delivered brokenStream) [sampleFrame] [heicFrameTag, 2, 0] where
  whole := by decide +kernel
  granted := fun _ _ _ => rfl
  stops := .shortHeader [2, 0] (by decide)

theorem heic_relay_sample :
    (∃ final, runHeicReader sampleSurroundings cutStream {} = some final ∧
      final.published = [.frame sampleFrame.frame, .frame wideFrame.frame, .failed]) ∧
    ∃ final, runHeicReader sampleSurroundings brokenStream {} = some final ∧ final.failed = true ∧
      final.published = [.frame sampleFrame.frame, .failed] := by
  have running : ∀ turn, sampleSurroundings.stopping turn = false := fun _ => rfl
  constructor
  · obtain ⟨written, writes, relays⟩ :=
      (heic_relay sampleSurroundings running cutStream).1 sampleFrames fun _ _ _ => rfl
    apply relays
    rw [writeHeicFrames_ok] at writes
    cases writes
    decide +kernel
  · exact (heic_relay sampleSurroundings running brokenStream).2.2 _ _ brokenStream_splits

/-- A frame that was written and that arrives whole is not published if its buffer is refused. -/
theorem refused_buffer_ends_relay :
    writeHeicFrame sampleFrame.toRgbaFrame none = .ok sampleFrame.bytes ∧
      (runHeicReader { sampleSurroundings with reserves := fun _ _ => false }
        [.bytes sampleFrame.bytes] {}).map HeicShared.published = some [.failed] ∧
      (runHeicReader sampleSurroundings [.bytes sampleFrame.bytes] {}).map HeicShared.published =
        some [.frame sampleFrame.frame, .failed] := by
  decide +kernel

end Genkan.Wallpaper
