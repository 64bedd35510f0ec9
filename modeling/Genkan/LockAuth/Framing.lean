import Genkan.LockAuth.Frame

/-! # Frames arrive whole

However a stream of frames is cut into reads, each call of `receive` takes exactly one frame.
-/

namespace Genkan.LockAuth

open Foundations.Bytes Foundations.ByteStream

/-! ## The header -/

def frameHeader (kind : UInt8) (length : Nat) : List UInt8 :=
  magic ++ [version, kind] ++ toBigEndian 4 length

theorem frameBytes_eq (kind : UInt8) (payload : List UInt8) :
    frameBytes kind payload = frameHeader kind payload.length ++ payload := rfl

theorem frameHeader_length (kind : UInt8) (length : Nat) :
    (frameHeader kind length).length = headerBytes := by
  simp [frameHeader, magic, headerBytes]

theorem frameBytes_length (kind : UInt8) (payload : List UInt8) :
    (frameBytes kind payload).length = headerBytes + payload.length := by
  rw [frameBytes_eq, List.length_append, frameHeader_length]

/-- What `receive` reads out of a header. -/
theorem frameHeader_fields (kind : UInt8) {length : Nat} (bound : length ≤ maxPayloadBytes) :
    (frameHeader kind length).take 4 = magic ∧ (frameHeader kind length).getD 4 0 = version ∧
      (frameHeader kind length).getD 5 0 = kind ∧
      ofBigEndian ((frameHeader kind length).drop 6) = length := by
  refine ⟨rfl, rfl, rfl, ?_⟩
  have small : length < 256 ^ 4 := Nat.lt_of_le_of_lt bound (by decide)
  exact ofBigEndian_toBigEndian small

/-! ## One call -/

theorem readExactOrClosed_ok {stream : List Piece} (reliable : Reliable stream) {needed : Nat}
    (enough : needed ≤ (content stream).length) :
    ∃ remaining, Reliable remaining ∧ content remaining = (content stream).drop needed ∧
      readExactOrClosed needed stream = (.ok ((content stream).take needed), remaining) := by
  obtain ⟨taken, left⟩ := readExact_ok reliable enough
  have isResult : readExact needed stream =
      (.ok ((content stream).take needed), (readExact needed stream).2) := Prod.ext taken rfl
  have reads : readExactOrClosed needed stream =
      (.ok ((content stream).take needed), (readExact needed stream).2) := by
    rw [readExactOrClosed, isResult]
  exact ⟨(readExact needed stream).2, reliable.readExact needed, left, reads⟩

theorem readExactOrClosed_closed {stream : List Piece} (reliable : Reliable stream) {needed : Nat}
    (short : (content stream).length < needed) :
    ∃ remaining, readExactOrClosed needed stream = (.error .closed, remaining) := by
  obtain ⟨ended, _⟩ := readExact_ended reliable short
  have isResult : readExact needed stream = (.error .ended, (readExact needed stream).2) :=
    Prod.ext ended rfl
  exact ⟨(readExact needed stream).2, by rw [readExactOrClosed, isResult]⟩

/-- The first read of a call takes the header off. -/
theorem readHeader {stream : List Piece} (reliable : Reliable stream) {header rest : List UInt8}
    (length : header.length = headerBytes) (holds : content stream = header ++ rest) :
    ∃ remaining, Reliable remaining ∧ content remaining = rest ∧
      readExactOrClosed headerBytes stream = (.ok header, remaining) := by
  have enough : headerBytes ≤ (content stream).length := by
    rw [holds, List.length_append, length]
    exact Nat.le_add_right _ _
  obtain ⟨remaining, still, left, reads⟩ := readExactOrClosed_ok reliable enough
  rw [holds, ← length, List.drop_left] at left
  rw [holds, ← length, List.take_left, length] at reads
  exact ⟨remaining, still, left, reads⟩

/-- A whole frame at the front of the stream is decoded and taken off. -/
theorem receive_frame {stream : List Piece} (reliable : Reliable stream) {kind : UInt8}
    {payload rest : List UInt8} (bound : payload.length ≤ maxPayloadBytes)
    (holds : content stream = frameBytes kind payload ++ rest) :
    (receive stream).1 = decode kind payload ∧ content (receive stream).2 = rest ∧
      Reliable (receive stream).2 := by
  rw [frameBytes_eq, List.append_assoc] at holds
  obtain ⟨remaining, still, left, readsHeader⟩ :=
    readHeader reliable (frameHeader_length kind payload.length) holds
  have enough : payload.length ≤ (content remaining).length := by
    rw [left, List.length_append]
    exact Nat.le_add_right _ _
  obtain ⟨after, stillReliable, isRest, readsPayload⟩ := readExactOrClosed_ok still enough
  rw [left, List.drop_left] at isRest
  rw [left, List.take_left] at readsPayload
  obtain ⟨isMagic, isVersion, isKind, isLength⟩ := frameHeader_fields kind bound
  simp only [receive, readsHeader, isMagic, isVersion, isKind, isLength, ne_eq, not_true_eq_false,
    or_self, if_false, Nat.not_lt.mpr bound, readsPayload]
  exact ⟨trivial, isRest, stillReliable⟩

theorem receive_ended {stream : List Piece} (reliable : Reliable stream)
    (short : (content stream).length < headerBytes) : (receive stream).1 = .error .closed := by
  obtain ⟨remaining, closed⟩ := readExactOrClosed_closed reliable short
  simp only [receive, closed]

/-- A stream that ends within a frame yields no message. -/
theorem receive_truncated {stream : List Piece} (reliable : Reliable stream) {kind : UInt8}
    {payload rest : List UInt8} (bound : payload.length ≤ maxPayloadBytes)
    (cut : content stream ++ rest = frameBytes kind payload) (proper : rest ≠ []) :
    (receive stream).1 = .error .closed := by
  have lengths := congrArg List.length cut
  rw [List.length_append, frameBytes_length] at lengths
  have missing := List.length_pos_iff.mpr proper
  by_cases headerArrives : headerBytes ≤ (content stream).length
  · -- The header is whole, and the payload is not.
    have isHeader : (content stream).take headerBytes = frameHeader kind payload.length := by
      rw [← List.take_append_of_le_length headerArrives, cut, frameBytes_eq,
        ← frameHeader_length kind payload.length, List.take_left]
    have holds := (List.take_append_drop headerBytes (content stream)).symm
    rw [isHeader] at holds
    obtain ⟨remaining, still, left, readsHeader⟩ :=
      readHeader reliable (frameHeader_length kind payload.length) holds
    obtain ⟨isMagic, isVersion, _, isLength⟩ := frameHeader_fields kind bound
    have short : (content remaining).length < payload.length := by
      rw [left, List.length_drop]
      omega
    obtain ⟨after, closed⟩ := readExactOrClosed_closed still short
    simp only [receive, readsHeader, isMagic, isVersion, isLength, ne_eq, not_true_eq_false, or_self,
      if_false, Nat.not_lt.mpr bound, closed]
  · exact receive_ended reliable (Nat.lt_of_not_le headerArrives)

/-- A header that is refused leaves everything after it in the stream. -/
theorem receive_refused {stream : List Piece} (reliable : Reliable stream)
    {header rest : List UInt8} (length : header.length = headerBytes)
    (holds : content stream = header ++ rest)
    (refused : header.take 4 ≠ magic ∨ header.getD 4 0 ≠ version ∨
      maxPayloadBytes < ofBigEndian (header.drop 6)) :
    (receive stream).1 = .error .invalidPayload ∧ content (receive stream).2 = rest := by
  obtain ⟨remaining, _, isRest, readsHeader⟩ := readHeader reliable length holds
  simp only [receive, readsHeader]
  split
  next => exact ⟨rfl, isRest⟩
  next accepted =>
    have oversized : maxPayloadBytes < ofBigEndian (header.drop 6) := by
      simp only [not_or] at accepted
      exact (refused.resolve_left accepted.1).resolve_left accepted.2
    rw [if_pos oversized]
    exact ⟨rfl, isRest⟩

/-! ## Streams of frames -/

/-- A kind and a payload within the bound. -/
structure Frame where
  kind : UInt8
  payload : List UInt8
  bounded : payload.length ≤ maxPayloadBytes

def Frame.bytes (frame : Frame) : List UInt8 := frameBytes frame.kind frame.payload

def Frame.decoded (frame : Frame) : Except ProtocolError Message := decode frame.kind frame.payload

theorem receiveAll_frames (frames : List Frame) {stream : List Piece} (reliable : Reliable stream)
    (holds : content stream = frames.flatMap Frame.bytes) :
    receiveAll (frames.length + 1) stream = frames.map Frame.decoded ++ [.error .closed] := by
  induction frames generalizing stream with
  | nil =>
    have short : (content stream).length < headerBytes := by
      rw [holds]
      decide
    rw [List.length_nil, receiveAll, receive_ended reliable short]
    rfl
  | cons frame frames inductionHypothesis =>
    obtain ⟨decoded, left, still⟩ := receive_frame reliable frame.bounded holds
    rw [List.length_cons, receiveAll, decoded, inductionHypothesis still left]
    rfl

/-- However the bytes are cut into reads, and however often a read is interrupted: a stream of frames
is received frame by frame and is then closed, a frame cut short yields no message, and a refused
header consumes nothing after itself. -/
theorem framing (stream : List Piece) (reliable : Reliable stream) :
    (∀ frames : List Frame, content stream = frames.flatMap Frame.bytes →
      receiveAll (frames.length + 1) stream = frames.map Frame.decoded ++ [.error .closed]) ∧
    (∀ (frame : Frame) (rest : List UInt8), rest ≠ [] → content stream ++ rest = frame.bytes →
      (receive stream).1 = .error .closed) ∧
    ∀ header rest : List UInt8, header.length = headerBytes → content stream = header ++ rest →
      (header.take 4 ≠ magic ∨ header.getD 4 0 ≠ version ∨
        maxPayloadBytes < ofBigEndian (header.drop 6)) →
      (receive stream).1 = .error .invalidPayload ∧ content (receive stream).2 = rest :=
  ⟨fun frames holds => receiveAll_frames frames reliable holds,
    fun frame _ proper cut => receive_truncated reliable frame.bounded cut proper,
    fun _ _ length holds refused => receive_refused reliable length holds refused⟩

/-- Two frames, the second of which has an unknown kind, one byte at a time. -/
def sampleFrames : List Frame :=
  [{ kind := Kind.info, payload := [104, 105], bounded := by decide },
    { kind := 255, payload := [], bounded := by decide }]

def sampleStream : List Piece :=
  (sampleFrames.flatMap Frame.bytes).flatMap fun byte => [.interrupted, .bytes [byte]]

theorem sampleStream_reliable : Reliable sampleStream := by
  intro message member
  simp only [sampleStream, List.mem_flatMap] at member
  obtain ⟨byte, _, isPiece⟩ := member
  simp at isPiece

theorem framing_sample :
    (∀ frames : List Frame, content sampleStream = frames.flatMap Frame.bytes →
      receiveAll (frames.length + 1) sampleStream = frames.map Frame.decoded ++ [.error .closed]) ∧
    (∀ (frame : Frame) (rest : List UInt8), rest ≠ [] → content sampleStream ++ rest = frame.bytes →
      (receive sampleStream).1 = .error .closed) ∧
    ∀ header rest : List UInt8, header.length = headerBytes → content sampleStream = header ++ rest →
      (header.take 4 ≠ magic ∨ header.getD 4 0 ≠ version ∨
        maxPayloadBytes < ofBigEndian (header.drop 6)) →
      (receive sampleStream).1 = .error .invalidPayload ∧ content (receive sampleStream).2 = rest :=
  framing sampleStream sampleStream_reliable

end Genkan.LockAuth
