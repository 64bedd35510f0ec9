import Genkan.LockAuth.Framing

/-! # What is sent is what is received

The encoder bounds a text, and the decoder also refuses one that contains a NUL byte.
-/

namespace Genkan.LockAuth

open Foundations.Bytes Foundations.ByteStream

/-! ## Text -/

/-- The text of a message; a response is no text. -/
def Message.text : Message → List UInt8
  | .ready _ username => intoBytes username
  | .prompt _ _ text => intoBytes text
  | .info text => intoBytes text
  | .error text => intoBytes text
  | .success | .failure | .response _ _ | .cancel | .retry | .begin => []

theorem fromUTF8_intoBytes (text : String) :
    String.fromUTF8? ⟨(intoBytes text).toArray⟩ = some text := by
  have whole : (⟨(intoBytes text).toArray⟩ : ByteArray) = text.toUTF8 := by
    simp [intoBytes]
  rw [whole, String.fromUTF8?, String.toUTF8_eq_toByteArray, dif_pos text.isValidUTF8]
  rfl

theorem decodeText_intoBytes {text : String} (bound : (intoBytes text).length ≤ maxMessageBytes)
    (plain : 0 ∉ intoBytes text) : decodeText (intoBytes text) maxMessageBytes = .ok text := by
  have notContained : (intoBytes text).contains 0 = false := by simpa using plain
  rw [decodeText, notContained, fromUTF8_intoBytes]
  simp [Nat.not_lt.mpr bound]

theorem decodeText_nul {text : List UInt8} (holds : 0 ∈ text) (maximum : Nat) :
    decodeText text maximum = .error .invalidPayload := by
  simp [decodeText, holds]

/-- What a text becomes on the way. -/
theorem decodeText_sent (text : String) (bound : (intoBytes text).length ≤ maxMessageBytes) :
    decodeText (intoBytes text) maxMessageBytes =
      if 0 ∈ intoBytes text then .error .invalidPayload else .ok text := by
  split
  next holds => exact decodeText_nul holds maxMessageBytes
  next plain => exact decodeText_intoBytes bound plain

/-! ## One message -/

/-- What the peer makes of a message that was sent. -/
def Message.received (message : Message) : Except ProtocolError Message :=
  if 0 ∈ message.text then .error .invalidPayload else .ok message

theorem decode_ready (uid : UInt32) (username : String)
    (bound : (intoBytes username).length ≤ maxMessageBytes) :
    decode Kind.ready (toBigEndian 4 uid.toNat ++ intoBytes username) =
      (Message.ready uid username).received := by
  have isUid : UInt32.ofNat (ofBigEndian (toBigEndian 4 uid.toNat)) = uid := by
    rw [ofBigEndian_toBigEndian uid.toNat_lt, UInt32.ofNat_toNat]
  have long : 4 ≤ (toBigEndian 4 uid.toNat ++ intoBytes username).length := by simp
  have width := toBigEndian_length 4 uid.toNat
  rw [decode, if_pos ⟨rfl, long⟩, List.drop_left' width, List.take_left' width,
    decodeText_sent username bound, isUid, Message.received, Message.text]
  split <;> rfl

theorem decode_prompt (id : UInt64) (secret : Bool) (text : String)
    (bound : (intoBytes text).length ≤ maxMessageBytes) :
    decode Kind.prompt (toBigEndian 8 id.toNat ++ [secret.toUInt8] ++ intoBytes text) =
      (Message.prompt id secret text).received := by
  have isId : UInt64.ofNat (ofBigEndian (toBigEndian 8 id.toNat)) = id := by
    rw [ofBigEndian_toBigEndian id.toNat_lt, UInt64.ofNat_toNat]
  have width := toBigEndian_length 8 id.toNat
  have headWidth : (toBigEndian 8 id.toNat ++ [secret.toUInt8]).length = 9 := by simp
  have long : 9 ≤ (toBigEndian 8 id.toNat ++ [secret.toUInt8] ++ intoBytes text).length := by
    rw [List.length_append, headWidth]
    exact Nat.le_add_right _ _
  have flag : (toBigEndian 8 id.toNat ++ [secret.toUInt8] ++ intoBytes text).getD 8 0 =
      secret.toUInt8 := by
    rw [List.append_assoc, List.getD_eq_getElem?_getD, List.getElem?_append_right (Nat.le_of_eq width),
      width]
    rfl
  have isFlag : secret.toUInt8 ≤ 1 := by cases secret <;> decide
  have isSecret : (secret.toUInt8 == 1) = secret := by cases secret <;> rfl
  rw [decode, if_neg (by simp [Kind.prompt, Kind.ready]), flag, if_pos ⟨rfl, long, isFlag⟩,
    List.drop_left' headWidth, List.append_assoc, List.take_left' width, decodeText_sent text bound,
    isId, isSecret, Message.received, Message.text]
  split <;> rfl

theorem decode_info (text : String) (bound : (intoBytes text).length ≤ maxMessageBytes) :
    decode Kind.info (intoBytes text) = (Message.info text).received := by
  rw [decode, if_neg (by simp [Kind.info, Kind.ready]), if_neg (by simp [Kind.info, Kind.prompt]),
    if_pos rfl, decodeText_sent text bound, Message.received, Message.text]
  split <;> rfl

theorem decode_error (text : String) (bound : (intoBytes text).length ≤ maxMessageBytes) :
    decode Kind.error (intoBytes text) = (Message.error text).received := by
  rw [decode, if_neg (by simp [Kind.error, Kind.ready]), if_neg (by simp [Kind.error, Kind.prompt]),
    if_neg (by simp [Kind.error, Kind.info]), if_pos rfl, decodeText_sent text bound,
    Message.received, Message.text]
  split <;> rfl

theorem decode_response (id : UInt64) (value : Secret) :
    decode Kind.response (toBigEndian 8 id.toNat ++ value.value) =
      (Message.response id value).received := by
  have isId : UInt64.ofNat (ofBigEndian (toBigEndian 8 id.toNat)) = id := by
    rw [ofBigEndian_toBigEndian id.toNat_lt, UInt64.ofNat_toNat]
  have width := toBigEndian_length 8 id.toNat
  have isValue : (toBigEndian 8 id.toNat ++ value.value).drop 8 = value.value := List.drop_left' width
  have accepted : Secret.new value.value = .ok value := by
    rw [Secret.new, dif_pos ⟨value.bounded, value.plain⟩]
  have long : 8 ≤ (toBigEndian 8 id.toNat ++ value.value).length := by simp
  have short : (toBigEndian 8 id.toNat ++ value.value).length ≤ 8 + maxResponseBytes := by
    simpa using value.bounded
  rw [decode, if_neg (by simp [Kind.response, Kind.ready]), if_neg (by simp [Kind.response, Kind.prompt]),
    if_neg (by simp [Kind.response, Kind.info]), if_neg (by simp [Kind.response, Kind.error]),
    if_neg (by simp [Kind.response, Kind.success]), if_neg (by simp [Kind.response, Kind.failure]),
    isValue, if_pos ⟨rfl, long, short, value.plain⟩, List.take_left' width, accepted, isId]
  rfl

/-! ## What is sent -/

theorem textPayload_ok {text : String} (bound : (intoBytes text).length ≤ maxMessageBytes) :
    textPayload text = .ok (intoBytes text) := if_neg (Nat.not_lt.mpr bound)

theorem textPayload_refused {text : String} (long : maxMessageBytes < (intoBytes text).length) :
    textPayload text = .error .invalidPayload := if_pos long

theorem pushText_ok (payload : List UInt8) {text : String} {maximum : Nat}
    (bound : (intoBytes text).length ≤ maximum) :
    pushText payload text maximum = .ok (payload ++ intoBytes text) := if_neg (Nat.not_lt.mpr bound)

theorem pushText_refused (payload : List UInt8) {text : String} {maximum : Nat}
    (long : maximum < (intoBytes text).length) :
    pushText payload text maximum = .error .invalidPayload := if_pos long

/-- A text that fits is sent, in a payload that fits. -/
theorem encode_accepted (message : Message) (bound : message.text.length ≤ maxMessageBytes) :
    ∃ kind payload, encode message = .ok (kind, payload) ∧ payload.length ≤ maxPayloadBytes ∧
      decode kind payload = message.received := by
  have textRoom : maxMessageBytes + 9 ≤ maxPayloadBytes := by decide
  have responseRoom : 8 + maxResponseBytes ≤ maxPayloadBytes := by decide
  cases message with
  | ready uid username =>
    refine ⟨_, _, by rw [encode, pushText_ok _ bound]; rfl, ?_, decode_ready uid username bound⟩
    rw [List.length_append, toBigEndian_length]
    simp only [Message.text] at bound
    omega
  | prompt id secret text =>
    refine ⟨_, _, by rw [encode, pushText_ok _ bound]; rfl, ?_, decode_prompt id secret text bound⟩
    rw [List.length_append, List.length_append, toBigEndian_length, List.length_singleton]
    simp only [Message.text] at bound
    omega
  | info text =>
    refine ⟨_, _, by rw [encode, textPayload_ok bound]; rfl, ?_, decode_info text bound⟩
    simp only [Message.text] at bound
    omega
  | error text =>
    refine ⟨_, _, by rw [encode, textPayload_ok bound]; rfl, ?_, decode_error text bound⟩
    simp only [Message.text] at bound
    omega
  | response id value =>
    refine ⟨_, _, rfl, ?_, decode_response id value⟩
    rw [List.length_append, toBigEndian_length]
    have responseBound := value.bounded
    omega
  | success => exact ⟨Kind.success, [], rfl, Nat.zero_le _, rfl⟩
  | failure => exact ⟨Kind.failure, [], rfl, Nat.zero_le _, rfl⟩
  | cancel => exact ⟨Kind.cancel, [], rfl, Nat.zero_le _, rfl⟩
  | retry => exact ⟨Kind.retry, [], rfl, Nat.zero_le _, rfl⟩
  | begin => exact ⟨Kind.begin, [], rfl, Nat.zero_le _, rfl⟩

theorem encode_refused (message : Message) (long : maxMessageBytes < message.text.length) :
    encode message = .error .invalidPayload := by
  cases message with
  | ready uid username =>
    rw [encode, pushText_refused _ long]
    rfl
  | prompt id secret text =>
    rw [encode, pushText_refused _ long]
    rfl
  | info text =>
    rw [encode, textPayload_refused long]
    rfl
  | error text =>
    rw [encode, textPayload_refused long]
    rfl
  | _ => simp [Message.text] at long

/-- A message is sent exactly when its text fits, and its frame then holds what decodes to what the
message becomes. -/
theorem send_accepted {message : Message} (bound : message.text.length ≤ maxMessageBytes) :
    ∃ kind payload, send message none = .ok (frameBytes kind payload) ∧
      payload.length ≤ maxPayloadBytes ∧ decode kind payload = message.received := by
  obtain ⟨kind, payload, encoded, fits, decoded⟩ := encode_accepted message bound
  refine ⟨kind, payload, ?_, fits, decoded⟩
  rw [send, encoded]
  simp [bind, Except.bind, pure, Except.pure, Nat.not_lt.mpr fits]

theorem send_refused {message : Message} (long : maxMessageBytes < message.text.length)
    (write : Option String) : send message write = .error .invalidPayload := by
  rw [send, encode_refused message long]
  rfl

/-- A write that fails sends nothing. -/
theorem send_broken (message : Message) (failure : String) (frame : List UInt8) :
    send message (some failure) ≠ .ok frame := by
  cases encoded : encode message with
  | error error => simp [send, encoded, bind, Except.bind]
  | ok frame =>
    simp only [send, encoded, bind, Except.bind]
    split <;> simp [throw, throwThe, MonadExceptOf.throw]

/-! ## The round trip -/

/-- If the message can be sent, the peer receives it, however the frame is cut into reads. -/
def RoundTrips (message : Message) : Prop :=
  ∀ (write : Option String) (frame : List UInt8) (stream : List Piece),
    send message write = .ok frame → Reliable stream → content stream = frame →
      (receive stream).1 = .ok message

/-- The frame that is sent for a message is decoded into what the message becomes. -/
theorem receive_sent {message : Message} {write : Option String} {frame : List UInt8}
    {stream : List Piece} (sent : send message write = .ok frame) (reliable : Reliable stream)
    (holds : content stream = frame) :
    (receive stream).1 = message.received := by
  cases write with
  | some failure => exact absurd sent (send_broken message failure frame)
  | none =>
    by_cases bound : message.text.length ≤ maxMessageBytes
    · obtain ⟨kind, payload, isSent, fits, decoded⟩ := send_accepted bound
      have isFrame : frameBytes kind payload = frame := Except.ok.inj (isSent.symm.trans sent)
      have whole : content stream = frameBytes kind payload ++ [] := by
        rw [holds, ← isFrame, List.append_nil]
      exact (receive_frame reliable fits whole).1.trans decoded
    · have refused := send_refused (Nat.lt_of_not_le bound) none
      rw [refused] at sent
      contradiction

theorem Message.received_eq_ok (message : Message) : message.received = .ok message ↔ 0 ∉ message.text := by
  rw [Message.received]
  split
  next holds => simp [holds]
  next plain => simp [plain]

/-- A message that can be sent is received as it is exactly when its text contains no NUL byte. -/
theorem round_trips_iff (message : Message) :
    RoundTrips message ↔ (0 ∈ message.text → maxMessageBytes < message.text.length) := by
  constructor
  · intro roundTrips holds
    by_contra short
    obtain ⟨kind, payload, sent, _, _⟩ := send_accepted (Nat.le_of_not_lt short)
    let stream : List Piece := [.bytes (frameBytes kind payload)]
    have reliable : Reliable stream := by
      intro failure member
      simp [stream] at member
    have isContent : content stream = frameBytes kind payload := List.append_nil _
    have received := receive_sent sent reliable isContent
    rw [roundTrips none _ stream sent reliable isContent] at received
    exact (message.received_eq_ok).mp received.symm holds
  · intro condition write frame stream sent reliable isContent
    rw [receive_sent sent reliable isContent, Message.received_eq_ok]
    intro holds
    rw [send_refused (condition holds) write] at sent
    contradiction

/-- `send` accepts a text of one NUL byte, and the peer refuses the frame. -/
theorem nul_text_refused :
    send (.info "\x00") none = .ok (frameBytes Kind.info [0]) ∧
      (receive [.bytes (frameBytes Kind.info [0])]).1 = .error .invalidPayload ∧
      ¬ RoundTrips (.info "\x00") := by
  have sent : send (.info "\x00") none = .ok (frameBytes Kind.info [0]) := by decide +kernel
  have refused : (receive [.bytes (frameBytes Kind.info [0])]).1 = .error .invalidPayload := by
    decide +kernel
  refine ⟨sent, refused, ?_⟩
  intro roundTrips
  have received := roundTrips none _ [.bytes (frameBytes Kind.info [0])] sent (by simp [Reliable]) rfl
  rw [refused] at received
  contradiction

end Genkan.LockAuth
