import Genkan.LockAuth.RoundTrip
import Genkan.Foundations.Results

/-! # Decoding is canonical

A frame that the decoder accepts is the only frame of its message, and it is the one the encoder
writes.
-/

namespace Genkan.LockAuth

open Foundations.Bytes Foundations.Results

/-! ## Text -/

theorem intoBytes_fromUTF8 {bytes : List UInt8} {text : String}
    (reads : String.fromUTF8? ⟨bytes.toArray⟩ = some text) : intoBytes text = bytes := by
  rw [String.fromUTF8?] at reads
  split at reads
  next valid =>
    have isText := Option.some.inj reads
    rw [← isText, intoBytes, String.toUTF8_eq_toByteArray]
    rfl
  next => contradiction

/-- A text that is accepted holds exactly the bytes it was read from. -/
theorem decodeText_ok {payload : List UInt8} {maximum : Nat} {text : String}
    (accepted : decodeText payload maximum = .ok text) :
    intoBytes text = payload ∧ payload.length ≤ maximum := by
  rw [decodeText] at accepted
  split at accepted
  next => contradiction
  next fits =>
    split at accepted
    next found reads =>
      have isText := Except.ok.inj accepted
      rw [isText] at reads
      simp only [Bool.or_eq_true, decide_eq_true_eq, not_or, Nat.not_lt] at fits
      exact ⟨intoBytes_fromUTF8 reads, fits.1⟩
    next => contradiction

/-! ## The parts of a payload -/

theorem toBigEndian_take {payload : List UInt8} {width : Nat} (long : width ≤ payload.length) :
    toBigEndian width (ofBigEndian (payload.take width)) = payload.take width := by
  have isWidth : (payload.take width).length = width := by rw [List.length_take, Nat.min_eq_left long]
  have written := toBigEndian_ofBigEndian (payload.take width)
  rwa [isWidth] at written

theorem ofBigEndian_take_lt {payload : List UInt8} {width : Nat} (long : width ≤ payload.length) :
    ofBigEndian (payload.take width) < 256 ^ width := by
  have bound := ofBigEndian_lt (payload.take width)
  rwa [List.length_take, Nat.min_eq_left long] at bound

/-- The leading identifier is written back as it was read. -/
theorem toBigEndian_id {payload : List UInt8} (long : 8 ≤ payload.length) :
    toBigEndian 8 (UInt64.ofNat (ofBigEndian (payload.take 8))).toNat = payload.take 8 := by
  rw [UInt64.toNat_ofNat_of_lt' (ofBigEndian_take_lt long), toBigEndian_take long]

/-- A byte of at most one is the byte of the flag it is read as. -/
theorem toUInt8_flag {byte : UInt8} (small : byte ≤ 1) : (byte == 1).toUInt8 = byte := by
  have few : byte.toNat ≤ 1 := UInt8.le_iff_toNat_le.mp small
  have cases : byte = 0 ∨ byte = 1 := by
    by_cases isZero : byte.toNat = 0
    · exact .inl (UInt8.toNat_inj.mp isZero)
    · have isOne : byte.toNat = (1 : UInt8).toNat := Nat.le_antisymm few (Nat.pos_of_ne_zero isZero)
      exact .inr (UInt8.toNat_inj.mp isOne)
  cases cases with
  | inl isZero => rw [isZero]; rfl
  | inr isOne => rw [isOne]; rfl

theorem take_flag {payload : List UInt8} (long : 9 ≤ payload.length) :
    payload.take 8 ++ [payload.getD 8 0] = payload.take 9 := by
  have inside : 8 < payload.length := long
  rw [List.getD_eq_getElem?_getD, List.getElem?_eq_getElem inside, Option.getD_some,
    List.take_append_getElem inside]

/-! ## One kind at a time -/

theorem encode_ready {payload : List UInt8} {username : String} (long : 4 ≤ payload.length)
    (reads : decodeText (payload.drop 4) maxMessageBytes = .ok username) :
    encode (.ready (UInt32.ofNat (ofBigEndian (payload.take 4))) username) = .ok (Kind.ready, payload) := by
  obtain ⟨isText, bound⟩ := decodeText_ok reads
  rw [← isText] at bound
  rw [encode, UInt32.toNat_ofNat_of_lt' (ofBigEndian_take_lt long), toBigEndian_take long,
    pushText_ok _ bound, isText, List.take_append_drop]
  rfl

theorem encode_prompt {payload : List UInt8} {text : String} (long : 9 ≤ payload.length)
    (flag : payload.getD 8 0 ≤ 1) (reads : decodeText (payload.drop 9) maxMessageBytes = .ok text) :
    encode (.prompt (UInt64.ofNat (ofBigEndian (payload.take 8))) (payload.getD 8 0 == 1) text) =
      .ok (Kind.prompt, payload) := by
  obtain ⟨isText, bound⟩ := decodeText_ok reads
  rw [← isText] at bound
  rw [encode, toBigEndian_id (by omega), toUInt8_flag flag, take_flag long, pushText_ok _ bound, isText,
    List.take_append_drop]
  rfl

theorem encode_text {payload : List UInt8} {text : String}
    (reads : decodeText payload maxMessageBytes = .ok text) :
    encode (.info text) = .ok (Kind.info, payload) ∧ encode (.error text) = .ok (Kind.error, payload) := by
  obtain ⟨isText, bound⟩ := decodeText_ok reads
  rw [← isText] at bound
  rw [encode, encode, textPayload_ok bound, isText]
  exact ⟨rfl, rfl⟩

theorem encode_response {payload : List UInt8} {value : Secret} (long : 8 ≤ payload.length)
    (accepted : Secret.new (payload.drop 8) = .ok value) :
    encode (.response (UInt64.ofNat (ofBigEndian (payload.take 8))) value) =
      .ok (Kind.response, payload) := by
  rw [encode, toBigEndian_id long, Secret.new_value accepted, List.take_append_drop]

/-! ## Every accepted frame -/

theorem encode_decode {kind : UInt8} {payload : List UInt8} {message : Message}
    (accepted : decode kind payload = .ok message) : encode message = .ok (kind, payload) := by
  -- One case for each arm of the decoder, in its order.
  rw [decode] at accepted
  split at accepted
  next arm =>
    obtain ⟨username, reads, isMessage⟩ := bind_eq_ok.mp accepted
    rw [← pure_eq_ok.mp isMessage, arm.1, encode_ready arm.2 reads]
  split at accepted
  next arm =>
    obtain ⟨text, reads, isMessage⟩ := bind_eq_ok.mp accepted
    rw [← pure_eq_ok.mp isMessage, arm.1, encode_prompt arm.2.1 arm.2.2 reads]
  split at accepted
  next isKind =>
    obtain ⟨text, reads, isMessage⟩ := bind_eq_ok.mp accepted
    rw [← pure_eq_ok.mp isMessage, isKind, (encode_text reads).1]
  split at accepted
  next isKind =>
    obtain ⟨text, reads, isMessage⟩ := bind_eq_ok.mp accepted
    rw [← pure_eq_ok.mp isMessage, isKind, (encode_text reads).2]
  split at accepted
  next arm => rw [← Except.ok.inj accepted, arm.1, arm.2]; rfl
  split at accepted
  next arm => rw [← Except.ok.inj accepted, arm.1, arm.2]; rfl
  split at accepted
  next arm =>
    obtain ⟨value, isValue, isMessage⟩ := bind_eq_ok.mp accepted
    rw [← pure_eq_ok.mp isMessage, arm.1, encode_response arm.2.1 isValue]
  split at accepted
  next arm => rw [← Except.ok.inj accepted, arm.1, arm.2]; rfl
  split at accepted
  next arm => rw [← Except.ok.inj accepted, arm.1, arm.2]; rfl
  split at accepted
  next arm => rw [← Except.ok.inj accepted, arm.1, arm.2]; rfl
  contradiction

/-- The encoder accepts every message that was decoded and returns the kind and the payload it was
decoded from, so no other accepted frame holds that message. -/
theorem decode_canonical {kind : UInt8} {payload : List UInt8} {message : Message}
    (accepted : decode kind payload = .ok message) :
    encode message = .ok (kind, payload) ∧
      ∀ (otherKind : UInt8) (otherPayload : List UInt8), decode otherKind otherPayload = .ok message →
        otherKind = kind ∧ otherPayload = payload := by
  have encoded := encode_decode accepted
  refine ⟨encoded, ?_⟩
  intro otherKind otherPayload otherAccepted
  have same := Except.ok.inj ((encode_decode otherAccepted).symm.trans encoded)
  exact Prod.mk.inj same

/-- A prompt for a secret. -/
def samplePrompt : List UInt8 := [0, 0, 0, 0, 0, 0, 1, 2, 1, 80, 73, 78]

theorem samplePrompt_accepted :
    decode Kind.prompt samplePrompt = .ok (.prompt 258 true "PIN") := by decide +kernel

theorem decode_canonical_prompt :
    encode (.prompt 258 true "PIN") = .ok (Kind.prompt, samplePrompt) ∧
      ∀ (otherKind : UInt8) (otherPayload : List UInt8),
        decode otherKind otherPayload = .ok (.prompt 258 true "PIN") →
        otherKind = Kind.prompt ∧ otherPayload = samplePrompt :=
  decode_canonical samplePrompt_accepted

end Genkan.LockAuth
