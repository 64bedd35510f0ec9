import Genkan.LockAuth.PamConversation
import Genkan.LockAuth.RoundTrip

/-! # Bounding the texts of PAM

A text of PAM is decoded with replacement characters, which can make it three times as long, and loses
characters at its end until it fits the protocol.  What is left is accepted on both sides.
-/

namespace Genkan.LockAuth

open Foundations.ByteStream Foundations.Utf8

/-! ## The scan for the terminator -/

theorem strnlen_terminated {bytes : List UInt8} (plain : 0 ∉ bytes) (rest : List UInt8) (maximum : Nat) :
    strnlen (bytes ++ 0 :: rest) maximum = min maximum bytes.length := by
  have before : ∀ byte ∈ bytes.take maximum, decide (byte ≠ 0) = true := by
    intro byte member
    rw [decide_eq_true_eq]
    intro isNul
    exact plain (isNul ▸ List.mem_of_mem_take member)
  have stops : ((0 :: rest).take (maximum - bytes.length)).takeWhile (fun byte => decide (byte ≠ 0)) = [] := by
    cases maximum - bytes.length with
    | zero => rfl
    | succ left => simp
  rw [strnlen, List.take_append, List.takeWhile_append_of_pos before, stops, List.append_nil, List.length_take]

/-! ## Popping characters -/

theorem popWhileLong_suffix (maximum : Nat) (reversed : List Char) :
    popWhileLong maximum reversed <:+ reversed := by
  induction reversed with
  | nil => exact List.suffix_refl _
  | cons last before inductionHypothesis =>
    rw [popWhileLong]
    split
    next => exact inductionHypothesis.trans (List.suffix_cons last before)
    next => exact List.suffix_refl _

theorem popWhileLong_fits (maximum : Nat) (reversed : List Char) :
    (String.ofList (popWhileLong maximum reversed).reverse).utf8ByteSize ≤ maximum := by
  induction reversed with
  | nil => exact Nat.zero_le _
  | cons last before inductionHypothesis =>
    rw [popWhileLong]
    split
    next => exact inductionHypothesis
    next fits => exact Nat.le_of_not_lt fits

/-- No more characters are popped than have to be. -/
theorem popWhileLong_longest {maximum : Nat} {reversed shorter : List Char} (ends : shorter <:+ reversed)
    (fits : (String.ofList shorter.reverse).utf8ByteSize ≤ maximum) :
    shorter <:+ popWhileLong maximum reversed := by
  induction reversed with
  | nil => exact ends
  | cons last before inductionHypothesis =>
    rw [popWhileLong]
    split
    next long =>
      cases List.suffix_cons_iff.mp ends with
      | inl whole =>
        rw [whole] at fits
        omega
      | inr ends => exact inductionHypothesis ends
    next => exact ends

/-! ## The bounded text -/

theorem boundedMessage_long {bytes : List UInt8} (plain : 0 ∉ bytes) (rest : List UInt8)
    (long : maxMessageBytes < bytes.length) : boundedMessage (bytes ++ 0 :: rest) = none := by
  rw [boundedMessage, strnlen_terminated plain]
  exact if_pos (by omega)

theorem boundedMessage_short {bytes : List UInt8} (plain : 0 ∉ bytes) (rest : List UInt8)
    (short : bytes.length ≤ maxMessageBytes) :
    boundedMessage (bytes ++ 0 :: rest) =
      some (.ofList (popWhileLong maxMessageBytes (fromUtf8Lossy bytes).reverse).reverse) := by
  have length : strnlen (bytes ++ 0 :: rest) (maxMessageBytes + 1) = bytes.length := by
    rw [strnlen_terminated plain]
    omega
  rw [boundedMessage, length, List.take_left]
  exact if_neg (by omega)

/-- A text between the protocol's bounds: the longest prefix that fits, without NUL. -/
structure Bounded (bytes : List UInt8) (text : String) : Prop where
  fits : text.utf8ByteSize ≤ maxMessageBytes
  plain : '\x00' ∉ text.toList
  isPrefix : text.toList <+: fromUtf8Lossy bytes
  longest : ∀ shorter, shorter <+: fromUtf8Lossy bytes →
    (String.ofList shorter).utf8ByteSize ≤ maxMessageBytes → shorter <+: text.toList

theorem boundedMessage_bounded {bytes : List UInt8} (plain : 0 ∉ bytes) {rest : List UInt8} {text : String}
    (returns : boundedMessage (bytes ++ 0 :: rest) = some text) : Bounded bytes text := by
  have short : bytes.length ≤ maxMessageBytes := by
    by_contra long
    rw [boundedMessage_long plain rest (Nat.lt_of_not_le long)] at returns
    contradiction
  rw [boundedMessage_short plain rest short, Option.some_inj] at returns
  subst returns
  have starts := List.reverse_prefix.mpr (popWhileLong_suffix maxMessageBytes (fromUtf8Lossy bytes).reverse)
  rw [List.reverse_reverse] at starts
  constructor
  case fits => exact popWhileLong_fits _ _
  case plain =>
    rw [String.toList_ofList]
    intro member
    exact fromUtf8Lossy_plain plain (starts.subset member)
  case isPrefix => rwa [String.toList_ofList]
  case longest =>
    intro shorter shorterStarts shorterFits
    rw [String.toList_ofList]
    have ends := List.reverse_suffix.mpr shorterStarts
    have kept : shorter.reverse <:+ popWhileLong maxMessageBytes (fromUtf8Lossy bytes).reverse := by
      apply popWhileLong_longest ends
      rwa [List.reverse_reverse]
    rwa [← List.reverse_prefix, List.reverse_reverse] at kept

/-! ## The messages built from it -/

/-- A message that carries a text of PAM. -/
inductive Message.Carries (text : String) : Message → Prop where
  | prompt (id : UInt64) (secret : Bool) : Message.Carries text (.prompt id secret text)
  | info : Message.Carries text (.info text)
  | error : Message.Carries text (.error text)

theorem Message.Carries.text_eq {text : String} {message : Message} (carries : message.Carries text) :
    message.text = intoBytes text := by
  cases carries with
  | prompt id secret => rfl
  | info => rfl
  | error => rfl

theorem length_intoBytes (text : String) : (intoBytes text).length = text.utf8ByteSize := rfl

theorem zero_mem_intoBytes (text : String) : 0 ∈ intoBytes text ↔ '\x00' ∈ text.toList := by
  rw [← zero_mem_utf8Encode, String.utf8Encode_toList]
  rfl

/-- `send` accepts the message, and the peer receives it however the frame is cut into reads. -/
def Message.Accepted (message : Message) : Prop :=
  ∃ frame, send message none = .ok frame ∧
    ∀ stream, Reliable stream → content stream = frame → (receive stream).1 = .ok message

theorem Bounded.accepted {bytes : List UInt8} {text : String} (bounded : Bounded bytes text)
    {message : Message} (carries : message.Carries text) : message.Accepted := by
  have fits : message.text.length ≤ maxMessageBytes := by
    rw [carries.text_eq, length_intoBytes]
    exact bounded.fits
  have plain : 0 ∉ message.text := by
    rw [carries.text_eq, zero_mem_intoBytes]
    exact bounded.plain
  obtain ⟨kind, payload, sent, _, _⟩ := send_accepted fits
  refine ⟨_, sent, fun stream reliable isContent => ?_⟩
  rw [receive_sent sent reliable isContent, Message.received_eq_ok]
  exact plain

/-- A text of PAM is refused exactly when more bytes than the bound precede its terminator; any other is
bounded without NUL, and the messages that carry it arrive. -/
theorem boundedMessage_terminated {bytes : List UInt8} (terminated : 0 ∉ bytes) (rest : List UInt8) :
    (boundedMessage (bytes ++ 0 :: rest) = none ↔ 4096 < bytes.length) ∧
      ∀ text, boundedMessage (bytes ++ 0 :: rest) = some text →
        Bounded bytes text ∧ ∀ message, Message.Carries text message → message.Accepted := by
  constructor
  · constructor
    · intro refused
      by_contra short
      rw [boundedMessage_short terminated rest (Nat.le_of_not_lt short)] at refused
      contradiction
    · exact boundedMessage_long terminated rest
  · intro text returns
    have bounded := boundedMessage_bounded terminated returns
    exact ⟨bounded, fun message carries => bounded.accepted carries⟩

/-- Two bytes that continue nothing, each replaced by three. -/
theorem boundedMessage_terminated_replaced :
    (boundedMessage ([0xFF, 0x80] ++ 0 :: [0x41]) = none ↔ 4096 < 2) ∧
      ∀ text, boundedMessage ([0xFF, 0x80] ++ 0 :: [0x41]) = some text →
        Bounded [0xFF, 0x80] text ∧ ∀ message, Message.Carries text message → message.Accepted :=
  boundedMessage_terminated (by decide) [0x41]

end Genkan.LockAuth
