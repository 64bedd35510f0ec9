import Mathlib.Data.List.TakeDrop

/-! # Reading from a fragmented byte stream

A stream is what its reads will return: a fragment of bytes, an interruption, or a failure; past the
last piece the stream has ended.  A read takes as much of the next fragment as fits, and an empty
fragment is no read at all.
-/

namespace Foundations.ByteStream

inductive Piece where
  | bytes (fragment : List UInt8)
  | interrupted
  | failed (message : String)

/-- Why a buffer could not be filled. -/
inductive Stop where
  | ended
  | failed (message : String)

/-- Reads until `needed` bytes are there; an interrupted read is repeated. -/
def readExact : Nat → List Piece → Except Stop (List UInt8) × List Piece
  | 0, pieces => (.ok [], pieces)
  | _ + 1, [] => (.error .ended, [])
  | needed + 1, .interrupted :: pieces => readExact (needed + 1) pieces
  | _ + 1, .failed message :: pieces => (.error (.failed message), pieces)
  | needed + 1, .bytes fragment :: pieces =>
    if needed < fragment.length then
      (.ok (fragment.take (needed + 1)), .bytes (fragment.drop (needed + 1)) :: pieces)
    else
      let (outcome, remaining) := readExact (needed + 1 - fragment.length) pieces
      (outcome.map (fragment ++ ·), remaining)

/-- All bytes that are still to come. -/
def content : List Piece → List UInt8
  | [] => []
  | .bytes fragment :: pieces => fragment ++ content pieces
  | .interrupted :: pieces => content pieces
  | .failed _ :: pieces => content pieces

/-- The bytes that are still to come before a read fails. -/
def delivered : List Piece → List UInt8
  | [] => []
  | .bytes fragment :: pieces => fragment ++ delivered pieces
  | .interrupted :: pieces => delivered pieces
  | .failed _ :: _ => []

/-- No read fails. -/
def Reliable (pieces : List Piece) : Prop := ∀ message, Piece.failed message ∉ pieces

theorem Reliable.tail {piece : Piece} {pieces : List Piece} (reliable : Reliable (piece :: pieces)) :
    Reliable pieces :=
  fun message member => reliable message (List.mem_cons_of_mem _ member)

/-- What a read leaves behind is reliable, too. -/
theorem Reliable.readExact {pieces : List Piece} (reliable : Reliable pieces) (needed : Nat) :
    Reliable (readExact needed pieces).2 := by
  induction needed, pieces using ByteStream.readExact.induct with
  | case1 pieces =>
    rw [ByteStream.readExact]
    exact reliable
  | case2 needed =>
    rw [ByteStream.readExact]
    exact reliable
  | case3 needed pieces inductionHypothesis =>
    rw [ByteStream.readExact]
    exact inductionHypothesis reliable.tail
  | case4 needed message pieces =>
    rw [ByteStream.readExact]
    exact reliable.tail
  | case5 needed fragment pieces fits =>
    rw [ByteStream.readExact, if_pos fits]
    intro message member
    cases List.mem_cons.mp member with
    | inl isLeft => cases isLeft
    | inr later => exact reliable.tail message later
  | case6 needed fragment pieces exceeds outcome remaining _ inductionHypothesis =>
    rw [ByteStream.readExact, if_neg exceeds]
    exact inductionHypothesis reliable.tail

theorem Reliable.delivered {pieces : List Piece} (reliable : Reliable pieces) :
    delivered pieces = content pieces := by
  induction pieces with
  | nil => rfl
  | cons piece pieces inductionHypothesis =>
    have rest := inductionHypothesis reliable.tail
    cases piece with
    | bytes fragment => rw [ByteStream.delivered, content, rest]
    | interrupted => exact rest
    | failed message => exact absurd List.mem_cons_self (reliable message)

/-- A buffer that the delivered bytes can fill takes the first of them, wherever they are cut. -/
theorem readExact_filled {pieces : List Piece} {needed : Nat}
    (enough : needed ≤ (delivered pieces).length) :
    (readExact needed pieces).1 = .ok ((delivered pieces).take needed) ∧
      delivered (readExact needed pieces).2 = (delivered pieces).drop needed := by
  induction needed, pieces using readExact.induct with
  | case1 pieces =>
    rw [readExact]
    exact ⟨rfl, rfl⟩
  | case2 needed => simp [delivered] at enough
  | case3 needed pieces inductionHypothesis =>
    rw [readExact]
    exact inductionHypothesis enough
  | case4 needed message pieces => simp [delivered] at enough
  | case5 needed fragment pieces fits =>
    rw [readExact, if_pos fits]
    simp only [delivered]
    rw [List.take_append_of_le_length fits, List.drop_append_of_le_length fits]
    exact ⟨rfl, rfl⟩
  | case6 needed fragment pieces exceeds outcome remaining _ inductionHypothesis =>
    have short : fragment.length ≤ needed + 1 := by omega
    simp only [delivered, List.length_append] at enough
    obtain ⟨taken, left⟩ := inductionHypothesis (by omega)
    rw [readExact, if_neg exceeds]
    simp only [delivered]
    rw [taken, left, List.take_append, List.drop_append, List.take_of_length_le short,
      List.drop_of_length_le short]
    exact ⟨rfl, rfl⟩

/-- A buffer that the delivered bytes cannot fill is refused. -/
theorem readExact_short {pieces : List Piece} {needed : Nat}
    (short : (delivered pieces).length < needed) :
    ∃ stop, (readExact needed pieces).1 = .error stop := by
  induction needed, pieces using readExact.induct with
  | case1 pieces => omega
  | case2 needed => exact ⟨.ended, by rw [readExact]⟩
  | case3 needed pieces inductionHypothesis =>
    rw [readExact]
    exact inductionHypothesis short
  | case4 needed message pieces => exact ⟨.failed message, by rw [readExact]⟩
  | case5 needed fragment pieces fits =>
    simp only [delivered, List.length_append] at short
    omega
  | case6 needed fragment pieces exceeds outcome remaining _ inductionHypothesis =>
    simp only [delivered, List.length_append] at short
    obtain ⟨stop, stopped⟩ := inductionHypothesis (by omega)
    rw [readExact, if_neg exceeds]
    simp only
    rw [stopped]
    exact ⟨stop, rfl⟩

theorem readExact_ok {pieces : List Piece} (reliable : Reliable pieces) {needed : Nat}
    (enough : needed ≤ (content pieces).length) :
    (readExact needed pieces).1 = .ok ((content pieces).take needed) ∧
      content (readExact needed pieces).2 = (content pieces).drop needed := by
  rw [← reliable.delivered, ← (reliable.readExact needed).delivered]
  rw [← reliable.delivered] at enough
  exact readExact_filled enough

/-- A buffer that the rest of the stream cannot fill meets the end of the stream. -/
theorem readExact_ended {pieces : List Piece} (reliable : Reliable pieces) {needed : Nat}
    (short : (content pieces).length < needed) :
    (readExact needed pieces).1 = .error .ended ∧ content (readExact needed pieces).2 = [] := by
  induction needed, pieces using readExact.induct with
  | case1 pieces => omega
  | case2 needed =>
    rw [readExact]
    exact ⟨rfl, rfl⟩
  | case3 needed pieces inductionHypothesis =>
    rw [readExact]
    exact inductionHypothesis reliable.tail short
  | case4 needed message pieces => exact absurd List.mem_cons_self (reliable message)
  | case5 needed fragment pieces fits =>
    simp only [content, List.length_append] at short
    omega
  | case6 needed fragment pieces exceeds outcome remaining _ inductionHypothesis =>
    simp only [content, List.length_append] at short
    obtain ⟨ended, nothing⟩ := inductionHypothesis reliable.tail (by omega)
    rw [readExact, if_neg exceeds]
    simp only
    rw [ended]
    exact ⟨rfl, nothing⟩

/-- What a read takes off is what it returns; a read that fails may have taken off some, too. -/
theorem readExact_left (needed : Nat) (pieces : List Piece) :
    (content (readExact needed pieces).2).length ≤ (content pieces).length ∧
      ∀ bytes, (readExact needed pieces).1 = .ok bytes →
        (content (readExact needed pieces).2).length + needed = (content pieces).length := by
  induction needed, pieces using readExact.induct with
  | case1 pieces => simp [readExact]
  | case2 needed => simp [readExact]
  | case3 needed pieces inductionHypothesis =>
    rw [readExact]
    exact inductionHypothesis
  | case4 needed message pieces => simp [readExact, content]
  | case5 needed fragment pieces fits =>
    rw [readExact, if_pos fits]
    simp only [content, List.length_append, List.length_drop]
    exact ⟨by omega, fun _ _ => by omega⟩
  | case6 needed fragment pieces exceeds outcome remaining isRead inductionHypothesis =>
    rw [readExact, if_neg exceeds]
    rw [isRead] at inductionHypothesis ⊢
    obtain ⟨shrinks, taken⟩ := inductionHypothesis
    simp only [content, List.length_append] at shrinks taken ⊢
    refine ⟨by omega, ?_⟩
    intro bytes isBytes
    cases outcome with
    | error stop => cases isBytes
    | ok rest =>
      have left := taken rest rfl
      omega

end Foundations.ByteStream
