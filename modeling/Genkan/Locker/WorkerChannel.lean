import Genkan.LockAuth.ProcessWire
import Genkan.Locker.Identity
import Genkan.Locker.Presentation

/-! # From the worker to the lock screen

The client accepts a worker that says who it is, and its reader turns what the worker says into events.  Both
sides are taken together here: the process at one end of the socket, and the client at the other.
-/

namespace Genkan.Locker

open Foundations Foundations.ByteStream LockAuth

/-- What is left of the stream once the first message has arrived in time; a deadline is a read that fails. -/
def acceptWorker (identity : Identity) (stream : List Piece) : Except StartError (List Piece) :=
  match receive stream with
  | (.ok (.ready uid username), rest) =>
    if uid = identity.uid ∧ username = identity.username then .ok rest else .error .unexpectedWorker
  | (.ok _, _) => .error .unexpectedWorker
  | (.error error, _) => .error (.protocol error)

/-- The event for a message that does not end the conversation. -/
def reported : Message → Option Event
  | .prompt id secret text => some (.prompt id secret text)
  | .info text => some (.notice false text)
  | .error text => some (.notice true text)
  | .failure => some .failure
  | .ready _ _ | .success | .response _ _ | .cancel | .retry | .begin => none

/-- The stream holds these messages and at most a part of one more. -/
structure Carries (stream : List Piece) (messages : List Message) : Prop where
  reliable : Reliable stream
  frames : ∃ (frames : List Frame) (part rest : List UInt8) (last : Frame),
    content stream = frames.flatMap Frame.bytes ++ part ∧ part ++ rest = last.bytes ∧ rest ≠ [] ∧
      frames.map Frame.decoded = messages.map .ok

theorem Carries.nil {stream : List Piece} (carries : Carries stream []) : (receive stream).1 = .error .closed := by
  obtain ⟨frames, part, rest, last, holds, cut, proper, decoded⟩ := carries.frames
  rw [List.map_nil, List.map_eq_nil_iff] at decoded
  subst decoded
  rw [List.flatMap_nil, List.nil_append] at holds
  rw [← holds] at cut
  exact receive_truncated carries.reliable last.bounded cut proper

theorem Carries.cons {stream : List Piece} {message : Message} {messages : List Message}
    (carries : Carries stream (message :: messages)) :
    ∃ left, receive stream = (.ok message, left) ∧ Carries left messages := by
  obtain ⟨frames, part, rest, last, holds, cut, proper, decoded⟩ := carries.frames
  cases frames with
  | nil => cases decoded
  | cons frame frames =>
    rw [List.map_cons, List.map_cons, List.cons.injEq] at decoded
    rw [List.flatMap_cons, List.append_assoc] at holds
    obtain ⟨isMessage, left, still⟩ := receive_frame carries.reliable frame.bounded holds
    exact ⟨(receive stream).2, Prod.ext (isMessage.trans decoded.1) rfl, still,
      frames, part, rest, last, left, cut, proper, decoded.2⟩

/-- What a worker may say after its name: messages that are reported, and a success as the last one. -/
inductive Utterance : List Message → Prop
  | nil : Utterance []
  | success : Utterance [.success]
  | cons {message : Message} {messages : List Message} {event : Event} (isReported : reported message = some event)
      (rest : Utterance messages) : Utterance (message :: messages)

theorem Utterance.take {messages : List Message} (utterance : Utterance messages) (count : Nat) :
    Utterance (messages.take count) := by
  induction utterance generalizing count with
  | nil =>
    rw [List.take_nil]
    exact .nil
  | success =>
    cases count with
    | zero => exact .nil
    | succ count =>
      rw [List.take_succ_cons, List.take_nil]
      exact .success
  | cons isReported rest inductionHypothesis =>
    cases count with
    | zero => exact .nil
    | succ count => exact .cons isReported (inductionHypothesis count)

/-- The events of what was heard; the last one says how it ended. -/
def events (clean : Bool) (heard : List Message) : List Event :=
  heard.filterMap reported ++ [if .success ∈ heard ∧ clean = true then .success else .failure]

variable {vouched : Nat → Prop}

/-- Nothing but what is reported and successes. -/
def Spoken (said : List LockAuth.Event) : Prop :=
  ∀ message, .sent message ∈ said → (reported message).isSome ∨ message = .success

theorem Spoken.append {said more : List LockAuth.Event} (before : Spoken said) (after : Spoken more) :
    Spoken (said ++ more) := by
  intro message member
  cases List.mem_append.mp member with
  | inl earlier => exact before message earlier
  | inr later => exact after message later

theorem acceptWorker_eq_ok {identity : Identity} {stream rest : List Piece} :
    acceptWorker identity stream = .ok rest ↔
      receive stream = (.ok (.ready identity.uid identity.username), rest) := by
  rw [acceptWorker]
  constructor
  · intro accepted
    split at accepted
    next received left receives =>
      split at accepted
      next same =>
        obtain ⟨rfl, rfl⟩ := same
        cases accepted
        exact receives
      next => cases accepted
    next => cases accepted
    next => cases accepted
  · intro receives
    rw [receives]
    simp

end Genkan.Locker
