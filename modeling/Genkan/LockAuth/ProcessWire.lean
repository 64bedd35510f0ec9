import Genkan.LockAuth.BoundedText
import Genkan.LockAuth.Canonical
import Genkan.LockAuth.ProcessSteps
import Mathlib.Data.List.TakeWhile

/-! # The locker hears what the process says

The texts of a process come from the user database and from PAM, and contain no NUL byte.  So every message
that it can send is decoded at the other end, however its bytes are cut into reads and wherever they end.
-/

namespace Genkan.LockAuth

open Foundations Foundations.ByteStream Foundations.Utf8

/-! ## Texts -/

theorem take_strnlen (memory : List UInt8) (maximum : Nat) :
    memory.take (strnlen memory maximum) = (memory.take maximum).takeWhile (· ≠ 0) := by
  have starts := (List.takeWhile_prefix (l := memory.take maximum) (· ≠ 0)).trans (List.take_prefix maximum memory)
  exact (List.prefix_iff_eq_take.mp starts).symm

theorem boundedMessage_plain {memory : List UInt8} {text : String} (returns : boundedMessage memory = some text) :
    0 ∉ intoBytes text := by
  simp only [boundedMessage, Option.ite_none_left_eq_some, Option.some.injEq] at returns
  obtain ⟨_, rfl⟩ := returns
  have plain : 0 ∉ memory.take (strnlen memory (maxMessageBytes + 1)) := by
    rw [take_strnlen]
    intro member
    simpa using List.mem_takeWhile_imp member
  have starts := List.reverse_prefix.mpr (popWhileLong_suffix maxMessageBytes
    (fromUtf8Lossy (memory.take (strnlen memory (maxMessageBytes + 1)))).reverse)
  rw [List.reverse_reverse] at starts
  rw [zero_mem_intoBytes, String.toList_ofList]
  intro member
  exact fromUtf8Lossy_plain plain (starts.subset member)

theorem usernameForUid_plain {getpwuid : UInt32 → Nat → Lookup (List UInt8)} {uid : UInt32} {username : String}
    (found : usernameForUid getpwuid uid = some username) : 0 ∉ intoBytes username := by
  simp only [usernameForUid, Option.bind_eq_bind, Option.bind_eq_some_iff] at found
  obtain ⟨name, _, reads⟩ := found
  rw [intoBytes_fromUTF8 reads]
  intro member
  simpa using List.mem_takeWhile_imp member

theorem Host.identify_plain {host : Host} {username : String} (identified : host.identify = some username) :
    0 ∉ intoBytes username := by
  simp only [Host.identify, Option.bind_eq_bind, Option.bind_eq_some_iff, Option.ite_none_right_eq_some] at identified
  obtain ⟨_, _, _, found⟩ := identified
  exact usernameForUid_plain found

/-! ## Messages -/

/-- The peer can decode what was sent. -/
def Event.Audible : Event → Prop
  | .sent message => message.text.length ≤ maxMessageBytes ∧ 0 ∉ message.text
  | .received _ => True

theorem send_audible (connection : Connection) {message : Message} (plain : 0 ∉ message.text) :
    ∀ event ∈ (connection.send message).1.log, event ∈ connection.log ∨ event.Audible := by
  intro event member
  rw [Connection.send] at member
  split at member
  next frame sent =>
    rw [List.mem_append, List.mem_singleton] at member
    cases member with
    | inl before => exact .inl before
    | inr isSent =>
      subst isSent
      refine .inr ⟨?_, plain⟩
      by_contra long
      rw [send_refused (Nat.lt_of_not_le long)] at sent
      contradiction
  next => exact .inl member

theorem receive_audible (connection : Connection) :
    ∀ event ∈ connection.receive.1.log, event ∈ connection.log ∨ event.Audible := by
  intro event member
  change event ∈ connection.log ++ [.received connection.receive.2] at member
  rw [List.mem_append, List.mem_singleton] at member
  cases member with
  | inl before => exact .inl before
  | inr isReceived => exact .inr (isReceived ▸ trivial)

/-- What was said since can be heard. -/
def Clear (before after : Connection) : Prop := ∀ event ∈ after.log, event ∈ before.log ∨ event.Audible

theorem Clear.trans {first second third : Connection} (before : Clear first second) (after : Clear second third) :
    Clear first third := by
  intro event member
  cases after event member with
  | inl earlier => exact before event earlier
  | inr audible => exact .inr audible

theorem kept_clear : Kept fun before after => Clear before.connection after.connection where
  refl _ _ member := .inl member
  trans _ _ _ before after := before.trans after
  prompt conversation _ text secret bounded := by
    have sends := send_audible conversation.connection
      (show 0 ∉ (Message.prompt conversation.nextId secret text).text from boundedMessage_plain bounded)
    rw [PamConversation.prompt]
    split
    next => exact fun _ member => .inl member
    next =>
      dsimp only
      generalize conversation.connection.send (.prompt conversation.nextId secret text) = outcome at sends ⊢
      obtain ⟨connection, result⟩ := outcome
      cases result with
      | error error => exact sends
      | ok sent =>
        have whole : Clear conversation.connection connection.receive.1 :=
          Clear.trans sends (receive_audible connection)
        dsimp only
        generalize connection.receive = outcome at whole ⊢
        obtain ⟨connection, reply⟩ := outcome
        cases reply with
        | error error => exact whole
        | ok message => cases message <;> exact whole
  notice conversation _ text error bounded := by
    refine send_audible conversation.connection ?_
    cases error <;> exact boundedMessage_plain bounded

theorem pass_clear (transaction : Transaction) (username : String) (uid : UInt32) (connection : Connection) :
    Clear connection (pass transaction username uid connection).1 := by
  have converses := kept_clear.transaction transaction username uid { connection, nextId := 1, cancelled := false }
  rw [pass]
  generalize transaction.run username uid { connection, nextId := 1, cancelled := false } = outcome at converses
  obtain ⟨conversation, authenticated⟩ := outcome
  dsimp only at converses ⊢
  split
  next =>
    have sends := send_audible conversation.connection (show 0 ∉ Message.success.text from List.not_mem_nil)
    generalize conversation.connection.send .success = outcome at sends ⊢
    obtain ⟨sent, result⟩ := outcome
    cases result <;> exact converses.trans sends
  next =>
    have sends := send_audible conversation.connection (show 0 ∉ Message.failure.text from List.not_mem_nil)
    generalize conversation.connection.send .failure = outcome at sends ⊢
    obtain ⟨sent, result⟩ := outcome
    cases result with
    | error error => exact converses.trans sends
    | ok written =>
      have whole := (converses.trans sends).trans (receive_audible sent)
      dsimp only at whole ⊢
      generalize sent.receive = outcome at whole ⊢
      obtain ⟨received, reply⟩ := outcome
      cases reply with
      | error error => exact whole
      | ok message => cases message <;> exact whole

theorem attempts_clear (transactions : Nat → Transaction) (username : String) (uid : UInt32) (index : Nat)
    (connection : Connection) : Clear connection (attempts transactions username uid index connection).1 := by
  induction index, connection using attempts.induct transactions username uid with
  | case1 index connection final clean passes =>
    have first := pass_clear (transactions index) username uid connection
    rw [passes] at first
    rwa [attempts, passes]
  | case2 index connection again passes inductionHypothesis =>
    have first := pass_clear (transactions index) username uid connection
    rw [passes] at first
    rw [attempts, passes]
    exact first.trans inductionHypothesis

theorem run_audible (host : Host) (incoming : List Piece) (writes : List (Option String)) :
    ∀ event ∈ (host.run ⟨incoming, writes, []⟩).1.log, event.Audible := by
  suffices clear : Clear ⟨incoming, writes, []⟩ (host.run ⟨incoming, writes, []⟩).1 by
    intro event member
    exact (clear event member).resolve_left List.not_mem_nil
  rw [Host.run]
  cases identified : host.identify with
  | none => exact fun _ member => .inl member
  | some username =>
    dsimp only
    have sends := send_audible ⟨incoming, writes, []⟩
      (show 0 ∉ (Message.ready host.uid username).text from host.identify_plain identified)
    generalize Connection.send ⟨incoming, writes, []⟩ (.ready host.uid username) = outcome at sends ⊢
    obtain ⟨ready, result⟩ := outcome
    cases result with
    | error error => exact sends
    | ok written =>
      have whole := Clear.trans sends (receive_audible ready)
      dsimp only at whole ⊢
      rw [awaitBegin]
      generalize ready.receive = outcome at whole ⊢
      obtain ⟨begun, reply⟩ := outcome
      cases reply with
      | error error => exact whole
      | ok message =>
        cases message with
        | begin => exact whole.trans (attempts_clear host.transactions username host.uid 0 begun)
        | _ => exact whole

/-! ## Bytes -/

def sentMessages (log : List Event) : List Message :=
  log.filterMap fun
    | .sent message => some message
    | .received _ => none

def Message.bytes (message : Message) : List UInt8 :=
  match send message none with
  | .ok frame => frame
  | .error _ => []

/-- The frames of everything that was sent. -/
def written (log : List Event) : List UInt8 := (sentMessages log).flatMap Message.bytes

theorem Message.bytes_frame {message : Message} (audible : (Event.sent message).Audible) :
    ∃ frame : Frame, message.bytes = frame.bytes ∧ frame.decoded = .ok message := by
  obtain ⟨kind, payload, sent, bounded, decoded⟩ := send_accepted audible.1
  refine ⟨⟨kind, payload, bounded⟩, ?_, ?_⟩
  · rw [Message.bytes, sent]
    rfl
  · exact decoded.trans (message.received_eq_ok.mpr audible.2)

/-- A stream of frames that ends within one more is received frame by frame and is then closed. -/
theorem receiveAll_cut (frames : List Frame) {stream : List Piece} (reliable : Reliable stream) {last : Frame}
    {part rest : List UInt8} (cut : part ++ rest = last.bytes) (proper : rest ≠ [])
    (holds : content stream = frames.flatMap Frame.bytes ++ part) :
    receiveAll (frames.length + 1) stream = frames.map Frame.decoded ++ [.error .closed] := by
  induction frames generalizing stream with
  | nil =>
    rw [List.flatMap_nil, List.nil_append] at holds
    rw [← holds] at cut
    rw [List.length_nil, receiveAll, receive_truncated reliable last.bounded cut proper]
    rfl
  | cons frame frames inductionHypothesis =>
    rw [List.flatMap_cons, List.append_assoc] at holds
    obtain ⟨decoded, left, still⟩ := receive_frame reliable frame.bounded holds
    rw [List.length_cons, receiveAll, decoded, inductionHypothesis still left]
    rfl

theorem frames_of_messages (messages : List Message)
    (audible : ∀ message ∈ messages, (Event.sent message).Audible) :
    ∃ frames : List Frame, frames.length = messages.length ∧
      frames.flatMap Frame.bytes = messages.flatMap Message.bytes ∧
      frames.map Frame.decoded = messages.map .ok := by
  induction messages with
  | nil => exact ⟨[], rfl, rfl, rfl⟩
  | cons message messages inductionHypothesis =>
    obtain ⟨frames, lengths, bytes, decoded⟩ :=
      inductionHypothesis fun other member => audible other (List.mem_cons_of_mem message member)
    obtain ⟨frame, isBytes, isDecoded⟩ := Message.bytes_frame (audible message List.mem_cons_self)
    refine ⟨frame :: frames, ?_, ?_, ?_⟩
    · rw [List.length_cons, List.length_cons, lengths]
    · rw [List.flatMap_cons, List.flatMap_cons, bytes, isBytes]
    · rw [List.map_cons, List.map_cons, decoded, isDecoded]

/-- Whatever the process was answered and told: from its bytes, however they are cut into reads, and also when
they end within a further frame, the locker receives exactly the messages that were sent, in their order. -/
theorem process_heard (host : Host) (incoming : List Piece) (writes : List (Option String)) (stream : List Piece)
    (reliable : Reliable stream) (last : Frame) (part rest : List UInt8) (cut : part ++ rest = last.bytes)
    (proper : rest ≠ [])
    (holds : content stream = written (host.run ⟨incoming, writes, []⟩).1.log ++ part) :
    receiveAll ((sentMessages (host.run ⟨incoming, writes, []⟩).1.log).length + 1) stream =
      (sentMessages (host.run ⟨incoming, writes, []⟩).1.log).map .ok ++ [.error .closed] := by
  have audible := run_audible host incoming writes
  generalize (host.run ⟨incoming, writes, []⟩).1.log = log at audible holds ⊢
  obtain ⟨frames, lengths, bytes, decoded⟩ := frames_of_messages (sentMessages log) (by
    intro message member
    obtain ⟨event, isEvent, isSent⟩ := List.mem_filterMap.mp member
    cases event with
    | sent sent =>
      cases isSent
      exact audible _ isEvent
    | received result => cases isSent)
  rw [← lengths, ← decoded]
  apply receiveAll_cut frames reliable cut proper
  rw [bytes]
  exact holds

def oneByOne (bytes : List UInt8) : List Piece := bytes.map fun byte => .bytes [byte]

theorem oneByOne_reliable (bytes : List UInt8) : Reliable (oneByOne bytes) := by
  intro message member
  simp [oneByOne] at member

theorem content_oneByOne (bytes : List UInt8) : content (oneByOne bytes) = bytes := by
  induction bytes with
  | nil => rfl
  | cons byte bytes inductionHypothesis => exact congrArg (byte :: ·) inductionHypothesis

/-- A process whose first attempt is cancelled, heard byte by byte up to the header of one more frame. -/
theorem process_heard_sample :
    receiveAll 6 (oneByOne (written (sampleHost.run ⟨sampleIncoming, [], []⟩).1.log ++ frameHeader Kind.info 2)) =
      [.ok (.ready 1000 "a"), .ok (.prompt 1 true "Pin"), .ok .failure, .ok (.prompt 1 true "Pin"), .ok .success,
        .error .closed] := by
  have isSent : sentMessages (sampleHost.run ⟨sampleIncoming, [], []⟩).1.log =
      [.ready 1000 "a", .prompt 1 true "Pin", .failure, .prompt 1 true "Pin", .success] := by decide +kernel
  have heard := process_heard sampleHost sampleIncoming [] _ (oneByOne_reliable _) ⟨Kind.info, [104, 105], by decide⟩
    (frameHeader Kind.info 2) [104, 105] rfl (by decide) (content_oneByOne _)
  rw [isSent] at heard
  exact heard

end Genkan.LockAuth
