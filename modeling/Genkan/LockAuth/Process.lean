import Genkan.Foundations.Interaction
import Genkan.Foundations.Signed
import Genkan.LockAuth.PamCallback

/-! # The process of the worker

`run` with everything that it asks the system, the user database and the PAM library.  A function of the
library may call the conversation back as often as it likes, and goes on with what that returns.
-/

namespace Genkan.LockAuth

open Foundations Foundations.ByteStream Foundations.Bytes

def service : String := "genkan-lock"

def initialNssBuffer : Nat := 1024

def maxNssBuffer : Nat := 1024 * 1024

def maxUsernameBytes : Nat := 256 * 4

def pamSuccess : Int := 0

def pamDisallowNullAuthtok : Nat := 1

/-! ## The user database -/

def erange : Int := 34

/-- The status of a lookup, and the entry that its result points to. -/
structure Lookup (Entry : Type) where
  status : Int
  entry : Option Entry

def nextNssBuffer (status : Int) (size : Nat) : Option Nat :=
  if status = erange ∧ size < maxNssBuffer then some (min (size * 2) maxNssBuffer) else none

/-- The buffer grows up to its bound. -/
theorem nextNssBuffer_eq_some {status : Int} {size next : Nat} (positive : 0 < size)
    (grows : nextNssBuffer status size = some next) : size < next ∧ next ≤ maxNssBuffer := by
  simp only [nextNssBuffer, Option.ite_none_right_eq_some, Option.some.injEq] at grows
  obtain ⟨⟨_, smaller⟩, rfl⟩ := grows
  exact ⟨by omega, Nat.min_le_right _ _⟩

/-- The loop of a lookup: `call` answers for a buffer of a size, and the last answer is what counts. -/
def settle {Entry : Type} (call : Nat → Lookup Entry) (size : Nat) (positive : 0 < size) : Lookup Entry :=
  match grows : nextNssBuffer (call size).status size with
  | some next => settle call next (Nat.lt_trans positive (nextNssBuffer_eq_some positive grows).1)
  | none => call size
termination_by maxNssBuffer - size
decreasing_by
  have bounds := nextNssBuffer_eq_some positive grows
  omega

def lookUp {Entry : Type} (call : Nat → Lookup Entry) : Option Entry :=
  let answer := settle call initialNssBuffer (by decide)
  if answer.status ≠ 0 then none else answer.entry

/-- The entry names the user by what its pointer points to. -/
def usernameForUid (getpwuid : UInt32 → Nat → Lookup (List UInt8)) (uid : UInt32) : Option String := do
  let name ← lookUp (getpwuid uid)
  String.fromUTF8? ⟨(name.takeWhile (· ≠ 0)).toArray⟩

def usernameUid (getpwnam : List UInt8 → Nat → Lookup UInt32) (username : List UInt8) : Option UInt32 :=
  if 0 ∈ username then none else lookUp (getpwnam username)

/-! ## The PAM library -/

/-- What a call of the conversation leaves in memory and returns. -/
structure Reply where
  memory : Memory
  responses : Option (List PamResponse)
  status : PamStatus

/-- A function of the library that calls the conversation, each time with the memory it then finds. -/
abbrev Library := Interaction fun _ : Arguments × Memory => Reply

/-- What the library does in one transaction. -/
structure Transaction where
  /-- The status, and whether there is a handle. -/
  start : String → String → Int × Bool
  authenticate : Nat → Library Int
  /-- The status, and the memory from the name on, unless the pointer to it is null. -/
  getUser : Library (Int × Option (List UInt8))
  finish : Int → Library Int
  getpwnam : List UInt8 → Nat → Lookup UInt32

/-- The callback with the conversation it was registered with. -/
def PamConversation.answer (conversation : PamConversation) (call : Arguments × Memory) : PamConversation × Reply :=
  let returned := pamConversation call.1 conversation call.2
  (returned.conversation, { returned with })

def boundedUsername (username : List UInt8) : Option (List UInt8) :=
  let length := strnlen username (maxUsernameBytes + 1)
  if maxUsernameBytes < length then none else some (username.take length)

namespace Transaction

def pamUid (transaction : Transaction) (conversation : PamConversation) : PamConversation × Option UInt32 :=
  match transaction.getUser.run PamConversation.answer conversation with
  | (conversation, (status, some username)) =>
    if status ≠ pamSuccess then (conversation, none)
    else (conversation, (boundedUsername username).bind (usernameUid transaction.getpwnam))
  | (conversation, (_, none)) => (conversation, none)

/-- The user is asked for only after a success. -/
def sameUser (transaction : Transaction) (status : Int) (uid : UInt32) (conversation : PamConversation) :
    PamConversation × Bool :=
  if status = pamSuccess then
    let (conversation, found) := transaction.pamUid conversation
    (conversation, found == some uid)
  else (conversation, false)

def run (transaction : Transaction) (username : String) (uid : UInt32) (conversation : PamConversation) :
    PamConversation × Bool :=
  if 0 ∈ intoBytes username then (conversation, false)
  else if (transaction.start service username).1 ≠ pamSuccess ∨ (transaction.start service username).2 = false then
    (conversation, false)
  else
    let (conversation, status) :=
      (transaction.authenticate pamDisallowNullAuthtok).run PamConversation.answer conversation
    let (conversation, sameUser) := transaction.sameUser status uid conversation
    let (conversation, ended) := (transaction.finish status).run PamConversation.answer conversation
    (conversation, sameUser && ended == pamSuccess)

end Transaction

/-! ## The run -/

/-- What the system answers to the process before it talks to anyone, and PAM in each pass of the loop. -/
structure Host where
  arguments : List (List UInt8)
  prctl : Int
  getppid : Int
  getFlags : Int
  setFlags : Nat → Int
  closeRange : Int
  uid : UInt32
  effectiveUid : UInt32
  gid : UInt32
  effectiveGid : UInt32
  getpwuid : UInt32 → Nat → Lookup (List UInt8)
  transactions : Nat → Transaction

def parseArgument (value : List UInt8) : Option Int := (String.fromUTF8? ⟨value.toArray⟩).bind parseI32

def parseArguments (arguments : List (List UInt8)) : Option (Int × Int) :=
  match arguments.tail with
  | [fdFlag, fd, pidFlag, pid] =>
    if fdFlag = intoBytes "--fd" ∧ pidFlag = intoBytes "--parent-pid" then do
      let fd ← (parseArgument fd).filter (· = 3)
      let pid ← (parseArgument pid).filter (1 < ·)
      return (fd, pid)
    else none
  | _ => none

namespace Host

def bindToParent (host : Host) (parentPid : Int) : Bool := host.prctl = 0 ∧ host.getppid = parentPid

/-- The descriptor flag is `FD_CLOEXEC`. -/
def setCloseOnExec (host : Host) : Bool := 0 ≤ host.getFlags ∧ host.setFlags (host.getFlags.toNat ||| 1) = 0

def closeExtraDescriptors (host : Host) : Bool := host.closeRange = 0

/-- What `run` does before it says that it is ready, with the name it is ready with. -/
def identify (host : Host) : Option String := do
  let (_, parentPid) ← parseArguments host.arguments
  if host.bindToParent parentPid && host.setCloseOnExec && host.closeExtraDescriptors &&
      host.effectiveUid = host.uid && host.effectiveGid = host.gid then
    usernameForUid host.getpwuid host.uid
  else none

end Host

def awaitBegin (connection : Connection) : Connection × Bool :=
  match connection.receive with
  | (connection, .ok .begin) => (connection, true)
  | (connection, _) => (connection, false)

inductive PassResult where
  | again
  | ended (clean : Bool)

/-- One pass through the loop. -/
def pass (transaction : Transaction) (username : String) (uid : UInt32) (connection : Connection) :
    Connection × PassResult :=
  let (conversation, authenticated) :=
    transaction.run username uid { connection, nextId := 1, cancelled := false }
  if authenticated && !conversation.cancelled then
    match conversation.connection.send .success with
    | (connection, .ok ()) => (connection, .ended true)
    | (connection, .error _) => (connection, .ended false)
  else
    match conversation.connection.send .failure with
    | (connection, .error _) => (connection, .ended false)
    | (connection, .ok ()) =>
      match connection.receive with
      | (connection, .ok .retry) => (connection, .again)
      | (connection, .ok .cancel) => (connection, .ended true)
      | (connection, _) => (connection, .ended false)

/-! ## What PAM does to a conversation -/

theorem request_bounded {message : Option PamMessage} {request : Request}
    (asked : LockAuth.request message = some request) :
    ∃ memory, boundedMessage memory = some (match request with | .prompt _ text | .notice _ text => text) := by
  simp only [LockAuth.request, Option.bind_eq_bind, Option.bind_eq_some_iff] at asked
  obtain ⟨message, _, memory, _, text, isText, style, _, isRequest⟩ := asked
  refine ⟨memory, ?_⟩
  rw [isText]
  cases style <;> cases isRequest <;> rfl

/-- A relation between a conversation and what becomes of it that every prompt and every notice keeps. -/
structure Kept (related : PamConversation → PamConversation → Prop) : Prop where
  refl : ∀ conversation, related conversation conversation
  trans : ∀ first second third, related first second → related second third → related first third
  prompt : ∀ conversation memory text secret, boundedMessage memory = some text →
    related conversation (conversation.prompt text secret).1
  notice : ∀ conversation memory text error, boundedMessage memory = some text →
    related conversation (conversation.notice text error)

namespace Kept

variable {related : PamConversation → PamConversation → Prop}

theorem ask (kept : Kept related) (callback : Callback) (index : Nat) {memory : List UInt8} {text : String}
    (secret : Bool) (bounded : boundedMessage memory = some text) :
    related callback.conversation (callback.ask index text secret).1.conversation := by
  have prompted := kept.prompt callback.conversation memory text secret bounded
  simp only [Callback.ask]
  generalize callback.conversation.prompt text secret = outcome at prompted ⊢
  obtain ⟨conversation, answer⟩ := outcome
  cases answer with
  | none => exact prompted
  | some value =>
    dsimp only
    generalize callback.memory.store value.value = store
    obtain ⟨memory, pointer⟩ := store
    cases pointer <;> exact prompted

theorem serve (kept : Kept related) (callback : Callback) (index : Nat) (message : Option PamMessage) :
    related callback.conversation (callback.serve index message).1.conversation := by
  rw [serve_eq]
  cases asked : request message with
  | none => exact kept.refl _
  | some request =>
    obtain ⟨memory, bounded⟩ := request_bounded asked
    cases request with
    | prompt secret text => exact kept.ask callback index secret bounded
    | notice error text => exact kept.notice _ memory text error bounded

theorem serveAll (kept : Kept related) (messages : List (Option PamMessage)) (index : Nat)
    (callback : Callback) : related callback.conversation (callback.serveAll index messages).1.conversation := by
  induction messages generalizing index callback with
  | nil => exact kept.refl _
  | cons message messages inductionHypothesis =>
    have served := kept.serve callback index message
    rw [Callback.serveAll]
    generalize callback.serve index message = next at served ⊢
    obtain ⟨next, ok⟩ := next
    cases ok with
    | false => exact served
    | true => exact kept.trans _ _ _ served (inductionHypothesis (index + 1) next)

theorem answer (kept : Kept related) (conversation : PamConversation) (call : Arguments × Memory) :
    related conversation (conversation.answer call).1 := by
  change related conversation (pamConversation call.1 conversation call.2).conversation
  rcases pamConversation_cases call.1 conversation call.2 with
    ⟨memory, _, refused⟩ | ⟨memory, messages, _, _, served⟩
  · rw [refused]
    exact kept.refl conversation
  · rw [served, conclude_conversation]
    exact kept.serveAll _ 0 { conversation, memory, pending := .replicate call.1.count.toNat .zeroed }

theorem library {Result : Type} (kept : Kept related) (program : Library Result) (conversation : PamConversation) :
    related conversation (program.run PamConversation.answer conversation).1 :=
  Interaction.run_related kept.refl kept.trans kept.answer program conversation

theorem pamUid (kept : Kept related) (transaction : Transaction) (conversation : PamConversation) :
    related conversation (transaction.pamUid conversation).1 := by
  have asked := kept.library transaction.getUser conversation
  rw [Transaction.pamUid]
  generalize transaction.getUser.run PamConversation.answer conversation = outcome at asked ⊢
  obtain ⟨conversation, status, username⟩ := outcome
  cases username with
  | none => exact asked
  | some username =>
    dsimp only
    split <;> exact asked

theorem sameUser (kept : Kept related) (transaction : Transaction) (status : Int) (uid : UInt32)
    (conversation : PamConversation) :
    related conversation (transaction.sameUser status uid conversation).1 := by
  rw [Transaction.sameUser]
  split
  next => exact kept.pamUid transaction conversation
  next => exact kept.refl conversation

theorem transaction (kept : Kept related) (transaction : Transaction) (username : String) (uid : UInt32)
    (conversation : PamConversation) : related conversation (transaction.run username uid conversation).1 := by
  simp only [Transaction.run]
  split
  next => exact kept.refl conversation
  next =>
    split
    next => exact kept.refl conversation
    next =>
      have authenticated := kept.library (transaction.authenticate pamDisallowNullAuthtok) conversation
      generalize (transaction.authenticate pamDisallowNullAuthtok).run PamConversation.answer conversation =
        outcome at authenticated ⊢
      have asked := kept.sameUser transaction outcome.2 uid outcome.1
      have ended := kept.library (transaction.finish outcome.2) (transaction.sameUser outcome.2 uid outcome.1).1
      exact kept.trans _ _ _ (kept.trans _ _ _ authenticated asked) ended

end Kept

/-! ## The loop -/

theorem readExactOrClosed_left (needed : Nat) (stream : List Piece) :
    (content (readExactOrClosed needed stream).2).length ≤ (content stream).length ∧
      ∀ bytes, (readExactOrClosed needed stream).1 = .ok bytes →
        (content (readExactOrClosed needed stream).2).length + needed = (content stream).length := by
  have left := readExact_left needed stream
  rw [readExactOrClosed]
  generalize readExact needed stream = outcome at left ⊢
  obtain ⟨result, remaining⟩ := outcome
  cases result with
  | ok bytes => exact ⟨left.1, fun _ _ => left.2 bytes rfl⟩
  | error stop => cases stop <;> exact ⟨left.1, by simp⟩

/-- A message takes its bytes off the stream. -/
theorem receive_left (stream : List Piece) :
    (content (receive stream).2).length ≤ (content stream).length ∧
      ∀ message, (receive stream).1 = .ok message →
        (content (receive stream).2).length < (content stream).length := by
  have header := readExactOrClosed_left headerBytes stream
  rw [receive]
  generalize readExactOrClosed headerBytes stream = outcome at header ⊢
  obtain ⟨result, stream'⟩ := outcome
  cases result with
  | error error => exact ⟨header.1, by simp⟩
  | ok header' =>
    have taken := header.2 header' rfl
    simp only [headerBytes] at taken
    dsimp only
    split
    next => exact ⟨header.1, by simp⟩
    next =>
      split
      next => exact ⟨header.1, by simp⟩
      next =>
        have payload := (readExactOrClosed_left (ofBigEndian (header'.drop 6)) stream').1
        generalize readExactOrClosed (ofBigEndian (header'.drop 6)) stream' = outcome at payload ⊢
        obtain ⟨result, stream''⟩ := outcome
        cases result <;> exact ⟨by dsimp only at payload ⊢; omega, fun _ _ => by dsimp only at payload ⊢; omega⟩

/-- The bytes that the peer has yet to write or the worker to read. -/
def Connection.unread (connection : Connection) : Nat := (content connection.incoming).length

theorem Connection.unread_send (connection : Connection) (message : Message) :
    (connection.send message).1.unread = connection.unread := by
  rw [Connection.send]
  split <;> rfl

theorem Connection.unread_receive (connection : Connection) :
    connection.receive.1.unread ≤ connection.unread ∧
      ∀ message, connection.receive.2 = .ok message → connection.receive.1.unread < connection.unread :=
  receive_left connection.incoming

/-- No part of a conversation brings new bytes. -/
theorem kept_unread :
    Kept fun before after => after.connection.unread ≤ before.connection.unread where
  refl _ := Nat.le_refl _
  trans _ _ _ first second := Nat.le_trans second first
  prompt conversation _ text secret _ := by
    have sends := conversation.connection.unread_send (.prompt conversation.nextId secret text)
    rw [PamConversation.prompt]
    split
    next => exact Nat.le_refl _
    next =>
      dsimp only
      generalize conversation.connection.send (.prompt conversation.nextId secret text) = outcome at sends ⊢
      obtain ⟨connection, result⟩ := outcome
      cases result with
      | error error => exact Nat.le_of_eq sends
      | ok sent =>
        have receives := connection.unread_receive.1
        dsimp only at sends ⊢
        rw [← sends]
        generalize connection.receive = outcome at receives ⊢
        obtain ⟨connection, reply⟩ := outcome
        cases reply with
        | error error => exact receives
        | ok message => cases message <;> exact receives
  notice conversation _ text error _ := Nat.le_of_eq (Connection.unread_send _ _)

/-- Each further pass has taken a message off the stream. -/
theorem pass_again {transaction : Transaction} {username : String} {uid : UInt32} {connection next : Connection}
    (goesOn : pass transaction username uid connection = (next, .again)) : next.unread < connection.unread := by
  have converses := kept_unread.transaction transaction username uid
    { connection, nextId := 1, cancelled := false }
  rw [pass] at goesOn
  generalize transaction.run username uid { connection, nextId := 1, cancelled := false } = outcome
    at converses goesOn
  obtain ⟨conversation, authenticated⟩ := outcome
  dsimp only at converses goesOn
  split at goesOn
  next => split at goesOn <;> cases goesOn
  next =>
    have sends := conversation.connection.unread_send .failure
    generalize conversation.connection.send .failure = outcome at sends goesOn
    obtain ⟨failed, result⟩ := outcome
    cases result with
    | error error => cases goesOn
    | ok sent =>
      have receives := failed.unread_receive.2
      dsimp only at sends goesOn
      generalize failed.receive = outcome at receives goesOn
      obtain ⟨received, reply⟩ := outcome
      cases reply with
      | error error => cases goesOn
      | ok message =>
        cases message <;> cases goesOn
        have shorter : next.unread < failed.unread := receives _ rfl
        omega

/-- The passes from one on, each of which calls the library anew. -/
def attempts (transactions : Nat → Transaction) (username : String) (uid : UInt32) (index : Nat)
    (connection : Connection) : Connection × Bool :=
  match goesOn : pass (transactions index) username uid connection with
  | (connection, .ended clean) => (connection, clean)
  | (next, .again) => attempts transactions username uid (index + 1) next
termination_by connection.unread
decreasing_by exact pass_again goesOn

/-- The process, and whether its status says that `run` has returned without an error. -/
def Host.run (host : Host) (connection : Connection) : Connection × Bool :=
  match host.identify with
  | none => (connection, false)
  | some username =>
    match connection.send (.ready host.uid username) with
    | (connection, .error _) => (connection, false)
    | (connection, .ok ()) =>
      match awaitBegin connection with
      | (connection, false) => (connection, false)
      | (connection, true) => attempts host.transactions username host.uid 0 connection

end Genkan.LockAuth
