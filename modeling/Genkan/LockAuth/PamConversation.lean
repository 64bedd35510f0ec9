import Genkan.LockAuth.Frame
import Genkan.Foundations.Utf8

/-! # The conversation callback of PAM

`pam_conversation` with everything it reads: the bytes the peer will have written, whether writes and
allocations succeed, and the array of messages, whose pointers may be null.  The connection records
what has been sent and received, and the memory keeps every buffer that was allocated.
-/

namespace Genkan.LockAuth

open Foundations.ByteStream Foundations.Utf8

/-! ## The connection -/

inductive Event where
  | sent (message : Message)
  | received (result : Except ProtocolError Message)

structure Connection where
  incoming : List Piece
  /-- How the coming writes fail, if they do; past the last entry they succeed. -/
  writes : List (Option String)
  log : List Event

namespace Connection

def send (connection : Connection) (message : Message) : Connection × Except ProtocolError Unit :=
  let connection' := { connection with writes := connection.writes.tail }
  match LockAuth.send message (connection.writes.headD none) with
  | .ok _ => ({ connection' with log := connection.log ++ [.sent message] }, .ok ())
  | .error error => (connection', .error error)

def receive (connection : Connection) : Connection × Except ProtocolError Message :=
  let (result, incoming) := LockAuth.receive connection.incoming
  ({ connection with incoming, log := connection.log ++ [.received result] }, result)

end Connection

/-! ## Prompts and notices -/

structure PamConversation where
  connection : Connection
  nextId : UInt64
  cancelled : Bool

namespace PamConversation

def prompt (conversation : PamConversation) (text : String) (secret : Bool) :
    PamConversation × Option Secret :=
  if conversation.nextId > maxMessages then (conversation, none)
  else
    let id := conversation.nextId
    match conversation.connection.send (.prompt id secret text) with
    | (connection, .error _) => ({ conversation with connection, nextId := id + 1 }, none)
    | (connection, .ok ()) =>
      match connection.receive with
      | (connection, .ok (.response responseId value)) =>
        ({ conversation with connection, nextId := id + 1 }, if responseId = id then some value else none)
      | (connection, .ok .cancel) => ({ connection, nextId := id + 1, cancelled := true }, none)
      | (connection, _) => ({ conversation with connection, nextId := id + 1 }, none)

def notice (conversation : PamConversation) (text : String) (error : Bool) : PamConversation :=
  let message := if error then Message.error text else .info text
  { conversation with connection := (conversation.connection.send message).1 }

end PamConversation

/-! ## Messages of PAM -/

/-- The four styles of the PAM headers. -/
inductive MessageStyle where
  | promptEchoOff
  | promptEchoOn
  | errorMsg
  | textInfo
  deriving DecidableEq, Repr

def MessageStyle.ofCode (code : Int) : Option MessageStyle :=
  if code = 1 then some promptEchoOff
  else if code = 2 then some promptEchoOn
  else if code = 3 then some errorMsg
  else if code = 4 then some textInfo
  else none

/-- The limit of the PAM headers on the messages of one call. -/
def pamMaxNumMsg : Int := 32

structure PamMessage where
  msgStyle : Int
  /-- The memory from the text on, unless the pointer is null. -/
  msg : Option (List UInt8)

def strnlen (bytes : List UInt8) (maximum : Nat) : Nat :=
  ((bytes.take maximum).takeWhile (· ≠ 0)).length

/-- The loop that pops characters off the end, over the reversed text. -/
def popWhileLong (maximum : Nat) : List Char → List Char
  | [] => []
  | last :: before =>
    if maximum < (String.ofList (last :: before).reverse).utf8ByteSize then popWhileLong maximum before
    else last :: before

def boundedMessage (message : List UInt8) : Option String :=
  let length := strnlen message (maxMessageBytes + 1)
  if maxMessageBytes < length then none
  else some (.ofList (popWhileLong maxMessageBytes (fromUtf8Lossy (message.take length)).reverse).reverse)

/-! ## Response buffers -/

structure Buffer where
  bytes : List UInt8
  freed : Bool
  deriving DecidableEq

/-- A buffer that was overwritten before it was released. -/
def Buffer.cleared (buffer : Buffer) : Prop := buffer.freed = true ∧ ∀ byte ∈ buffer.bytes, byte = 0

structure Memory where
  /-- Every buffer that was ever allocated; a pointer is an index. -/
  buffers : List Buffer
  /-- Whether the coming allocations succeed; past the last entry they do. -/
  allocations : List Bool

namespace Memory

def allocate (memory : Memory) : Memory × Bool :=
  ({ memory with allocations := memory.allocations.tail }, memory.allocations.headD true)

/-- `malloc`, the copy into the new buffer and the NUL behind it. -/
def store (memory : Memory) (value : List UInt8) : Memory × Option Nat :=
  let (memory, allocated) := memory.allocate
  if allocated then
    ({ memory with buffers := memory.buffers ++ [{ bytes := value ++ [0], freed := false }] },
      some memory.buffers.length)
  else (memory, none)

def strlen (buffer : Buffer) : Nat := (buffer.bytes.takeWhile (· ≠ 0)).length

def zeroizeAndFree (buffer : Buffer) : Buffer where
  bytes := .replicate (strlen buffer) 0 ++ buffer.bytes.drop (strlen buffer)
  freed := true

def clear (memory : Memory) (pointer : Nat) : Memory :=
  { memory with buffers := memory.buffers.modify pointer zeroizeAndFree }

end Memory

structure PamResponse where
  resp : Option Nat
  respRetcode : Int
  deriving DecidableEq

/-- A slot of the array as `calloc` leaves it. -/
def PamResponse.zeroed : PamResponse where
  resp := none
  respRetcode := 0

def clearResponses : List PamResponse → Memory → Memory
  | [], memory => memory
  | response :: responses, memory =>
    match response.resp with
    | none => clearResponses responses memory
    | some pointer => clearResponses responses (memory.clear pointer)

/-! ## The callback -/

inductive PamStatus where
  | success
  | convErr
  deriving DecidableEq, Repr

/-- What an iteration over the messages works on. -/
structure Callback where
  conversation : PamConversation
  memory : Memory
  pending : List PamResponse

namespace Callback

/-- The branch of the two prompt styles. -/
def ask (callback : Callback) (index : Nat) (text : String) (secret : Bool) : Callback × Bool :=
  match callback.conversation.prompt text secret with
  | (conversation, none) => ({ callback with conversation }, false)
  | (conversation, some value) =>
    match callback.memory.store value.value with
    | (memory, none) => ({ callback with conversation, memory }, false)
    | (memory, some pointer) =>
      ({ conversation, memory, pending := callback.pending.set index ⟨some pointer, 0⟩ }, true)

/-- One pass of the loop; `false` returns `PAM_CONV_ERR`. -/
def serve (callback : Callback) (index : Nat) (message : Option PamMessage) : Callback × Bool :=
  match message with
  | none => (callback, false)
  | some message =>
    match message.msg with
    | none => (callback, false)
    | some msg =>
      match boundedMessage msg with
      | none => (callback, false)
      | some text =>
        match MessageStyle.ofCode message.msgStyle with
        | some .promptEchoOn => callback.ask index text false
        | some .promptEchoOff => callback.ask index text true
        | some .textInfo =>
          ({ callback with conversation := callback.conversation.notice text false }, true)
        | some .errorMsg =>
          ({ callback with conversation := callback.conversation.notice text true }, true)
        | none => (callback, false)

def serveAll (callback : Callback) : Nat → List (Option PamMessage) → Callback × Bool
  | _, [] => (callback, true)
  | index, message :: messages =>
    match callback.serve index message with
    | (callback, true) => callback.serveAll (index + 1) messages
    | (callback, false) => (callback, false)

end Callback

/-- The arguments that `pam_authenticate` passes; `none` and `false` are null pointers. -/
structure Arguments where
  count : Int
  messages : Option (List (Option PamMessage))
  responses : Bool
  data : Bool

structure Returned where
  conversation : PamConversation
  memory : Memory
  /-- The array behind the response pointer, unless the pointer is null. -/
  responses : Option (List PamResponse)
  status : PamStatus

/-- The array is handed to PAM, or cleared when its guard is dropped. -/
def Callback.conclude : Callback × Bool → Returned
  | (callback, true) =>
    { callback with responses := some callback.pending, status := .success }
  | (callback, false) =>
    { callback with
      memory := clearResponses callback.pending callback.memory
      responses := none
      status := .convErr }

/-- `pam_conversation`, which nulls the response pointer, and `pam_conversation_inner`. -/
def pamConversation (arguments : Arguments) (conversation : PamConversation) (memory : Memory) : Returned :=
  let failed := { conversation, memory, responses := none, status := .convErr }
  match arguments.messages with
  | none => failed
  | some messages =>
    if arguments.count ≤ 0 ∨ arguments.count > pamMaxNumMsg ∨ arguments.responses = false ∨
        arguments.data = false then failed
    else
      let count := arguments.count.toNat
      match memory.allocate with
      | (memory, false) => { failed with memory }
      | (memory, true) =>
        Callback.conclude
          (Callback.serveAll { conversation, memory, pending := .replicate count .zeroed } 0
            (messages.take count))

end Genkan.LockAuth
