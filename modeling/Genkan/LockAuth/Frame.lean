import Genkan.LockAuth.Protocol
import Genkan.Foundations.Bytes
import Genkan.Foundations.ByteStream

/-! # Frames of the authentication channel

A frame is a header of ten bytes and a payload.  `send` yields the bytes it writes, and `receive`
reads from a stream that may be cut anywhere.
-/

namespace Genkan.LockAuth

open Foundations.Bytes Foundations.ByteStream

/-- `GNKA`. -/
def magic : List UInt8 := [71, 78, 75, 65]

def version : UInt8 := 2

def headerBytes : Nat := 10

def maxPayloadBytes : Nat := 16 * 1024

namespace Kind

def ready : UInt8 := 1
def prompt : UInt8 := 2
def info : UInt8 := 3
def error : UInt8 := 4
def success : UInt8 := 5
def failure : UInt8 := 6
def response : UInt8 := 7
def cancel : UInt8 := 8
def retry : UInt8 := 9
def begin : UInt8 := 10

end Kind

/-! ## Encoding -/

def textPayload (text : String) : Except ProtocolError (List UInt8) :=
  if maxMessageBytes < (intoBytes text).length then .error .invalidPayload
  else .ok (intoBytes text)

def pushText (payload : List UInt8) (text : String) (maximum : Nat) :
    Except ProtocolError (List UInt8) :=
  if maximum < (intoBytes text).length then .error .invalidPayload
  else .ok (payload ++ intoBytes text)

def encode : Message → Except ProtocolError (UInt8 × List UInt8)
  | .ready uid username => do
    let payload ← pushText (toBigEndian 4 uid.toNat) username maxMessageBytes
    pure (Kind.ready, payload)
  | .prompt id secret text => do
    let payload ← pushText (toBigEndian 8 id.toNat ++ [secret.toUInt8]) text maxMessageBytes
    pure (Kind.prompt, payload)
  | .info text => do
    let payload ← textPayload text
    pure (Kind.info, payload)
  | .error text => do
    let payload ← textPayload text
    pure (Kind.error, payload)
  | .success => .ok (Kind.success, [])
  | .failure => .ok (Kind.failure, [])
  | .response id value => .ok (Kind.response, toBigEndian 8 id.toNat ++ value.value)
  | .cancel => .ok (Kind.cancel, [])
  | .retry => .ok (Kind.retry, [])
  | .begin => .ok (Kind.begin, [])

def frameBytes (kind : UInt8) (payload : List UInt8) : List UInt8 :=
  magic ++ [version, kind] ++ toBigEndian 4 payload.length ++ payload

/-- The bytes written; `write` is the failure of the stream, if it fails. -/
def send (message : Message) (write : Option String) : Except ProtocolError (List UInt8) := do
  let (kind, payload) ← encode message
  if maxPayloadBytes < payload.length then throw .invalidPayload
  if let some failure := write then throw (.io failure)
  pure (frameBytes kind payload)

/-! ## Decoding -/

def decodeText (payload : List UInt8) (maximum : Nat) : Except ProtocolError String :=
  if maximum < payload.length || payload.contains 0 then .error .invalidPayload
  else match String.fromUTF8? ⟨payload.toArray⟩ with
    | some text => .ok text
    | none => .error .invalidPayload

def decode (kind : UInt8) (payload : List UInt8) : Except ProtocolError Message :=
  if kind = Kind.ready ∧ 4 ≤ payload.length then do
    let username ← decodeText (payload.drop 4) maxMessageBytes
    pure (.ready (UInt32.ofNat (ofBigEndian (payload.take 4))) username)
  else if kind = Kind.prompt ∧ 9 ≤ payload.length ∧ payload.getD 8 0 ≤ 1 then do
    let text ← decodeText (payload.drop 9) maxMessageBytes
    pure (.prompt (UInt64.ofNat (ofBigEndian (payload.take 8))) (payload.getD 8 0 == 1) text)
  else if kind = Kind.info then do
    let text ← decodeText payload maxMessageBytes
    pure (.info text)
  else if kind = Kind.error then do
    let text ← decodeText payload maxMessageBytes
    pure (.error text)
  else if kind = Kind.success ∧ payload = [] then .ok .success
  else if kind = Kind.failure ∧ payload = [] then .ok .failure
  else if kind = Kind.response ∧ 8 ≤ payload.length ∧ payload.length ≤ 8 + maxResponseBytes ∧
      0 ∉ payload.drop 8 then do
    let value ← Secret.new (payload.drop 8)
    pure (.response (UInt64.ofNat (ofBigEndian (payload.take 8))) value)
  else if kind = Kind.cancel ∧ payload = [] then .ok .cancel
  else if kind = Kind.retry ∧ payload = [] then .ok .retry
  else if kind = Kind.begin ∧ payload = [] then .ok .begin
  else .error .invalidPayload

/-! ## Receiving -/

def readExactOrClosed (needed : Nat) (stream : List Piece) :
    Except ProtocolError (List UInt8) × List Piece :=
  match readExact needed stream with
  | (.ok bytes, stream) => (.ok bytes, stream)
  | (.error .ended, stream) => (.error .closed, stream)
  | (.error (.failed message), stream) => (.error (.io message), stream)

def receive (stream : List Piece) : Except ProtocolError Message × List Piece :=
  match readExactOrClosed headerBytes stream with
  | (.error error, stream) => (.error error, stream)
  | (.ok header, stream) =>
    if header.take 4 ≠ magic ∨ header.getD 4 0 ≠ version then (.error .invalidPayload, stream)
    else
      let length := ofBigEndian (header.drop 6)
      if maxPayloadBytes < length then (.error .invalidPayload, stream)
      else
        match readExactOrClosed length stream with
        | (.error error, stream) => (.error error, stream)
        | (.ok payload, stream) => (decode (header.getD 5 0) payload, stream)

/-- The results of successive calls. -/
def receiveAll : Nat → List Piece → List (Except ProtocolError Message)
  | 0, _ => []
  | calls + 1, stream => (receive stream).1 :: receiveAll calls (receive stream).2

end Genkan.LockAuth
