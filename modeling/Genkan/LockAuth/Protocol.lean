import Mathlib.Data.List.Basic

/-! # The messages between the lock screen and its authentication worker -/

namespace Genkan.LockAuth

def maxResponseBytes : Nat := 8 * 1024

def maxMessageBytes : Nat := 4 * 1024

def maxMessages : UInt64 := 128

inductive ProtocolError where
  | io (message : String)
  | invalidPayload
  | closed
  deriving DecidableEq, Repr

/-- A response as `Secret::new` lets it be built. -/
structure Secret where
  value : List UInt8
  bounded : value.length ≤ maxResponseBytes
  plain : 0 ∉ value
  deriving DecidableEq

/-- `String::into_bytes`. -/
def intoBytes (text : String) : List UInt8 := text.toUTF8.data.toList

def Secret.new (value : List UInt8) : Except ProtocolError Secret :=
  if safe : value.length ≤ maxResponseBytes ∧ 0 ∉ value then
    .ok { value, bounded := safe.1, plain := safe.2 }
  else .error .invalidPayload

theorem Secret.new_value {value : List UInt8} {secret : Secret} (accepted : new value = .ok secret) :
    secret.value = value := by
  simp only [new] at accepted
  split at accepted
  next =>
    cases accepted
    rfl
  next => contradiction

inductive Message where
  | ready (uid : UInt32) (username : String)
  | prompt (id : UInt64) (secret : Bool) (text : String)
  | info (text : String)
  | error (text : String)
  | success
  | failure
  | response (id : UInt64) (value : Secret)
  | cancel
  | retry
  | begin
  deriving DecidableEq

end Genkan.LockAuth
