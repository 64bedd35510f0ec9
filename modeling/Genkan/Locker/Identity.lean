import Genkan.Greeter.Accounts
import Genkan.LockAuth.Process

/-! # The identity of the locker

The locker names its user by the real user of the process, as the database knows it, and keeps the name only
if it can be shown on the lock screen and compared with what the worker says.
-/

namespace Genkan.Locker

open Foundations Foundations.Text LockAuth

/-- The two strings of an entry that are read; either pointer may be null. -/
structure Passwd where
  name : Option (List UInt8)
  gecos : Option (List UInt8)

structure Identity where
  uid : UInt32
  username : String
  displayName : String
  deriving DecidableEq, Repr

inductive IdentityError where
  | notFound
  | invalid
  | system (status : Int)
  deriving DecidableEq, Repr

def copyString (value : Option (List UInt8)) : Except IdentityError String :=
  match value.bind fun value => String.fromUTF8? ⟨(value.takeWhile (· ≠ 0)).toArray⟩ with
  | none => .error .invalid
  | some text => .ok text

theorem initialNssBuffer_pos : 0 < initialNssBuffer := by decide

section Names

variable (isFormatControl : Char → Bool)

/-- What stands before the first comma, without what cannot be shown. -/
def displayName (gecos username : String) : String :=
  match Greeter.presentationLabel isFormatControl (gecos.toList.takeWhile (· ≠ ',')) with
  | some label => .ofList label
  | none => username

def resolve (getpwuid : UInt32 → Nat → Lookup Passwd) (uid : UInt32) : Except IdentityError Identity :=
  let answer := settle (getpwuid uid) initialNssBuffer initialNssBuffer_pos
  if answer.status ≠ 0 then .error (.system answer.status)
  else
    match answer.entry with
    | none => .error .notFound
    | some entry =>
      match copyString entry.name with
      | .error error => .error error
      | .ok username =>
        if Greeter.validUsername isFormatControl username then
          let gecos := (copyString entry.gecos).toOption.getD ""
          .ok { uid, username, displayName := displayName isFormatControl gecos username }
        else .error .invalid

end Names

end Genkan.Locker
