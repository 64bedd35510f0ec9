/-! # The lifecycle of a session lock

`State` is the state machine of the session-lock crate: it decides, from what the compositor and
the runtime report, when readiness may be announced and when the lock may be given up.
-/

namespace Genkan.SessionLock

structure Identity where
  uid : UInt32
  username : String
  displayName : String
  deriving DecidableEq, Repr

inductive Lifecycle where
  | requesting
  | locked
  | denied
  | aborted
  | unlocking
  deriving DecidableEq, Repr

inductive Event where
  | lockConfirmed
  | lockFinished
  | runtimeFailed
  | presentationFailed
  deriving DecidableEq, Repr

inductive Action where
  | none
  | reportReady
  | abort
  | unlockAndSynchronize
  deriving DecidableEq, Repr

inductive Error where
  | connect (message : String)
  | missingProtocol (message : String)
  | runtime (message : String)
  | lockFinished
  deriving DecidableEq, Repr

structure State where
  identity : Identity
  lifecycle : Lifecycle
  presentationFailed : Bool
  deriving DecidableEq, Repr

namespace State

def new (identity : Identity) : State where
  identity := identity
  lifecycle := .requesting
  presentationFailed := false

def update (state : State) (event : Event) : State × Action :=
  match event with
  | .lockConfirmed =>
    if state.lifecycle = .requesting then ({ state with lifecycle := .locked }, .reportReady)
    else (state, .none)
  | .lockFinished =>
    if state.lifecycle = .requesting then ({ state with lifecycle := .denied }, .abort)
    else ({ state with lifecycle := .aborted }, .abort)
  | .runtimeFailed => ({ state with lifecycle := .aborted }, .abort)
  | .presentationFailed => ({ state with presentationFailed := true }, .none)

def authorizeUnlock (state : State) : State × Action :=
  if state.lifecycle ≠ .locked then (state, .none)
  else ({ state with lifecycle := .unlocking }, .unlockAndSynchronize)

/-! ## What one update can do -/

theorem update_lockConfirmed (state : State) :
    (state.lifecycle = .requesting ∧
      state.update .lockConfirmed = ({ state with lifecycle := .locked }, .reportReady)) ∨
    (state.lifecycle ≠ .requesting ∧ state.update .lockConfirmed = (state, .none)) := by
  by_cases requesting : state.lifecycle = .requesting
  · exact .inl ⟨requesting, by simp [update, requesting]⟩
  · exact .inr ⟨requesting, by simp [update, requesting]⟩

@[simp] theorem update_lockFinished_action (state : State) :
    (state.update .lockFinished).2 = .abort := by
  simp only [update]
  split <;> rfl

@[simp] theorem update_runtimeFailed (state : State) :
    state.update .runtimeFailed = ({ state with lifecycle := .aborted }, .abort) := rfl

@[simp] theorem update_presentationFailed (state : State) :
    state.update .presentationFailed = ({ state with presentationFailed := true }, .none) := rfl

theorem authorizeUnlock_cases (state : State) :
    (state.lifecycle = .locked ∧
      state.authorizeUnlock = ({ state with lifecycle := .unlocking }, .unlockAndSynchronize)) ∨
    (state.lifecycle ≠ .locked ∧ state.authorizeUnlock = (state, .none)) := by
  by_cases locked : state.lifecycle = .locked
  · exact .inl ⟨locked, by simp [authorizeUnlock, locked]⟩
  · exact .inr ⟨locked, by simp [authorizeUnlock, locked]⟩

end State

def lockConfirmationAction (state : State) (blocked : Bool) : State × Action :=
  if blocked then (state, .none) else state.update .lockConfirmed

theorem lockConfirmationAction_cases (state : State) (blocked : Bool) :
    ((blocked = false ∧ state.lifecycle = .requesting) ∧
      lockConfirmationAction state blocked = ({ state with lifecycle := .locked }, .reportReady)) ∨
    (¬ (blocked = false ∧ state.lifecycle = .requesting) ∧
      lockConfirmationAction state blocked = (state, .none)) := by
  cases blocked with
  | true => exact .inr ⟨by simp, rfl⟩
  | false =>
    rcases state.update_lockConfirmed with ⟨requesting, updated⟩ | ⟨requesting, updated⟩
    · exact .inl ⟨⟨rfl, requesting⟩, updated⟩
    · exact .inr ⟨by simp [requesting], updated⟩

end Genkan.SessionLock
