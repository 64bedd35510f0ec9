import Genkan.Greeter.PowerMoves
import Genkan.Greeter.StartSession

/-! # The greeter is never stuck

Whenever the greeter waits for something, the task that ends the wait is in flight, and its answer gets
through: neither the gates nor a change of phase swallow it.  Otherwise it is the user's turn, and there is
something that the user can do.
-/

namespace Genkan.Greeter

open Foundations App

/-! ## Leaving a user -/

namespace App

variable {app : App}

@[simp] theorem setFocus_accounts (target : Target) : (app.setFocus target).accounts = app.accounts :=
  congrArg Core.accounts (app.setFocus_core target)

@[simp] theorem focusFirst_accounts : app.focusFirst.accounts = app.accounts :=
  congrArg Core.accounts app.focusFirst_core

@[simp] theorem focusFirst_closing : app.focusFirst.closing = app.closing :=
  congrArg Core.closing app.focusFirst_core

theorem phase_of_core {next : App} (same : next.core = app.core) : next.phase = app.phase :=
  congrArg Core.phase same

theorem selectAccount_phase (account : Account) : (app.selectAccount account).1.phase = .creatingSession := by
  simp only [selectAccount]
  split <;> rfl

theorem fail_phase (message : String) : (app.fail message).1.phase = .failed := by
  simp [fail]

theorem retry_phase : app.retry.1.phase = app.phase ∨ app.retry.1.phase = .discoveringUsers ∨
    app.retry.1.phase = .creatingSession := by
  simp only [retry]
  split
  next =>
    split
    next => exact .inr (.inl rfl)
    next => exact .inr (.inr rfl)
  next => exact .inl rfl

theorem retrySession_phase (discovered : List Session) :
    (app.retrySession discovered).1.phase = app.phase ∨
      (app.retrySession discovered).1.phase = .discoveringUsers ∨
      (app.retrySession discovered).1.phase = .creatingSession := by
  simp only [retrySession]
  split
  next =>
    split
    next => exact .inl rfl
    next =>
      split
      next => exact .inr (.inl rfl)
      next => exact .inr (.inr rfl)
  next => exact .inl rfl

theorem submit_phase : app.submit.1.phase = app.phase ∨ app.submit.1.phase = .failed ∨
    app.submit.1.phase = .authenticating := by
  simp only [submit]
  split
  next =>
    split
    next => exact .inr (.inl (fail_phase _))
    next =>
      split
      next => exact .inl rfl
      next => exact .inr (.inr rfl)
  next => exact .inl rfl

theorem accountsResult_phase (result : Except String (List Account)) :
    (app.accountsResult result).1.phase = .failed ∨ (app.accountsResult result).1.phase = .creatingSession ∨
      (app.accountsResult result).1.phase = .selectingUser ∧ (app.accountsResult result).1.accounts ≠ [] := by
  cases result with
  | error error => exact .inl (fail_phase error)
  | ok accounts =>
    simp only [accountsResult]
    split
    next => exact .inl (fail_phase _)
    next someone =>
      split
      next account _ => exact .inr (.inl (selectAccount_phase account))
      next =>
        refine .inr (.inr ⟨by simp, ?_⟩)
        simpa using someone

theorem userSelectionCancelled_phase (attempt : Attempt) (result : Except String Unit) :
    (app.userSelectionCancelled attempt result).1.phase = app.phase ∨
      (app.userSelectionCancelled attempt result).1.phase = .selectingUser ∨
      (app.userSelectionCancelled attempt result).1.phase = .userSelectionCancellationFailed := by
  simp only [userSelectionCancelled]
  split
  next =>
    split
    next => exact .inl rfl
    next =>
      split
      next =>
        cases result with
        | ok => exact .inr (.inl (by simp))
        | error => exact .inr (.inr (by simp))
      next => exact .inl rfl
  next => exact .inl rfl

end App

theorem Answer.phase {core next : Core} {response : Auth.Response} {actions : List Action}
    (answer : Answer core response next actions) : next.phase = core.phase ∨ next.phase = .waitingForInput ∨
      next.phase = .startingSession ∨ next.phase = .failed := by
  cases answer with
  | prompts => exact .inr (.inl rfl)
  | acknowledges | exits => exact .inl rfl
  | starts => exact .inr (.inr (.inl rfl))
  | fails => exact .inr (.inr (.inr rfl))

namespace App

variable {app : App}

theorem handleAuthResult_phase (attempt : Attempt) (result : Except String (Option Client × Auth.Response)) :
    (app.handleAuthResult attempt result).1.phase = app.phase ∨
      (app.handleAuthResult attempt result).1.phase = .waitingForInput ∨
      (app.handleAuthResult attempt result).1.phase = .startingSession ∨
      (app.handleAuthResult attempt result).1.phase = .failed := by
  simp only [handleAuthResult]
  split
  next => exact .inl rfl
  next =>
    split
    next => exact .inl rfl
    next =>
      cases result with
      | error error => exact .inr (.inr (.inr (fail_phase error)))
      | ok answer => exact (handleAuthResponse_answers { app with client := answer.1.or app.client } answer.2).phase

theorem closeRequested_phase (window : Nat) : (app.closeRequested window).1.phase = app.phase := by
  simp only [closeRequested]
  repeat' split
  all_goals rfl

theorem sessionCancelled_phase (window : Nat) : (app.sessionCancelled window).1.phase = app.phase := by
  simp only [sessionCancelled]
  split <;> rfl

theorem closeTimeout_phase (window : Nat) : (app.closeTimeout window).1.phase = app.phase := by
  simp only [closeTimeout]
  split <;> rfl

theorem askPower_phase (action : PowerAction) : (app.askPower action).1.phase = app.phase := by
  simp only [askPower]
  split
  next => exact enterPowerDialog_phase _
  next => rfl

theorem cancelPower_phase : app.cancelPower.1.phase = app.phase := by
  simp only [cancelPower]
  split
  next => exact leavePowerDialog_phase _
  next => rfl

theorem confirmPower_phase (action : PowerAction) : (app.confirmPower action).1.phase = app.phase := by
  simp only [confirmPower]
  split <;> rfl

theorem powerResult_phase (result : Except String Unit) : (app.powerResult result).1.phase = app.phase := by
  cases result with
  | ok =>
    simp only [powerResult]
    split
    next => exact leavePowerDialog_phase _
    next => rfl
  | error error => exact leavePowerDialog_phase _

theorem userSelectionCancellationSlow_phase (attempt : Attempt) :
    (app.userSelectionCancellationSlow attempt).1.phase = app.phase := by
  simp only [userSelectionCancellationSlow]
  split <;> rfl

/-- Only who has other users to choose from leaves one. -/
def Leaves (app : App) : Prop :=
  app.phase = .cancellingForUserSelection ∨ app.phase = .userSelectionCancellationFailed ∨
    app.canChangeUser = true

theorem handle_leaves {message : Message} {discovered : List Session}
    (leaving : (app.handle discovered message).1.phase = .cancellingForUserSelection) : app.Leaves := by
  cases message with
  | changeUser =>
    simp only [handle] at leaving
    split at leaving
    next allowed => exact .inr (.inr allowed)
    next => exact .inl leaving
  | retryUserSelectionCancellation =>
    simp only [handle, retryUserSelectionCancellation] at leaving
    split at leaving
    next failed => exact .inr (.inl failed)
    next => exact .inl leaving
  | inputChanged value =>
    simp only [handle] at leaving
    split at leaving <;> exact .inl leaving
  | submit => rcases app.submit_phase with same | other | other <;> simp_all [handle, Leaves]
  | retry => rcases app.retry_phase with same | other | other <;> simp_all [handle, Leaves]
  | retrySession => rcases app.retrySession_phase discovered with same | other | other <;> simp_all [handle, Leaves]
  | authResult attempt result =>
    rcases app.handleAuthResult_phase attempt result with same | other | other | other <;>
      simp_all [handle, Leaves]
  | accountsResult result =>
    rcases app.accountsResult_phase result with other | other | ⟨other, _⟩ <;> simp_all [handle]
  | userSelectionCancelled attempt result =>
    rcases app.userSelectionCancelled_phase attempt result with same | other | other <;>
      simp_all [handle, Leaves]
  | selectAccount account =>
    simp only [handle] at leaving
    split at leaving
    next => simp [selectAccount_phase] at leaving
    next => exact .inl leaving
  | userSelectionCancellationSlow attempt =>
    exact .inl (app.userSelectionCancellationSlow_phase attempt ▸ leaving)
  | syncWidgetFocus => exact .inl (phase_of_core app.syncWidgetFocus_core ▸ leaving)
  | widgetFocused input => exact .inl (phase_of_core (app.applyWidgetFocus_core input) ▸ leaving)
  | selectSession session | sessionMenuOpened =>
    simp only [handle] at leaving
    split at leaving
    next =>
      simp only [setFocus_phase] at leaving
      exact .inl leaving
    next => exact .inl leaving
  | askPower action => exact .inl (app.askPower_phase action ▸ leaving)
  | cancelPower => exact .inl (app.cancelPower_phase ▸ leaving)
  | confirmPower action => exact .inl (app.confirmPower_phase action ▸ leaving)
  | powerResult result => exact .inl (app.powerResult_phase result ▸ leaving)
  | closeRequested window => exact .inl (app.closeRequested_phase window ▸ leaving)
  | sessionCancelled window => exact .inl (app.sessionCancelled_phase window ▸ leaving)
  | closeTimeout window => exact .inl (app.closeTimeout_phase window ▸ leaving)
  | tick | wallpaperFrameReady | wallpaperAllocated | rendererInformation | navigatePage | windowResized
  | sessionMenuClosed | outputLayoutChanged => exact .inl leaving

theorem send_leaves {message : Message} {discovered : List Session}
    (leaving : (app.send discovered message).1.phase = .cancellingForUserSelection) : app.Leaves := by
  simp only [send] at leaving
  split at leaving
  next => exact handle_leaves leaving
  next => exact .inl leaving

theorem navigateFocus_leaves {navigation : Navigation} {discovered : List Session}
    (leaving : (app.navigateFocus discovered navigation).1.phase = .cancellingForUserSelection) : app.Leaves := by
  have directional (delta : Int) : (app.moveDirectional delta).phase = app.phase := by
    rcases app.moveDirectional_core delta with same | ⟨_, selected, selects⟩
    · exact phase_of_core same
    · exact congrArg Core.phase selects
  cases navigation with
  | next => exact .inl (phase_of_core (app.moveFocus_core 1) ▸ leaving)
  | previous => exact .inl (phase_of_core (app.moveFocus_core (-1)) ▸ leaving)
  | directionNext => exact .inl (directional 1 ▸ leaving)
  | directionPrevious => exact .inl (directional (-1) ▸ leaving)
  | activate =>
    simp only [navigateFocus] at leaving
    split at leaving
    next => exact send_leaves leaving
    next =>
      obtain ⟨selected, selects⟩ := app.cycleSession_core 1
      exact .inl ((congrArg Core.phase selects).symm.trans leaving)
    next => exact .inl leaving

theorem update_leaves {discovered : List Session} {input : Input}
    (leaving : (app.update discovered input).1.phase = .cancellingForUserSelection) : app.Leaves := by
  simp only [update] at leaving
  split at leaving
  next => exact .inl leaving
  next =>
    cases input with
    | message message => exact handle_leaves leaving
    | navigateFocus navigation =>
      have left := navigateFocus_leaves leaving
      exact left
    | navigateModal navigation =>
      simp only at leaving
      split at leaving
      next => exact navigateFocus_leaves leaving
      next => exact .inl leaving
    | escape =>
      simp only at leaving
      split at leaving
      next => exact send_leaves leaving
      next =>
        split at leaving
        next => exact .inl leaving
        next =>
          split at leaving
          next => exact .inl (phase_of_core app.blurInput_core ▸ leaving)
          next => exact .inl leaving

/-! ## Answers that are waited for -/

theorem allows_unclosed {message : Message} (unclosed : app.closing = none) :
    app.allows (.message message) = app.powerAllows (.message message) := by
  simp [allows, closingAllows, unclosed]

theorem handleAuthResult_unclosed (unclosed : app.closing = none)
    (result : Except String (Option Client × Auth.Response)) :
    app.handleAuthResult app.conversation.attempt result =
      match result with
      | .ok (client, response) => { app with client := client.or app.client }.handleAuthResponse response
      | .error error => app.fail error := by
  have accepts : app.conversation.accepts app.conversation.attempt = true := accepts_iff.mpr rfl
  simp only [handleAuthResult, accepts, Bool.not_true, Bool.false_eq_true, if_false]
  split
  next waits => simp [unclosed] at waits
  next => rfl

theorem update_authResult (unclosed : app.closing = none) (discovered : List Session)
    (result : Except String (Option Client × Auth.Response)) :
    app.update discovered (.message (.authResult app.conversation.attempt result)) =
      match result with
      | .ok (client, response) => { app with client := client.or app.client }.handleAuthResponse response
      | .error error => app.fail error := by
  have passes : app.powerAllows (.message (.authResult app.conversation.attempt result)) = true := by
    cases isPower : app.powerState <;> simp [powerAllows, isPower]
  simp only [update, allows_unclosed unclosed, passes, handle, handleAuthResult_unclosed unclosed,
    Bool.not_true, Bool.false_eq_true, if_false]

/-- An answer of greetd to the attempt that counts is followed by another exchange, by the end of the
greeter, or by a phase that waits for no answer. -/
theorem authResult_progresses (unclosed : app.closing = none) (discovered : List Session)
    (result : Except String (Option Client × Auth.Response)) {next : App} {actions : List Action}
    (updates : app.update discovered (.message (.authResult app.conversation.attempt result)) = (next, actions))
    (active : next.phase.isActive = true) :
    (∃ task : Task, .perform task ∈ actions ∧ task.kind = .authentication) ∨ .exit ∈ actions := by
  rw [update_authResult unclosed] at updates
  cases result with
  | error error =>
    have failed : next.phase = .failed :=
      (congrArg (fun result => result.1.phase) updates).symm.trans (fail_phase error)
    rw [failed] at active
    contradiction
  | ok answer =>
    have answers := handleAuthResponse_answers { app with client := answer.1.or app.client } answer.2
    simp only [updates] at answers
    have isActive : next.core.phase.isActive = true := active
    generalize next.core = core at answers isActive
    cases answers with
    | prompts | fails => contradiction
    | acknowledges | starts => exact .inl ⟨_, List.mem_singleton.mpr rfl, rfl⟩
    | exits => exact .inr (List.mem_singleton.mpr rfl)

theorem userSelectionCancelled_progresses (unclosed : app.closing = none) (idle : app.powerState = .idle)
    (waits : app.phase = .cancellingForUserSelection) (discovered : List Session) (result : Except String Unit) :
    (app.update discovered (.message (.userSelectionCancelled app.conversation.attempt result))).1.phase ≠
      .cancellingForUserSelection := by
  have passes :
      app.powerAllows (.message (.userSelectionCancelled app.conversation.attempt result)) = true := by
    simp [powerAllows, idle]
  have accepts : app.conversation.accepts app.conversation.attempt = true := accepts_iff.mpr rfl
  simp only [update, allows_unclosed unclosed, passes, handle, userSelectionCancelled, accepts, unclosed, waits,
    Bool.not_true, Bool.false_eq_true, if_false, if_true]
  cases result <;> simp

theorem accountsResult_progresses (unclosed : app.closing = none) (discovered : List Session)
    (result : Except String (List Account)) :
    (app.update discovered (.message (.accountsResult result))).1.phase ≠ .discoveringUsers := by
  have passes : app.powerAllows (.message (.accountsResult result)) = true := by
    cases isPower : app.powerState <;> simp [powerAllows, isPower]
  simp only [update, allows_unclosed unclosed, passes, handle, Bool.not_true, Bool.false_eq_true, if_false]
  rcases app.accountsResult_phase result with isPhase | isPhase | ⟨isPhase, _⟩ <;> simp [isPhase]

theorem powerResult_progresses (unclosed : app.closing = none) (executing : app.powerState = .executing .suspend)
    (discovered : List Session) (result : Except String Unit) :
    (app.update discovered (.message (.powerResult result))).1.powerState = .idle := by
  have passes : app.powerAllows (.message (.powerResult result)) = true := by simp [powerAllows, executing]
  simp only [update, allows_unclosed unclosed, passes, handle, Bool.not_true, Bool.false_eq_true, if_false]
  cases result with
  | ok =>
    simp only [powerResult, executing, if_true]
    exact leavePowerDialog_power _
  | error error => exact leavePowerDialog_power _

theorem closeTimeout_progresses {closing : Closing} {window : Nat} (isClosing : app.closing = some closing)
    (cleaning : closing.isCleaning window = true) (discovered : List Session) :
    (app.update discovered (.message (.closeTimeout window))).1.closing = some (.dispatching window) := by
  have passes : app.allows (.message (.closeTimeout window)) = true := by
    have power : app.powerAllows (.message (.closeTimeout window)) = true := by
      cases isPower : app.powerState <;> simp [powerAllows, isPower]
    cases closing with
    | dispatching => contradiction
    | _ => simp [allows, power, closingAllows, isClosing]
  simp [update, passes, handle, closeTimeout, isClosing, cleaning]

/-! ## While the power dialog is open -/

/-- The dialog lets through what greetd and the window tell, and what concerns itself. -/
theorem handle_busy {message : Message} {discovered : List Session} (busy : app.powerState ≠ .idle)
    (allowed : app.powerAllows (.message message) = true)
    (outside : (Input.message message).isOutside = true) :
    (app.handle discovered message).1.phase = app.phase := by
  have gate : app.powerAllows (.message message) = true := allowed
  cases message with
  | tick | wallpaperFrameReady | wallpaperAllocated | rendererInformation | outputLayoutChanged => rfl
  | closeRequested window => exact app.closeRequested_phase window
  | cancelPower => exact app.cancelPower_phase
  | confirmPower action => exact app.confirmPower_phase action
  | authResult | accountsResult | userSelectionCancelled | userSelectionCancellationSlow | powerResult
  | sessionCancelled | closeTimeout => contradiction
  | _ => cases isPower : app.powerState <;> simp [powerAllows, isPower] at busy gate

theorem send_busy {message : Message} {discovered : List Session} (busy : app.powerState ≠ .idle)
    (outside : (Input.message message).isOutside = true) :
    (app.send discovered message).1.phase = app.phase := by
  simp only [send]
  split
  next allowed =>
    simp only [allows, Bool.and_eq_true] at allowed
    exact handle_busy busy allowed.2 outside
  next => rfl

theorem navigateFocus_busy {navigation : Navigation} {discovered : List Session}
    (busy : app.powerState ≠ .idle) : (app.navigateFocus discovered navigation).1.phase = app.phase := by
  have directional (delta : Int) : (app.moveDirectional delta).phase = app.phase := by
    rcases app.moveDirectional_core delta with same | ⟨_, selected, selects⟩
    · exact phase_of_core same
    · exact congrArg Core.phase selects
  cases navigation with
  | next => exact phase_of_core (app.moveFocus_core 1)
  | previous => exact phase_of_core (app.moveFocus_core (-1))
  | directionNext => exact directional 1
  | directionPrevious => exact directional (-1)
  | activate =>
    simp only [navigateFocus]
    split
    next message activates => exact send_busy busy (activation_outside activates)
    next =>
      obtain ⟨selected, selects⟩ := app.cycleSession_core 1
      exact congrArg Core.phase selects
    next => rfl

/-- The tasks whose answers do not count move no phase. -/
theorem update_other {discovered : List Session} {input : Input} (inside : input.isOutside = false)
    (isOther : input.kind = .other) : (app.update discovered input).1.phase = app.phase := by
  cases input with
  | message message =>
    simp only [update]
    split
    next => rfl
    next =>
      cases message with
      | userSelectionCancellationSlow attempt => exact app.userSelectionCancellationSlow_phase attempt
      | powerResult result => exact app.powerResult_phase result
      | sessionCancelled window => exact app.sessionCancelled_phase window
      | closeTimeout window => exact app.closeTimeout_phase window
      | _ => contradiction
  | navigateFocus | navigateModal | escape => contradiction

/-- While the dialog is open, only an answer moves the phase. -/
theorem update_busy {discovered : List Session} {input : Input} (busy : app.powerState ≠ .idle)
    (outside : input.isOutside = true) : (app.update discovered input).1.phase = app.phase := by
  simp only [update]
  split
  next => rfl
  next passed =>
    have allowed : app.powerAllows input = true := by
      simp only [allows, Bool.not_eq_true', Bool.not_eq_false, Bool.and_eq_true] at passed
      exact passed.2
    cases input with
    | message message => exact handle_busy busy allowed outside
    | navigateFocus navigation => simp [powerAllows, busy] at allowed
    | navigateModal navigation =>
      simp only
      split
      next => exact navigateFocus_busy busy
      next => rfl
    | escape =>
      simp only
      split
      next => exact send_busy busy rfl
      next =>
        split
        next => rfl
        next =>
          split
          next => exact phase_of_core app.blurInput_core
          next => rfl

end App

/-! ## What a move waits for -/

/-- The close goes on as it was, from one stage to the next, or to its end. -/
theorem Move.closing {core next : Core} {input : Input} {actions : List Action}
    (move : Move core input next actions) {closing : Closing} (isClosing : next.closing = some closing) :
    (∃ window, closing = .dispatching window) ∨
    (∃ window, .perform (.closeTimeout window) ∈ actions ∧ closing.isCleaning window = true) ∨
    ∃ before, core.closing = some before ∧ (before = closing ∨
      ∃ window, before = .waitingForClient window ∧ closing = .cancelling window) := by
  cases move with
  | closes | closesSelection | closesSession | expires =>
    cases isClosing
    exact .inl ⟨_, rfl⟩
  | awaitsSelection | awaitsClient =>
    cases isClosing
    exact .inr (.inl ⟨_, List.mem_singleton.mpr rfl, by simp [Closing.isCleaning]⟩)
  | cancels =>
    cases isClosing
    exact .inr (.inl ⟨_, mem_pair.mpr (.inr rfl), by simp [Closing.isCleaning]⟩)
  | abandons waits =>
    cases isClosing
    exact .inr (.inr ⟨_, waits, .inr ⟨_, rfl, rfl⟩⟩)
  | answered unclosed _ answers =>
    have same : next.closing = core.closing := by cases answers <;> rfl
    simp [same, unclosed] at isClosing
  | _ => exact .inr (.inr ⟨closing, isClosing, .inl rfl⟩)

theorem Move.unclosed {core next : Core} {input : Input} {actions : List Action}
    (move : Move core input next actions) (unclosed : next.closing = none) : core.closing = none := by
  cases move with
  | answered unclosed => exact unclosed
  | _ => first | assumption | contradiction

/-- What a move begins to wait for, it sets off. -/
theorem Move.sets_off {core next : Core} {input : Input} {actions : List Action}
    (move : Move core input next actions) (delivered : Delivered core input) (unclosed : next.closing = none)
    {kind : Kind} (counts : kind ≠ .other) (awaited : kind.Awaited next.phase) :
    kind.Awaited core.phase ∨ ∃ task : Task, .perform task ∈ actions ∧ task.kind = kind := by
  cases move with
  | kept | selects => exact .inl awaited
  | closes | awaitsSelection | awaitsClient | cancels | abandons | closesSelection | closesSession | expires =>
    contradiction
  | fails | breaks | lists | deselects | resists => cases kind <;> simp [Kind.Awaited, Phase.isActive] at awaited counts
  | begins _ _ _ _ starts =>
    have isKind : kind = .authentication := by
      cases kind <;> simp [Kind.Awaited] at awaited counts ⊢
    subst isKind
    rcases starts with ⟨_, _, recover, isTask⟩ | ⟨_, _, isTask⟩ <;>
      exact .inr ⟨_, List.mem_singleton.mpr rfl, by rw [isTask]; rfl⟩
  | restarts | submits =>
    have isKind : kind = .authentication := by
      cases kind <;> simp [Kind.Awaited] at awaited counts ⊢
    subst isKind
    exact .inr ⟨_, List.mem_singleton.mpr rfl, rfl⟩
  | discovers =>
    have isKind : kind = .discovery := by
      cases kind <;> simp [Kind.Awaited, Phase.isActive] at awaited counts ⊢
    subst isKind
    exact .inr ⟨_, List.mem_singleton.mpr rfl, rfl⟩
  | changes | retries =>
    have isKind : kind = .selection := by
      cases kind <;> simp [Kind.Awaited, Phase.isActive] at awaited counts ⊢
    subst isKind
    exact .inr ⟨_, mem_pair.mpr (.inl rfl), rfl⟩
  | answered unclosed isInput answers =>
    subst isInput
    have active : core.phase.isActive = true := delivered.awaited unclosed
    left
    cases kind with
    | authentication => exact active
    | other => contradiction
    | selection | discovery =>
      have inactive : next.phase.isActive = false := by
        simp only [Kind.Awaited] at awaited
        simp [awaited, Phase.isActive]
      rcases answers.phase with same | waits | starts | failed
      · simp [same, active] at inactive
      · simp [Kind.Awaited, waits] at awaited
      · simp [Kind.Awaited, starts] at awaited
      · simp [Kind.Awaited, failed] at awaited

/-! ## What the user can act on -/

/-- The phases in which there is, or will be, an account to choose. -/
def Phase.isChoosing : Phase → Bool
  | .cancellingForUserSelection | .selectingUser | .userSelectionCancellationFailed => true
  | _ => false

/-- In these phases an action of power may be asked for: nothing is under way with greetd. -/
def Phase.isRestful : Phase → Bool
  | .waitingForInput | .failed | .selectingUser | .userSelectionCancellationFailed => true
  | _ => false

theorem App.restful_of_canRequestPower {app : App} (allowed : app.canRequestPower = true) :
    app.phase.isRestful = true := by
  simp only [canRequestPower, Bool.and_eq_true] at allowed
  cases isPhase : app.phase <;> simp [isPhase, Phase.isRestful] at allowed ⊢

/-- What the phases promise about the fields that the user needs in them. -/
structure App.Core.Usable (core : Core) : Prop where
  nameless : core.phase = .discoveringUsers ∨ core.phase = .selectingUser → core.username = ""
  choosable : core.phase.isChoosing = true → core.accounts ≠ []
  prompting : core.phase = .waitingForInput → core.conversation.status = .waiting
  connected : core.closing = none → core.phase = .waitingForInput → core.client.isSome = true

/-- While greetd is asked, nothing is asked of the user. -/
theorem usable_of_active {core : Core} (active : core.phase.isActive = true) : core.Usable := by
  constructor <;> intro other <;> cases isPhase : core.phase <;>
    simp_all [Phase.isActive, Phase.isChoosing]

theorem Move.usable {core next : Core} {input : Input} {actions : List Action}
    (move : Move core input next actions) (settled : core.Settled) (delivered : Delivered core input)
    (usable : core.Usable)
    (listed : ∀ result, input = .message (.accountsResult result) → next.phase = .selectingUser →
      next.accounts ≠ [])
    (left : next.phase = .cancellingForUserSelection → core.phase = .cancellingForUserSelection ∨
      core.phase = .userSelectionCancellationFailed ∨ 1 < core.accounts.length)
    (told : core.closing = none → ∀ attempt client response,
      input = .message (.authResult attempt (.ok (client, response))) →
        client.isSome = true ∨ core.client.isSome = true) : next.Usable := by
  obtain ⟨nameless, choosable, prompting, connected⟩ := usable
  cases move with
  | kept status => exact ⟨nameless, choosable, fun waits => status.trans (prompting waits), connected⟩
  | selects => exact ⟨nameless, choosable, prompting, connected⟩
  | fails | breaks => constructor <;> simp [Phase.isChoosing]
  | begins | restarts | submits => exact usable_of_active rfl
  | lists unclosed isInput =>
    subst isInput
    have before : core.phase = .discoveringUsers := delivered.awaited unclosed
    exact ⟨fun _ => nameless (.inl before), fun _ => listed _ rfl rfl, nofun, fun _ => nofun⟩
  | discovers unclosed failed isNameless =>
    exact ⟨fun _ => isNameless, nofun, nofun, fun _ => nofun⟩
  | changes unclosed before =>
    refine ⟨fun _ => rfl, ?_, nofun, fun _ => nofun⟩
    intro _ none
    have none : core.accounts = [] := none
    rcases left rfl with same | failed | others
    · exact choosable (by simp [same, Phase.isChoosing]) none
    · exact choosable (by simp [failed, Phase.isChoosing]) none
    · simp [none] at others
  | deselects unclosed isInput before =>
    exact ⟨fun _ => settled.leaving (.inl before), fun _ => choosable (by simp [before, Phase.isChoosing]),
      nofun, fun _ => nofun⟩
  | resists unclosed isInput before =>
    exact ⟨nofun, fun _ => choosable (by simp [before, Phase.isChoosing]), nofun, fun _ => nofun⟩
  | retries unclosed before =>
    exact ⟨nofun, fun _ => choosable (by simp [before, Phase.isChoosing]), nofun, fun _ => nofun⟩
  | answered unclosed isInput answers =>
    subst isInput
    have active : core.phase.isActive = true := delivered.awaited unclosed
    cases answers with
    | prompts status =>
      refine ⟨nofun, nofun, fun _ => status, ?_⟩
      intro _ _
      rcases told unclosed _ _ _ rfl with isSome | isSome <;> simp [Option.isSome_or, isSome]
    | acknowledges | exits => exact usable_of_active active
    | starts => exact usable_of_active rfl
    | fails => constructor <;> simp [Phase.isChoosing]
  | abandons waits _ status | cancels _ _ status | expires waits _ _ status =>
    exact ⟨nameless, choosable, fun waits => status.trans (prompting waits), nofun⟩
  | closes | awaitsSelection | awaitsClient | closesSelection | closesSession =>
    exact ⟨nameless, choosable, prompting, nofun⟩

/-- A connection stays as long as an exchange over it is under way. -/
theorem Move.exchanges {core next : Core} {input : Input} {actions : List Action}
    (move : Move core input next actions) (delivered : Delivered core input) (unclosed : next.closing = none)
    {client : Client} {request : Auth.Request} {attempt : Attempt}
    (exchange : .perform (.exchange client request attempt) ∈ actions ∨
      (Task.exchange client request attempt).Fits core ∧ input.kind ≠ .authentication ∧
        core.client.isSome = true) : next.client.isSome = true := by
  have active (fits : (Task.exchange client request attempt).Fits core) (open_ : core.closing = none) :
      core.phase.isActive = true := (fits (.inl open_)).2
  cases move with
  | kept _ _ quiet =>
    rcases exchange with member | ⟨_, _, isSome⟩
    · obtain ⟨power, isPower⟩ := quiet _ member
      simp at isPower
    · exact isSome
  | selects | fails | breaks | lists | deselects | resists =>
    rcases exchange with member | ⟨_, _, isSome⟩
    · simp at member
    · exact isSome
  | discovers =>
    rcases exchange with member | ⟨_, _, isSome⟩
    · simp at member
    · exact isSome
  | retries =>
    rcases exchange with member | ⟨_, _, isSome⟩
    · simp [cancelForUserSelection] at member
    · exact isSome
  | begins open_ cause _ _ starts =>
    rcases exchange with member | ⟨fits, _, _⟩
    · rcases starts with ⟨_, _, recover, isTask⟩ | ⟨_, _, isTask⟩ <;> simp [isTask] at member
    · have isActive := active fits open_
      rcases cause with before | ⟨result, isInput⟩
      · simp [before, Phase.isActive] at isActive
      · subst isInput
        have before : core.phase = .discoveringUsers := delivered.awaited open_
        simp [before, Phase.isActive] at isActive
  | restarts open_ failed =>
    rcases exchange with member | ⟨fits, _, _⟩
    · simp at member
    · have isActive := active fits open_
      simp [failed, Phase.isActive] at isActive
  | changes open_ before =>
    rcases exchange with member | ⟨fits, _, _⟩
    · simp [cancelForUserSelection] at member
    · have isActive := active fits open_
      rcases before with before | before <;> simp [before, Phase.isActive] at isActive
  | submits _ _ connected => simp [connected]
  | answered _ isInput answers =>
    rcases exchange with member | ⟨_, unended, _⟩
    · cases answers with
      | prompts | fails | exits => simp at member
      | acknowledges _ _ connected | starts _ _ _ _ _ connected =>
        exact Option.isSome_iff_exists.mpr ⟨_, connected⟩
    · exact absurd (by rw [isInput]; rfl) unended
  | closes | awaitsSelection | awaitsClient | cancels | abandons | closesSelection | closesSession | expires =>
    contradiction

/-! ## Worlds -/

namespace World

/-- What is in flight goes on or ends with the message of the step. -/
theorem Takes.cases_of_mem {world : World} {label : Label} {input : Input} {rest : List Flight}
    (takes : world.Takes label input rest) {flight : Flight} (inFlight : flight ∈ world.flights) :
    flight ∈ rest ∨ ∃ outcome message, flight.message outcome = some message ∧ input = .message message := by
  cases takes with
  | input => exact .inl inFlight
  | @finish index outcome ended message found ends =>
    by_cases same : flight = ended
    · exact .inr ⟨outcome, message, same ▸ ends, rfl⟩
    · exact .inl (Lists.mem_eraseIdx_of_ne found inFlight same)

theorem numbered_of_perform (issued : Nat) {actions : List Action} {task : Task}
    (member : .perform task ∈ actions) : ∃ flight ∈ numbered issued (tasks actions), flight.task = task := by
  have isTask : task ∈ tasks actions := List.mem_filterMap.mpr ⟨_, member, rfl⟩
  rw [← numbered_tasks issued (tasks actions)] at isTask
  exact List.mem_map.mp isTask

/-- Whoever waits for something has it in flight. -/
structure Progressing (world : World) : Prop where
  awaited : world.app.closing = none → ∀ kind : Kind, kind ≠ .other → kind.Awaited world.app.phase →
    ∃ flight ∈ world.flights, flight.task.kind = kind
  cleaning : ∀ closing, world.app.closing = some closing → (∃ window, closing = .dispatching window) ∨
    ∃ flight ∈ world.flights, ∃ window, flight.task = .closeTimeout window ∧ closing.isCleaning window = true
  restful : world.app.closing = none → world.app.powerState ≠ .idle → world.app.phase.isRestful = true
  suspending : world.app.closing = none → world.app.powerState = .executing .suspend →
    ∃ flight ∈ world.flights, flight.task = .executePower .suspend
  usable : world.app.core.Usable
  exchanging : world.app.closing = none → ∀ flight ∈ world.flights, ∀ client request attempt,
    flight.task = .exchange client request attempt → world.app.client.isSome = true

variable {world next : World} {label : Label} {actions : List Action} {input : Input} {rest : List Flight}

/-- A phase that waits and lost its task is left by the message of the task. -/
theorem Progressing.awaited_step (progressing : world.Progressing) (consistent : world.Consistent)
    (takes : world.Takes label input rest) (move : Move world.app.core input next.app.core actions)
    {discovered : List Session} (updates : world.app.update discovered input = (next.app, actions))
    (isFlights : next.flights = rest ++ numbered world.issued (tasks actions)) (goesOn : .exit ∉ actions)
    (unclosed : next.app.closing = none) (kind : Kind) (counts : kind ≠ .other)
    (awaited : kind.Awaited next.app.phase) : ∃ flight ∈ next.flights, flight.task.kind = kind := by
  have open_ : world.app.closing = none := move.unclosed unclosed
  have launched {task : Task} (member : .perform task ∈ actions) (isKind : task.kind = kind) :
      ∃ flight ∈ next.flights, flight.task.kind = kind := by
    obtain ⟨flight, isNew, isTask⟩ := numbered_of_perform world.issued member
    exact ⟨flight, isFlights ▸ List.mem_append_right _ isNew, isTask ▸ isKind⟩
  rcases move.sets_off (consistent.takes takes).1 unclosed counts awaited with before | ⟨task, member, isKind⟩
  · obtain ⟨flight, inFlight, isKind⟩ := progressing.awaited open_ kind counts before
    rcases takes.cases_of_mem inFlight with isOld | ⟨outcome, message, ends, isInput⟩
    · exact ⟨flight, isFlights ▸ List.mem_append_left _ isOld, isKind⟩
    · have fits := consistent.fits flight inFlight
      have ended := kind_of_message ends
      rw [isKind] at ended
      subst isInput
      obtain ⟨serial, task⟩ := flight
      cases message with
      | authResult attempt result =>
        have isAttempt : attempt = world.app.conversation.attempt := by
          cases task <;> cases outcome <;>
            simp only [Flight.message, reduceCtorEq, Option.some.injEq, Message.authResult.injEq] at ends
          · exact ends.1 ▸ fits.2.2.2.2 (.inl open_)
          · exact ends.1 ▸ fits.2.2.2.2 (.inl open_)
          · exact ends.1 ▸ (fits (.inl open_)).1
        subst isAttempt
        cases ended
        rcases authResult_progresses open_ discovered result updates awaited with ⟨task, member, isTask⟩ | exits
        · exact launched member isTask
        · exact absurd exits goesOn
      | userSelectionCancelled attempt result =>
        cases ended
        obtain ⟨client, isTask⟩ := show ∃ client, task = .cancelForUserSelection client attempt by
          cases task <;> cases outcome <;>
            simp only [Flight.message, reduceCtorEq, Option.some.injEq,
              Message.userSelectionCancelled.injEq] at ends
          exact ⟨_, by rw [ends.1]⟩
        subst isTask
        obtain ⟨isAttempt, waits⟩ := fits (.inl open_)
        have isAttempt : attempt = world.app.conversation.attempt := isAttempt
        subst isAttempt
        have idle : world.app.powerState = .idle := by
          by_contra busy
          have restful := progressing.restful open_ busy
          have waits : world.app.phase = .cancellingForUserSelection := waits
          simp [waits, Phase.isRestful] at restful
        have left := userSelectionCancelled_progresses open_ idle waits discovered result
        rw [updates] at left
        exact absurd awaited left
      | accountsResult result =>
        cases ended
        have left := accountsResult_progresses open_ discovered result
        rw [updates] at left
        exact absurd awaited left
      | _ => exact absurd ended.symm counts
  · exact launched member isKind

theorem Progressing.cleaning_step (progressing : world.Progressing) (takes : world.Takes label input rest)
    (move : Move world.app.core input next.app.core actions) {discovered : List Session}
    (updates : world.app.update discovered input = (next.app, actions))
    (isFlights : next.flights = rest ++ numbered world.issued (tasks actions)) (closing : Closing)
    (isClosing : next.app.closing = some closing) : (∃ window, closing = .dispatching window) ∨
      ∃ flight ∈ next.flights, ∃ window, flight.task = .closeTimeout window ∧ closing.isCleaning window = true := by
  rcases move.closing isClosing with dispatching | ⟨window, member, cleaning⟩ | ⟨before, isBefore, goesOn⟩
  · exact .inl dispatching
  · obtain ⟨flight, isNew, isTask⟩ := numbered_of_perform world.issued member
    exact .inr ⟨flight, isFlights ▸ List.mem_append_right _ isNew, window, isTask, cleaning⟩
  · rcases progressing.cleaning before isBefore with
      ⟨window, dispatching⟩ | ⟨flight, inFlight, window, isTask, cleaning⟩
    · rcases goesOn with same | ⟨other, waits, _⟩
      · exact .inl ⟨window, same ▸ dispatching⟩
      · exact absurd (waits.symm.trans dispatching) nofun
    · rcases takes.cases_of_mem inFlight with isOld | ⟨outcome, message, ends, isInput⟩
      · refine .inr ⟨flight, isFlights ▸ List.mem_append_left _ isOld, window, isTask, ?_⟩
        rcases goesOn with same | ⟨other, waits, cancels⟩
        · exact same ▸ cleaning
        · subst waits cancels
          exact cleaning
      · obtain ⟨serial, task⟩ := flight
        have isTask : task = .closeTimeout window := isTask
        subst isTask isInput
        cases outcome <;> simp only [Flight.message, reduceCtorEq, Option.some.injEq] at ends
        subst ends
        have dispatched := closeTimeout_progresses isBefore cleaning discovered
        rw [updates] at dispatched
        exact .inl ⟨window, Option.some.inj (isClosing.symm.trans dispatched)⟩

theorem Progressing.restful_step (progressing : world.Progressing) (consistent : world.Consistent)
    (takes : world.Takes label input rest) (move : Move world.app.core input next.app.core actions)
    {discovered : List Session} (updates : world.app.update discovered input = (next.app, actions))
    (unclosed : next.app.closing = none) (busy : next.app.powerState ≠ .idle) :
    next.app.phase.isRestful = true := by
  have open_ : world.app.closing = none := move.unclosed unclosed
  have power := update_power world.app discovered input
  rw [updates] at power
  cases power with
  | quiet quiet =>
    have busyBefore : world.app.powerState ≠ .idle := quiet.power ▸ busy
    have restful := progressing.restful open_ busyBefore
    have same : next.app.phase = world.app.phase := by
      cases outside : input.isOutside with
      | true => exact (congrArg (·.1.phase) updates).symm.trans (update_busy busyBefore outside)
      | false =>
        have idle : input.kind = .other := by
          by_contra counts
          have awaited := (consistent.takes takes).1.awaited open_
          have resting : world.app.core.phase.isRestful = true := restful
          cases isKind : input.kind <;> simp only [isKind, Kind.Awaited] at awaited counts
          · cases isPhase : world.app.core.phase <;>
              simp [isPhase, Phase.isActive, Phase.isRestful] at awaited resting
          · simp [awaited, Phase.isRestful] at resting
          · simp [awaited, Phase.isRestful] at resting
          · contradiction
        exact (congrArg (·.1.phase) updates).symm.trans (update_other outside idle)
    exact same ▸ restful
  | opens _ allowed _ phase => exact phase ▸ restful_of_canRequestPower allowed
  | leaves power => exact absurd power busy
  | confirms _ before _ phase =>
    exact phase ▸ progressing.restful open_ (by simp [before])

theorem Progressing.suspending_step (progressing : world.Progressing) (takes : world.Takes label input rest)
    (move : Move world.app.core input next.app.core actions) {discovered : List Session}
    (updates : world.app.update discovered input = (next.app, actions))
    (isFlights : next.flights = rest ++ numbered world.issued (tasks actions))
    (unclosed : next.app.closing = none) (executing : next.app.powerState = .executing .suspend) :
    ∃ flight ∈ next.flights, flight.task = .executePower .suspend := by
  have open_ : world.app.closing = none := move.unclosed unclosed
  have power := update_power world.app discovered input
  rw [updates] at power
  cases power with
  | quiet quiet =>
    have before : world.app.powerState = .executing .suspend := quiet.power.symm.trans executing
    obtain ⟨flight, inFlight, isTask⟩ := progressing.suspending open_ before
    rcases takes.cases_of_mem inFlight with isOld | ⟨outcome, message, ends, isInput⟩
    · exact ⟨flight, isFlights ▸ List.mem_append_left _ isOld, isTask⟩
    · obtain ⟨serial, task⟩ := flight
      have isTask : task = .executePower .suspend := isTask
      subst isTask isInput
      cases outcome <;> simp only [Flight.message, reduceCtorEq, Option.some.injEq] at ends
      subst ends
      rename_i result
      have left := powerResult_progresses open_ before discovered result
      rw [updates] at left
      exact absurd (left.symm.trans executing) (by simp)
  | opens _ _ power => exact absurd (power.symm.trans executing) (by simp)
  | leaves power => exact absurd (power.symm.trans executing) (by simp)
  | confirms _ _ power =>
    cases power.symm.trans executing
    obtain ⟨flight, isNew, isTask⟩ :=
      numbered_of_perform world.issued (List.mem_singleton.mpr (rfl : Action.perform _ = _))
    exact ⟨flight, isFlights ▸ List.mem_append_right _ isNew, isTask⟩

theorem Progressing.usable_step (progressing : world.Progressing) (consistent : world.Consistent)
    (takes : world.Takes label input rest) (move : Move world.app.core input next.app.core actions)
    {discovered : List Session} (updates : world.app.update discovered input = (next.app, actions)) :
    next.app.core.Usable := by
  refine move.usable consistent.settled (consistent.takes takes).1 progressing.usable ?_ ?_ ?_
  · intro result isInput selecting
    subst isInput
    simp only [update] at updates
    split at updates
    next =>
      obtain ⟨same, _⟩ := Prod.mk.inj updates
      rw [← same] at selecting ⊢
      exact progressing.usable.choosable (by rw [selecting]; rfl)
    next =>
      have listed := world.app.accountsResult_phase result
      rw [show world.app.accountsResult result = (next.app, actions) from updates] at listed
      have selecting : next.app.phase = .selectingUser := selecting
      rcases listed with other | other | ⟨_, listed⟩
      · exact absurd (selecting.symm.trans other) (by simp)
      · exact absurd (selecting.symm.trans other) (by simp)
      · exact listed
  · intro leaving
    have leaving : (world.app.update discovered input).1.phase = .cancellingForUserSelection := by
      rw [updates]
      exact leaving
    rcases update_leaves leaving with same | failed | allowed
    · exact .inl same
    · exact .inr (.inl failed)
    · simp only [canChangeUser, Bool.and_eq_true, decide_eq_true_eq] at allowed
      exact .inr (.inr allowed.1.2)
  · intro open_ attempt client response isInput
    subst isInput
    cases takes with
    | input outside => contradiction
    | @finish index outcome flight message found ends =>
      obtain ⟨serial, task⟩ := flight
      cases outcome with
      | answered result =>
        cases task with
        | begin | restart =>
          cases result <;> simp [Flight.message, Except.map] at ends
          exact .inl (by rw [← ends.2.1]; rfl)
        | exchange held request other =>
          exact .inr (progressing.exchanging open_ _ (List.mem_of_getElem? found) held request other rfl)
        | _ => simp [Flight.message] at ends
      | _ => cases task <;> simp [Flight.message] at ends

theorem Progressing.exchanging_step (progressing : world.Progressing) (consistent : world.Consistent)
    (takes : world.Takes label input rest) (move : Move world.app.core input next.app.core actions)
    (isFlights : next.flights = rest ++ numbered world.issued (tasks actions))
    (unclosed : next.app.closing = none) {flight : Flight} (inFlight : flight ∈ next.flights) {client : Client}
    {request : Auth.Request} {attempt : Attempt} (isTask : flight.task = .exchange client request attempt) :
    next.app.client.isSome = true := by
  obtain ⟨delivered, sublist, goesOn⟩ := consistent.takes takes
  rw [isFlights] at inFlight
  have exchange : .perform (.exchange client request attempt) ∈ actions ∨
      (Task.exchange client request attempt).Fits world.app.core ∧ input.kind ≠ .authentication ∧
        world.app.core.client.isSome = true := by
    cases List.mem_append.mp inFlight with
    | inl isOld =>
      have before := sublist.subset isOld
      refine .inr ⟨isTask ▸ consistent.fits flight before, ?_,
        progressing.exchanging (move.unclosed unclosed) flight before _ _ _ isTask⟩
      have apart := goesOn flight isOld
      rw [isTask] at apart
      cases apart with
      | inl isOther => exact absurd isOther nofun
      | inr differs => exact fun isKind => differs isKind.symm
    | inr isNew => exact .inl (isTask ▸ perform_of_numbered isNew)
  exact move.exchanges delivered unclosed exchange

theorem Progressing.act (progressing : world.Progressing) (consistent : world.Consistent)
    (acts : world.act label = some (next, actions)) (goesOn : .exit ∉ actions) : next.Progressing := by
  obtain ⟨input, rest, _, takes, ⟨discovered, updates⟩, isFlights⟩ := act_takes acts
  have move := update_moves world.app discovered input
  rw [updates] at move
  exact {
    awaited := progressing.awaited_step consistent takes move updates isFlights goesOn
    cleaning := progressing.cleaning_step takes move updates isFlights
    restful := progressing.restful_step consistent takes move updates
    suspending := progressing.suspending_step takes move updates isFlights
    usable := progressing.usable_step consistent takes move updates
    exchanging := fun unclosed flight inFlight _ _ _ isTask =>
      progressing.exchanging_step consistent takes move isFlights unclosed inFlight isTask }

theorem Starts.progressing (starts : world.Starts) : world.Progressing := by
  obtain ⟨account, sessions, isStart⟩ := starts
  subst isStart
  cases sessions with
  | nil =>
    constructor
    · intro _ kind counts awaited
      simp only [App.new, List.head?_nil, Option.isNone_none, if_true, focusFirst_phase] at awaited
      cases kind <;> simp [Kind.Awaited, Phase.isActive] at awaited counts
    · simp [App.new]
    · simp [App.new]
    · simp [App.new]
    · simp only [App.new, List.head?_nil, Option.isNone_none, if_true, focusFirst_core]
      constructor <;> simp [App.core, Phase.isChoosing]
    · simp [App.new, tasks, numbered]
  | cons session sessions =>
    cases account with
    | none =>
      constructor
      · intro _ kind counts awaited
        refine ⟨⟨0, .discoverAccounts⟩, List.mem_singleton.mpr rfl, ?_⟩
        cases kind <;> simp [App.new, Kind.Awaited, Phase.isActive, Task.kind] at awaited counts ⊢
      · simp [App.new]
      · exact fun _ busy => absurd rfl busy
      · simp [App.new]
      · constructor <;> simp [App.new, App.core, Phase.isChoosing]
      · intro _ flight inFlight _ _ _ isTask
        cases List.mem_singleton.mp inFlight
        contradiction
    | some account =>
      constructor
      · intro _ kind counts awaited
        refine ⟨⟨0, _⟩, List.mem_singleton.mpr rfl, ?_⟩
        cases kind <;> simp [App.new, Kind.Awaited, Task.kind] at awaited counts ⊢
      · simp [App.new]
      · exact fun _ busy => absurd rfl busy
      · simp [App.new]
      · exact usable_of_active rfl
      · intro _ flight inFlight _ _ _ isTask
        cases List.mem_singleton.mp inFlight
        contradiction

end World

/-! ## What the user can do -/

/-- The user can send the message, and something is set off by it. -/
def App.Offers (app : App) (message : Message) : Prop :=
  (Input.message message).isOutside = true ∧
    ∀ discovered, ∃ task, .perform task ∈ (app.update discovered (.message message)).2

theorem progressing_of_run (run : greeterSystem.Run) {index : Nat} (bound : index ≤ run.length)
    (goesOn : ∀ earlier < index, ¬ (run.state earlier).Asks (run.label earlier) .exit) :
    (run.state index).Progressing := by
  refine run.stays World.Progressing (Nat.zero_le index) bound ?_ (World.Starts.progressing run.starts)
  intro earlier _ before progressing
  obtain ⟨actions, acts⟩ := acts_of_run run (show earlier < run.length by omega)
  have consistent := World.consistent_of_reachable (run.reachable earlier (by omega))
  exact progressing.act consistent acts fun exits => goesOn earlier before ⟨_, _, acts, exits⟩

end Genkan.Greeter
