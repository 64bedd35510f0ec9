import Genkan.Greeter.Moves

/-! # What an update does to power

Only four messages touch the power state: they open the dialog, leave it, confirm it and end the action.
Every other update leaves it alone, and starts the cancellation of a session only while it is idle.
-/

namespace Genkan.Greeter

open Foundations App

/-! ## Updates that leave power alone -/

namespace App

@[simp] theorem setFocus_powerState (app : App) (target : Target) :
    (app.setFocus target).powerState = app.powerState :=
  congrArg Core.powerState (app.setFocus_core target)

@[simp] theorem setFocus_phase (app : App) (target : Target) : (app.setFocus target).phase = app.phase :=
  congrArg Core.phase (app.setFocus_core target)

@[simp] theorem focusFirst_powerState (app : App) : app.focusFirst.powerState = app.powerState :=
  congrArg Core.powerState app.focusFirst_core

@[simp] theorem focusFirst_phase (app : App) : app.focusFirst.phase = app.phase :=
  congrArg Core.phase app.focusFirst_core

end App

/-- What leaves the power state alone, executes nothing, and starts a cancellation only while it is idle. -/
structure Quiet (powerState : PowerState) (phase : Phase) (result : App × List Action) : Prop where
  power : result.1.powerState = powerState
  unexecuted : ∀ action, .perform (.executePower action) ∉ result.2
  unselecting : result.1.phase = .cancellingForUserSelection →
    phase = .cancellingForUserSelection ∨ powerState = .idle

theorem Quiet.same {app next : App} {actions : List Action} (power : next.powerState = app.powerState)
    (unexecuted : ∀ action, .perform (.executePower action) ∉ actions) (phase : next.phase = app.phase) :
    Quiet app.powerState app.phase (next, actions) :=
  ⟨power, unexecuted, fun cancelling => .inl (phase ▸ cancelling)⟩

theorem Quiet.of_core {app next : App} (same : next.core = app.core) : Quiet app.powerState app.phase (next, []) :=
  .same (congrArg Core.powerState same) (by simp) (congrArg Core.phase same)

theorem Quiet.kept (app : App) : Quiet app.powerState app.phase (app, []) := .of_core rfl

theorem Answer.quiet {app next : App} {response : Auth.Response} {actions : List Action}
    (answer : Answer app.core response next.core actions) : Quiet app.powerState app.phase (next, actions) := by
  have power : next.core.powerState = app.powerState := by
    generalize next.core = core at answer
    cases answer <;> rfl
  have phase : next.core.phase = .cancellingForUserSelection → app.phase = .cancellingForUserSelection := by
    generalize next.core = core at answer
    intro cancelling
    cases answer with
    | acknowledges | exits => exact cancelling
    | prompts | starts | fails => contradiction
  refine ⟨power, ?_, fun cancelling => .inl (phase cancelling)⟩
  intro action member
  generalize next.core = core at answer
  cases answer <;> simp at member

namespace App

variable (app : App)

theorem fail_quiet (message : String) : Quiet app.powerState app.phase (app.fail message) := by
  constructor <;> simp [fail]

theorem selectAccount_quiet (account : Account) : Quiet app.powerState app.phase (app.selectAccount account) := by
  simp only [selectAccount]
  split
  next => constructor <;> simp [closeSessionMenu]
  next => constructor <;> simp [closeSessionMenu]

theorem retryAuthentication_quiet : Quiet app.powerState app.phase app.retryAuthentication := by
  constructor <;> simp [retryAuthentication]

theorem discoverAccounts_quiet : Quiet app.powerState app.phase app.discoverAccounts := by
  constructor <;> simp [discoverAccounts]

theorem retry_quiet : Quiet app.powerState app.phase app.retry := by
  simp only [retry]
  split
  next =>
    split
    next => exact app.discoverAccounts_quiet
    next => exact app.retryAuthentication_quiet
  next => exact .kept app

theorem retrySession_quiet (discovered : List Session) :
    Quiet app.powerState app.phase (app.retrySession discovered) := by
  simp only [retrySession]
  split
  next =>
    split
    next => constructor <;> simp_all
    next =>
      split
      next =>
        exact discoverAccounts_quiet
          { app with sessions := discovered, selectedSession := discovered.head?, sessionMessage := none }
      next =>
        exact retryAuthentication_quiet
          { app with sessions := discovered, selectedSession := discovered.head?, sessionMessage := none }
  next => exact .kept app

theorem accountsResult_quiet (result : Except String (List Account)) :
    Quiet app.powerState app.phase (app.accountsResult result) := by
  cases result with
  | error error => exact app.fail_quiet error
  | ok accounts =>
    simp only [accountsResult]
    split
    next => exact app.fail_quiet _
    next =>
      split
      next account _ => exact selectAccount_quiet { app with accounts } account
      next => constructor <;> simp

theorem changeUser_quiet (idle : app.powerState = .idle) : Quiet app.powerState app.phase app.changeUser := by
  constructor <;> simp [changeUser, cancelForUserSelection, idle]

theorem userSelectionCancelled_quiet (attempt : Attempt) (result : Except String Unit) :
    Quiet app.powerState app.phase (app.userSelectionCancelled attempt result) := by
  simp only [userSelectionCancelled]
  split
  next =>
    split
    next => exact .same rfl (by simp) rfl
    next =>
      split
      next => cases result <;> constructor <;> simp
      next => exact .kept app
  next => exact .kept app

theorem userSelectionCancellationSlow_quiet (attempt : Attempt) :
    Quiet app.powerState app.phase (app.userSelectionCancellationSlow attempt) := by
  simp only [userSelectionCancellationSlow]
  split
  next => exact .same rfl (by simp) rfl
  next => exact .kept app

theorem retryUserSelectionCancellation_quiet (idle : app.powerState = .idle) :
    Quiet app.powerState app.phase app.retryUserSelectionCancellation := by
  simp only [retryUserSelectionCancellation]
  split
  next => constructor <;> simp [cancelForUserSelection, idle]
  next => exact .kept app

theorem submit_quiet : Quiet app.powerState app.phase app.submit := by
  simp only [submit]
  split
  next =>
    split
    next => exact app.fail_quiet _
    next =>
      split
      next => exact .same rfl (by simp) rfl
      next => constructor <;> simp
  next => exact .kept app

theorem handleAuthResult_quiet (attempt : Attempt) (result : Except String (Option Client × Auth.Response)) :
    Quiet app.powerState app.phase (app.handleAuthResult attempt result) := by
  simp only [handleAuthResult]
  split
  next => exact .kept app
  next =>
    split
    next => exact .same rfl (by simp) rfl
    next =>
      cases result with
      | error error => exact app.fail_quiet error
      | ok answer => exact (handleAuthResponse_answers { app with client := answer.1.or app.client } answer.2).quiet

theorem closeRequested_quiet (window : Nat) : Quiet app.powerState app.phase (app.closeRequested window) := by
  simp only [closeRequested]
  repeat' split
  all_goals exact .same rfl (by simp) rfl

theorem sessionCancelled_quiet (window : Nat) : Quiet app.powerState app.phase (app.sessionCancelled window) := by
  simp only [sessionCancelled]
  split
  next => exact .same rfl (by simp) rfl
  next => exact .kept app

theorem closeTimeout_quiet (window : Nat) : Quiet app.powerState app.phase (app.closeTimeout window) := by
  simp only [closeTimeout]
  split
  next => exact .same rfl (by simp) rfl
  next => exact .kept app

end App

/-! ## Updates that do not -/

/-- The user asks for the action, with its button or with a key. -/
def Input.AsksPower (app : App) (action : PowerAction) (input : Input) : Prop :=
  input = .message (.askPower action) ∨
    input = .navigateFocus .activate ∧ app.focusTarget = some (.power action)

/-- The user confirms the action, with the button of the dialog or with a key. -/
def Input.ConfirmsPower (app : App) (action : PowerAction) (input : Input) : Prop :=
  input = .message (.confirmPower action) ∨
    input = .navigateModal .activate ∧ app.focusTarget = some .dialogConfirm

inductive PowerMove (app : App) (input : Input) : App × List Action → Prop where
  | quiet {result : App × List Action} (quiet : Quiet app.powerState app.phase result) : PowerMove app input result
  | opens {next : App} {action : PowerAction} (asks : input.AsksPower app action)
      (allowed : app.canRequestPower = true) (power : next.powerState = .confirming action)
      (phase : next.phase = app.phase) : PowerMove app input (next, [])
  | leaves {next : App} (power : next.powerState = .idle) (phase : next.phase = app.phase) :
      PowerMove app input (next, [])
  | confirms {next : App} {action : PowerAction} (confirms : input.ConfirmsPower app action)
      (before : app.powerState = .confirming action) (power : next.powerState = .executing action)
      (phase : next.phase = app.phase) : PowerMove app input (next, [.perform (.executePower action)])

theorem PowerMove.kept (app : App) (input : Input) : PowerMove app input (app, []) := .quiet (.kept app)

namespace App

variable {app : App} {input : Input}

theorem enterPowerDialog_power (app : App) : app.enterPowerDialog.powerState = app.powerState :=
  congrArg Core.powerState app.enterPowerDialog_core

theorem enterPowerDialog_phase (app : App) : app.enterPowerDialog.phase = app.phase :=
  congrArg Core.phase app.enterPowerDialog_core

theorem leavePowerDialog_power (app : App) : app.leavePowerDialog.powerState = app.powerState :=
  congrArg Core.powerState app.leavePowerDialog_core

theorem leavePowerDialog_phase (app : App) : app.leavePowerDialog.phase = app.phase :=
  congrArg Core.phase app.leavePowerDialog_core

theorem askPower_power {action : PowerAction} (asks : input.AsksPower app action) :
    PowerMove app input (app.askPower action) := by
  simp only [askPower]
  split
  next allowed => exact .opens asks allowed (enterPowerDialog_power _) (enterPowerDialog_phase _)
  next => exact .kept app input

theorem cancelPower_power : PowerMove app input app.cancelPower := by
  simp only [cancelPower]
  split
  next => exact .leaves (leavePowerDialog_power _) (leavePowerDialog_phase _)
  next => exact .kept app input

theorem confirmPower_power {action : PowerAction}
    (confirms : app.powerState = .confirming action → input.ConfirmsPower app action) :
    PowerMove app input (app.confirmPower action) := by
  simp only [confirmPower]
  split
  next before => exact .confirms (confirms before) before rfl rfl
  next => exact .kept app input

theorem powerResult_power (result : Except String Unit) : PowerMove app input (app.powerResult result) := by
  cases result with
  | ok _ =>
    simp only [powerResult]
    split
    next => exact .leaves (leavePowerDialog_power _) (leavePowerDialog_phase _)
    next => exact .kept app input
  | error error => exact .leaves (leavePowerDialog_power _) (leavePowerDialog_phase _)

/-! ## Every update -/

theorem idle_of_canChangeUser (allowed : app.canChangeUser = true) : app.powerState = .idle := by
  simp only [canChangeUser, Bool.and_eq_true, beq_iff_eq] at allowed
  exact allowed.1.1.2

theorem idle_of_retryAllowed (allowed : app.powerAllows (.message .retryUserSelectionCancellation) = true) :
    app.powerState = .idle := by
  cases power : app.powerState with
  | idle => rfl
  | confirming | executing => simp [powerAllows, power] at allowed

theorem handle_power {message : Message} (discovered : List Session)
    (allowed : app.powerAllows (.message message) = true)
    (asks : ∀ action, message = .askPower action → input.AsksPower app action)
    (confirms : ∀ action, message = .confirmPower action → app.powerState = .confirming action →
      input.ConfirmsPower app action) :
    PowerMove app input (app.handle discovered message) := by
  cases message with
  | tick | wallpaperFrameReady | wallpaperAllocated | rendererInformation | navigatePage | windowResized
  | sessionMenuClosed | outputLayoutChanged => exact .quiet (.of_core rfl)
  | inputChanged value =>
    simp only [handle]
    split
    next => exact .quiet (.same rfl (by simp) rfl)
    next => exact .quiet (.same rfl (by simp) rfl)
  | submit => exact .quiet app.submit_quiet
  | retry => exact .quiet app.retry_quiet
  | retrySession => exact .quiet (app.retrySession_quiet discovered)
  | authResult attempt result => exact .quiet (app.handleAuthResult_quiet attempt result)
  | accountsResult result => exact .quiet (app.accountsResult_quiet result)
  | changeUser =>
    simp only [handle]
    split
    next changes => exact .quiet (app.changeUser_quiet (idle_of_canChangeUser changes))
    next => exact .kept app input
  | userSelectionCancelled attempt result => exact .quiet (app.userSelectionCancelled_quiet attempt result)
  | userSelectionCancellationSlow attempt => exact .quiet (app.userSelectionCancellationSlow_quiet attempt)
  | retryUserSelectionCancellation =>
    exact .quiet (app.retryUserSelectionCancellation_quiet (idle_of_retryAllowed allowed))
  | selectAccount account =>
    simp only [handle]
    split
    next => exact .quiet (app.selectAccount_quiet account)
    next => exact .kept app input
  | syncWidgetFocus => exact .quiet (.of_core app.syncWidgetFocus_core)
  | widgetFocused isInput => exact .quiet (.of_core (app.applyWidgetFocus_core isInput))
  | selectSession session =>
    simp only [handle]
    split
    next => exact .quiet (.same (setFocus_powerState _ _) (by simp) (setFocus_phase _ _))
    next => exact .kept app input
  | sessionMenuOpened =>
    simp only [handle]
    split
    next => exact .quiet (.of_core (setFocus_core _ _))
    next => exact .kept app input
  | askPower action => exact askPower_power (asks action rfl)
  | cancelPower => exact cancelPower_power
  | confirmPower action => exact confirmPower_power (confirms action rfl)
  | powerResult result => exact powerResult_power result
  | closeRequested window => exact .quiet (app.closeRequested_quiet window)
  | sessionCancelled window => exact .quiet (app.sessionCancelled_quiet window)
  | closeTimeout window => exact .quiet (app.closeTimeout_quiet window)

theorem send_power {message : Message} (discovered : List Session)
    (asks : ∀ action, message = .askPower action → input.AsksPower app action)
    (confirms : ∀ action, message = .confirmPower action → app.powerState = .confirming action →
      input.ConfirmsPower app action) :
    PowerMove app input (app.send discovered message) := by
  simp only [send]
  split
  next allowed =>
    simp only [allows, Bool.and_eq_true] at allowed
    exact handle_power discovered allowed.2 asks confirms
  next => exact .kept app input

theorem cycleSession_quiet (delta : Int) : Quiet app.powerState app.phase (app.cycleSession delta, []) := by
  obtain ⟨selectedSession, selects⟩ := app.cycleSession_core delta
  have power := congrArg Core.powerState selects
  have phase := congrArg Core.phase selects
  exact .same power (by simp) phase

theorem moveDirectional_quiet (delta : Int) : Quiet app.powerState app.phase (app.moveDirectional delta, []) := by
  rcases app.moveDirectional_core delta with same | ⟨_, selectedSession, selects⟩
  · exact .of_core same
  · have power := congrArg Core.powerState selects
    have phase := congrArg Core.phase selects
    exact .same power (by simp) phase

theorem activation_asksPower {action : PowerAction} (activates : app.activation = .send (.askPower action)) :
    app.focusTarget = some (.power action) := by
  simp only [activation] at activates
  repeat' split at activates
  all_goals cases activates
  assumption

theorem activation_confirmsPower {action : PowerAction}
    (activates : app.activation = .send (.confirmPower action)) : app.focusTarget = some .dialogConfirm := by
  simp only [activation] at activates
  repeat' split at activates
  all_goals cases activates
  assumption

/-- The keys act on the focused target: outside of the dialog, or inside while it is open. -/
theorem navigateFocus_power (navigation : Navigation) (discovered : List Session)
    (key : (input = .navigateFocus navigation ∧ app.powerState = .idle) ∨
      (input = .navigateModal navigation ∧ app.isConfirming = true)) :
    PowerMove app input (app.navigateFocus discovered navigation) := by
  cases navigation with
  | next => exact .quiet (.of_core (app.moveFocus_core 1))
  | previous => exact .quiet (.of_core (app.moveFocus_core (-1)))
  | directionNext => exact .quiet (moveDirectional_quiet 1)
  | directionPrevious => exact .quiet (moveDirectional_quiet (-1))
  | activate =>
    simp only [navigateFocus]
    split
    next message activates =>
      cases key with
      | inl outside =>
        obtain ⟨isInput, idle⟩ := outside
        apply send_power
        · intro action isMessage
          exact .inr ⟨isInput, activation_asksPower (isMessage ▸ activates)⟩
        · -- Outside the dialog no action is being confirmed.
          intro action _ confirming
          rw [idle] at confirming
          contradiction
      | inr inside =>
        obtain ⟨isInput, confirming⟩ := inside
        simp only [send]
        split
        next allowed =>
          simp only [allows, Bool.and_eq_true] at allowed
          apply handle_power discovered allowed.2
          · -- The dialog lets no other be asked for.
            intro action isMessage
            subst isMessage
            cases power : app.powerState <;> simp [isConfirming, powerAllows, power] at confirming allowed
          · intro action isMessage _
            exact .inr ⟨isInput, activation_confirmsPower (isMessage ▸ activates)⟩
        next => exact .kept app input
    next => exact .quiet (cycleSession_quiet 1)
    next => exact .kept app input

theorem closeSessionMenu_power {result : App × List Action} (move : PowerMove app.closeSessionMenu input result) :
    PowerMove app input result := by
  cases move with
  | quiet quiet => exact .quiet quiet
  | opens asks allowed power phase => exact .opens asks allowed power phase
  | leaves power phase => exact .leaves power phase
  | confirms confirms before power phase => exact .confirms confirms before power phase

theorem update_power (app : App) (discovered : List Session) (input : Input) :
    PowerMove app input (app.update discovered input) := by
  simp only [update]
  split
  next => exact .kept app input
  next passed =>
    have allowed : app.powerAllows input = true := by
      simp only [allows, Bool.not_eq_true', Bool.not_eq_false, Bool.and_eq_true] at passed
      exact passed.2
    cases input with
    | message message =>
      apply handle_power discovered allowed
      · intro action isMessage
        exact .inl (congrArg Input.message isMessage)
      · intro action isMessage _
        exact .inl (congrArg Input.message isMessage)
    | navigateFocus navigation =>
      have idle : app.powerState = .idle := by simpa [powerAllows] using allowed
      exact closeSessionMenu_power (navigateFocus_power navigation discovered (.inl ⟨rfl, idle⟩))
    | navigateModal navigation =>
      simp only
      split
      next confirming => exact navigateFocus_power navigation discovered (.inr ⟨rfl, confirming⟩)
      next => exact .kept app _
    | escape =>
      simp only
      split
      next => exact send_power discovered (by simp) (by simp)
      next =>
        split
        next => exact .quiet (.of_core rfl)
        next =>
          split
          next => exact .quiet (.of_core app.blurInput_core)
          next => exact .kept app _

end App

end Genkan.Greeter
