import Genkan.Greeter.App

/-! # The focus of the greeter

The order of the targets, the moves between them, and the session that a direction key selects.
-/

namespace Genkan.Greeter.App

/-! ## Setting the focus -/

def closeSessionMenu (app : App) : App := { app with sessionMenuOpen := false }

def setFocus (app : App) (target : Target) : App :=
  { if target ≠ .session then app.closeSessionMenu else app with focusTarget := some target }

def clearFocus (app : App) : App := { app.closeSessionMenu with focusTarget := none }

def focusOrder (app : App) : List Target :=
  match app.powerState with
  | .confirming _ => [.dialogCancel, .dialogConfirm]
  | .executing _ => []
  | .idle =>
    if app.closing.isSome then []
    else
      let first :=
        match app.phase with
        | .selectingUser =>
          if app.canSelectAccount then (List.range app.accounts.length).map Target.account else []
        | .userSelectionCancellationFailed => [.retryAccountSelection]
        | .waitingForInput => [.authenticationInput, .submit]
        | .failed =>
          if app.selectedSession.isSome && app.username != "" then [.retryAuthentication]
          else if app.selectedSession.isSome then [.retryAccountSelection]
          else []
        | _ => []
      first ++ (if app.canChangeUser then [.changeUser] else []) ++
        (if app.canSelectSession && app.selectedSession.isSome then [.session] else []) ++
        (if app.phase == .failed && app.selectedSession.isNone then [.retrySession] else []) ++
        if app.canRequestPower then [.power .suspend, .power .reboot, .power .powerOff] else []

def focusFirst (app : App) : App :=
  match app.focusOrder.head? with
  | some target => app.setFocus target
  | none => app.clearFocus

def blurInput (app : App) : App :=
  let app := app.closeSessionMenu
  if app.focusTarget = some .authenticationInput then { app with focusTarget := none } else app

def syncWidgetFocus (app : App) : App :=
  if app.focusTarget = some .authenticationInput then { app with focusTarget := none } else app

def applyWidgetFocus (app : App) (input : Bool) : App :=
  if input && app.phase == .waitingForInput then { app with focusTarget := some .authenticationInput }
  else app

def enterPowerDialog (app : App) : App :=
  { app with focusBeforeModal := app.focusTarget }.setFocus .dialogCancel

def leavePowerDialog (app : App) : App :=
  let order := app.focusOrder
  let target := (app.focusBeforeModal.filter fun target => order.contains target).or order.head?
  let app := { app with focusBeforeModal := none }
  match target with
  | some target => app.setFocus target
  | none => app.clearFocus

/-! ## Moving the focus -/

/-- The index at a distance, around the end of a list. -/
def around (index : Nat) (delta : Int) (length : Nat) : Nat := (((index : Int) + delta) % (length : Int)).toNat

def moveFocus (app : App) (delta : Int) : App :=
  let order := app.focusOrder
  let index :=
    match app.focusTarget.bind fun target => order.findIdx? fun candidate => candidate == target with
    | some index => around index delta order.length
    | none => if delta < 0 then order.length - 1 else 0
  match order[index]? with
  | some target => app.setFocus target
  | none => app.clearFocus

def cycleSession (app : App) (delta : Int) : App :=
  let current := (app.selectedSession.bind fun selected =>
    app.sessions.findIdx? fun session => session == selected).getD 0
  match app.sessions[around current delta app.sessions.length]? with
  | some session => { app with selectedSession := some session }
  | none => app

def moveDirectional (app : App) (delta : Int) : App :=
  match app.focusTarget with
  | some (.account index) =>
    if app.canSelectAccount && !app.accounts.isEmpty then
      app.setFocus (.account (around index delta app.accounts.length))
    else app
  | some .session => if app.canSelectSession then app.cycleSession delta else app
  | some .dialogCancel | some .dialogConfirm => app.moveFocus delta
  | _ => app

/-! ## Activating it -/

/-- What the activation of the focused target does: it sends a message on, or selects the next session. -/
inductive Activation where
  | send (message : Message)
  | cycle
  | nothing

def activation (app : App) : Activation :=
  match app.focusTarget with
  | some (.account index) =>
    if app.canSelectAccount then
      match app.accounts[index]? with
      | some account => .send (.selectAccount account)
      | none => .nothing
    else .nothing
  | some .retryAccountSelection =>
    if app.phase = .userSelectionCancellationFailed then .send .retryUserSelectionCancellation
    else .send .retry
  | some .authenticationInput => .nothing
  | some .submit => .send .submit
  | some .retryAuthentication => .send .retry
  | some .changeUser => .send .changeUser
  | some .session => if app.canSelectSession then .cycle else .nothing
  | some .retrySession => .send .retrySession
  | some (.power action) => .send (.askPower action)
  | some .dialogCancel => .send .cancelPower
  | some .dialogConfirm =>
    match app.powerState with
    | .confirming action => .send (.confirmPower action)
    | _ => .nothing
  | none => .nothing

/-! ## What the focus leaves alone -/

/-- The fields that decide what the greeter asks of greetd. -/
structure Core where
  username : String
  accounts : List Account
  conversation : Conversation
  phase : Phase
  client : Option Client
  sessions : List Session
  selectedSession : Option Session
  powerState : PowerState
  selectionSessionCancelled : Bool
  closing : Option Closing

def core (app : App) : Core where
  username := app.username
  accounts := app.accounts
  conversation := app.conversation
  phase := app.phase
  client := app.client
  sessions := app.sessions
  selectedSession := app.selectedSession
  powerState := app.powerState
  selectionSessionCancelled := app.selectionSessionCancelled
  closing := app.closing

@[simp] theorem closeSessionMenu_core (app : App) : app.closeSessionMenu.core = app.core := rfl

@[simp] theorem setFocus_core (app : App) (target : Target) : (app.setFocus target).core = app.core := by
  simp only [setFocus]
  split <;> rfl

@[simp] theorem clearFocus_core (app : App) : app.clearFocus.core = app.core := rfl

@[simp] theorem focusFirst_core (app : App) : app.focusFirst.core = app.core := by
  simp only [focusFirst]
  split
  next target _ => exact app.setFocus_core target
  next => rfl

@[simp] theorem blurInput_core (app : App) : app.blurInput.core = app.core := by
  simp only [blurInput]
  split <;> rfl

@[simp] theorem syncWidgetFocus_core (app : App) : app.syncWidgetFocus.core = app.core := by
  simp only [syncWidgetFocus]
  split <;> rfl

@[simp] theorem applyWidgetFocus_core (app : App) (input : Bool) : (app.applyWidgetFocus input).core = app.core := by
  simp only [applyWidgetFocus]
  split <;> rfl

@[simp] theorem enterPowerDialog_core (app : App) : app.enterPowerDialog.core = app.core := by
  simp only [enterPowerDialog, setFocus_core]
  rfl

@[simp] theorem leavePowerDialog_core (app : App) : app.leavePowerDialog.core = app.core := by
  simp only [leavePowerDialog]
  split
  next => exact setFocus_core _ _
  next => rfl

@[simp] theorem moveFocus_core (app : App) (delta : Int) : (app.moveFocus delta).core = app.core := by
  simp only [moveFocus]
  split
  next => exact setFocus_core _ _
  next => rfl

theorem cycleSession_core (app : App) (delta : Int) :
    ∃ selectedSession, (app.cycleSession delta).core = { app.core with selectedSession } := by
  simp only [cycleSession]
  split <;> exact ⟨_, rfl⟩

/-- A direction key selects another session only while the sessions may be selected. -/
theorem moveDirectional_core (app : App) (delta : Int) :
    (app.moveDirectional delta).core = app.core ∨
      app.canSelectSession = true ∧
        ∃ selectedSession, (app.moveDirectional delta).core = { app.core with selectedSession } := by
  simp only [moveDirectional]
  split
  next =>
    split
    next => exact .inl (setFocus_core _ _)
    next => exact .inl rfl
  next =>
    split
    next selectable => exact .inr ⟨selectable, app.cycleSession_core delta⟩
    next => exact .inl rfl
  next => exact .inl (app.moveFocus_core delta)
  next => exact .inl (app.moveFocus_core delta)
  next => exact .inl rfl

end Genkan.Greeter.App
