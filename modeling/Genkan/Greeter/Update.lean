import Genkan.Greeter.AuthFlow
import Genkan.Foundations.TransitionSystem

/-! # The update function of the greeter

`update` and the program around it: the user acts at any time, and a task ends at any time with a
result of its own, which is delivered as a message.
-/

namespace Genkan.Greeter

open Foundations

namespace App

/-! ## Accounts -/

def selectAccount (app : App) (account : Account) : App × List Action :=
  let replacingAccount := app.username != ""
  let recover := !app.selectionSessionCancelled
  let (conversation, attempt) := app.conversation.beginAttempt
  let client := app.client
  let app :=
    { app.closeSessionMenu with
      username := account.username
      displayName := account.displayName
      focusTarget := none
      phase := .creatingSession
      conversation := conversation
      selectionSessionCancelled := false }
  if replacingAccount then
    ({ app with client := none }, [.perform (.restart client account.username attempt)])
  else (app, [.perform (.begin account.username attempt recover)])

def retryAuthentication (app : App) : App × List Action :=
  let (conversation, attempt) := app.conversation.beginAttempt
  ({ app with phase := .creatingSession, client := none, conversation := conversation },
    [.perform (.restart app.client app.username attempt)])

def cancelForUserSelection (client : Option Client) (attempt : Attempt) : List Action :=
  [.perform (.cancelForUserSelection client attempt), .perform (.userSelectionCancellationSlow attempt)]

def changeUser (app : App) : App × List Action :=
  let (conversation, attempt) := app.conversation.beginAttempt
  let app' :=
    { app with
      client := none
      username := ""
      displayName := "Select a user"
      selectionSessionCancelled := false
      phase := .cancellingForUserSelection
      conversation := conversation.setNotice "Changing user…" false }
  (app'.focusFirst, cancelForUserSelection app.client attempt)

def discoverAccounts (app : App) : App × List Action :=
  ({ app with phase := .discoveringUsers, conversation := app.conversation.clearNotice },
    [.perform .discoverAccounts])

def accountsResult (app : App) : Except String (List Account) → App × List Action
  | .error error => app.fail error
  | .ok accounts =>
    if accounts.isEmpty then app.fail "AccountsService found no unlocked non-system users"
    else
      let app := { app with accounts }
      match preferredAccount accounts with
      | some account => app.selectAccount account
      | none =>
        ({ app with phase := .selectingUser,
                    conversation := app.conversation.setNotice "Select a user" false }.setFocus (.account 0), [])

/-! ## The selection of a user -/

def userSelectionCancelled (app : App) (attempt : Attempt) (result : Except String Unit) : App × List Action :=
  if app.conversation.accepts attempt then
    match app.closing with
    | some (.waitingForUserSelectionCancellation window) =>
      ({ app with closing := some (.dispatching window) }, [.close window])
    | _ =>
      if app.phase = .cancellingForUserSelection then
        match result with
        | .ok () =>
          ({ app with
              phase := .selectingUser
              selectionSessionCancelled := true
              conversation := app.conversation.setNotice "Select a user" false }.setFocus (.account 0), [])
        | .error error =>
          ({ app with
              phase := .userSelectionCancellationFailed
              conversation := app.conversation.setNotice error true }.setFocus .retryAccountSelection, [])
      else (app, [])
  else (app, [])

def userSelectionCancellationSlow (app : App) (attempt : Attempt) : App × List Action :=
  if app.conversation.accepts attempt && app.phase == .cancellingForUserSelection then
    ({ app with conversation := app.conversation.setNotice "Still changing user…" false }, [])
  else (app, [])

def retryUserSelectionCancellation (app : App) : App × List Action :=
  if app.phase = .userSelectionCancellationFailed then
    let (conversation, attempt) := app.conversation.beginAttempt
    ({ app with
        phase := .cancellingForUserSelection
        conversation := conversation.setNotice "Changing user…" false }.focusFirst,
      cancelForUserSelection none attempt)
  else (app, [])

/-! ## Retrying and submitting -/

def retrySession (app : App) (discovered : List Session) : App × List Action :=
  if app.phase = .failed ∧ app.selectedSession = none then
    let app := { app with sessions := discovered, selectedSession := discovered.head? }
    if app.selectedSession.isNone then
      ({ app with sessionMessage := some "No valid Wayland sessions are installed" }, [])
    else
      let app := { app with sessionMessage := none }
      if app.username = "" then app.discoverAccounts else app.retryAuthentication
  else (app, [])

def retry (app : App) : App × List Action :=
  if app.phase = .failed then
    if app.username = "" then app.discoverAccounts else app.retryAuthentication
  else (app, [])

def submit (app : App) : App × List Action :=
  if app.conversation.status = .waiting then
    match app.client with
    | none => app.fail "Lost connection to greetd"
    | some client =>
      match app.conversation.submit with
      | (conversation, none) => ({ app with conversation }, [])
      | (conversation, some (attempt, response)) =>
        ({ app with conversation, phase := .authenticating },
          [.perform (.exchange client (.postAuthMessageResponse (some response)) attempt)])
  else (app, [])

/-! ## Power -/

def askPower (app : App) (action : PowerAction) : App × List Action :=
  if app.canRequestPower then
    ({ app with
        focusTarget := some (.power action)
        powerState := .confirming action
        powerMessage := none }.enterPowerDialog, [])
  else (app, [])

def cancelPower (app : App) : App × List Action :=
  if app.isConfirming then ({ app with powerState := .idle }.leavePowerDialog, []) else (app, [])

def confirmPower (app : App) (action : PowerAction) : App × List Action :=
  if app.powerState = .confirming action then
    ({ app with powerState := .executing action, focusTarget := none }, [.perform (.executePower action)])
  else (app, [])

def powerResult (app : App) : Except String Unit → App × List Action
  | .ok () =>
    if app.powerState = .executing .suspend then
      ({ app with powerState := .idle, powerMessage := none }.leavePowerDialog, [])
    else (app, [])
  | .error error =>
    ({ app with
        powerState := .idle
        powerMessage := some (boundedText error)
        powerMessageIsError := true }.leavePowerDialog, [])

/-! ## Closing the window -/

def closeRequested (app : App) (window : Nat) : App × List Action :=
  if app.selectionSessionCancelled then
    ({ app with closing := some (.dispatching window) }, [.close window])
  else if app.phase = .cancellingForUserSelection then
    ({ app with closing := some (.waitingForUserSelectionCancellation window) },
      [.perform (.closeTimeout window)])
  else if app.client.isSome then
    ({ app with
        conversation := app.conversation.invalidateAttempt
        closing := some (.cancelling window)
        client := none },
      [.perform (.cancelForClose app.client window), .perform (.closeTimeout window)])
  else if app.phase = .creatingSession then
    ({ app with closing := some (.waitingForClient window) }, [.perform (.closeTimeout window)])
  else
    ({ app with conversation := app.conversation.invalidateAttempt, closing := some (.cancelling window) },
      [.perform (.cancelForClose none window), .perform (.closeTimeout window)])

def sessionCancelled (app : App) (window : Nat) : App × List Action :=
  if app.closing.any fun closing => closing.isCleaning window then
    ({ app with closing := some (.dispatching window) }, [.close window])
  else (app, [])

def closeTimeout (app : App) (window : Nat) : App × List Action :=
  if app.closing.any fun closing => closing.isCleaning window then
    ({ app with
        conversation := app.conversation.invalidateAttempt
        closing := some (.dispatching window) }, [.close window])
  else (app, [])

/-! ## `update` -/

/-- The sessions are those that a new discovery would find. -/
def handle (app : App) (discovered : List Session) : Message → App × List Action
  | .tick | .wallpaperFrameReady | .wallpaperAllocated | .rendererInformation => (app, [])
  | .inputChanged value =>
    match app.conversation.updateInput value with
    | (conversation, true) => ({ app with conversation, focusTarget := some .authenticationInput }, [])
    | (conversation, false) => ({ app with conversation }, [])
  | .submit => app.submit
  | .retry => app.retry
  | .retrySession => app.retrySession discovered
  | .authResult attempt result => app.handleAuthResult attempt result
  | .accountsResult result => app.accountsResult result
  | .changeUser => if app.canChangeUser then app.changeUser else (app, [])
  | .userSelectionCancelled attempt result => app.userSelectionCancelled attempt result
  | .userSelectionCancellationSlow attempt => app.userSelectionCancellationSlow attempt
  | .retryUserSelectionCancellation => app.retryUserSelectionCancellation
  | .selectAccount account =>
    if app.canSelectAccount && account.username != app.username then app.selectAccount account else (app, [])
  | .syncWidgetFocus => (app.syncWidgetFocus, [])
  | .widgetFocused input => (app.applyWidgetFocus input, [])
  | .navigatePage | .windowResized => (app, [])
  | .selectSession session =>
    if app.canSelectSession then
      ({ app.closeSessionMenu with selectedSession := some session }.setFocus .session, [])
    else (app, [])
  | .sessionMenuOpened =>
    if app.canSelectSession then ({ app with sessionMenuOpen := true }.setFocus .session, []) else (app, [])
  | .sessionMenuClosed => ({ app with sessionMenuOpen := false }, [])
  | .outputLayoutChanged => (app.closeSessionMenu, [])
  | .askPower action => app.askPower action
  | .cancelPower => app.cancelPower
  | .confirmPower action => app.confirmPower action
  | .powerResult result => app.powerResult result
  | .closeRequested window => app.closeRequested window
  | .sessionCancelled window => app.sessionCancelled window
  | .closeTimeout window => app.closeTimeout window

/-- A message that `update` sends on passes the same gates. -/
def send (app : App) (discovered : List Session) (message : Message) : App × List Action :=
  if app.allows (.message message) then app.handle discovered message else (app, [])

def navigateFocus (app : App) (discovered : List Session) : Navigation → App × List Action
  | .next => (app.moveFocus 1, [])
  | .previous => (app.moveFocus (-1), [])
  | .directionNext => (app.moveDirectional 1, [])
  | .directionPrevious => (app.moveDirectional (-1), [])
  | .activate =>
    match app.activation with
    | .send message => app.send discovered message
    | .cycle => (app.cycleSession 1, [])
    | .nothing => (app, [])

def update (app : App) (discovered : List Session) (input : Input) : App × List Action :=
  if !app.allows input then (app, [])
  else
    match input with
    | .message message => app.handle discovered message
    | .navigateFocus navigation => app.closeSessionMenu.navigateFocus discovered navigation
    | .navigateModal navigation =>
      if app.isConfirming then app.navigateFocus discovered navigation else (app, [])
    | .escape =>
      if app.isConfirming then app.send discovered .cancelPower
      else if app.sessionMenuOpen then (app.closeSessionMenu, [])
      else if app.phase = .waitingForInput then (app.blurInput, [])
      else (app, [])

end App

/-! ## The program and its tasks -/

/-- A task in flight is known by its serial number. -/
structure Flight where
  serial : Nat
  task : Task
  deriving DecidableEq, Repr

structure World where
  app : App
  flights : List Flight
  issued : Nat

/-- How a task ends. -/
inductive Outcome where
  | answered (result : Except String Auth.Response)
  | cancelled (result : Except String Unit)
  | elapsed
  | discovered (result : Except String (List Account))
  | executed (result : Except String Unit)

/-- The message that a task ends with; a session that it creates has a connection of its own. -/
def Flight.message (flight : Flight) (outcome : Outcome) : Option Message :=
  match flight.task, outcome with
  | .begin _ attempt _, .answered result =>
    some (.authResult attempt (result.map fun response => (some ⟨flight.serial⟩, response)))
  | .restart _ _ attempt, .answered result =>
    some (.authResult attempt (result.map fun response => (some ⟨flight.serial⟩, response)))
  | .exchange _ _ attempt, .answered result =>
    some (.authResult attempt (result.map fun response => (none, response)))
  | .cancelForClose _ window, .cancelled _ => some (.sessionCancelled window)
  | .cancelForUserSelection _ attempt, .cancelled result => some (.userSelectionCancelled attempt result)
  | .userSelectionCancellationSlow attempt, .elapsed => some (.userSelectionCancellationSlow attempt)
  | .closeTimeout window, .elapsed => some (.closeTimeout window)
  | .discoverAccounts, .discovered result => some (.accountsResult result)
  | .executePower _, .executed result => some (.powerResult result)
  | _, _ => none

/-- The messages that come from the user or from the window. -/
def Input.isOutside : Input → Bool
  | .message sent =>
    match sent with
    | .authResult _ _ | .accountsResult _ | .userSelectionCancelled _ _ | .userSelectionCancellationSlow _
    | .powerResult _ | .sessionCancelled _ | .closeTimeout _ => false
    | _ => true
  | .navigateFocus _ | .navigateModal _ | .escape => true

inductive Label where
  | input (input : Input) (discovered : List Session)
  | finish (index : Nat) (outcome : Outcome)

namespace World

/-- What the step delivers to `update`. -/
def delivers (world : World) : Label → Option Input
  | .input input _ => if input.isOutside then some input else none
  | .finish index outcome => (world.flights[index]?.bind fun flight => flight.message outcome).map Input.message

def tasks (actions : List Action) : List Task :=
  actions.filterMap fun
    | .perform task => some task
    | _ => none

def numbered (issued : Nat) (tasks : List Task) : List Flight :=
  tasks.mapIdx fun index task => ⟨issued + index, task⟩

/-- The tasks of the actions set off. -/
def launch (world : World) (app : App) (actions : List Action) : World :=
  { app
    flights := world.flights ++ numbered world.issued (tasks actions)
    issued := world.issued + (tasks actions).length }

/-- A step with the actions that it asks for. -/
def act (world : World) (label : Label) : Option (World × List Action) :=
  (world.delivers label).map fun input =>
    match label with
    | .input _ discovered =>
      let (app, actions) := world.app.update discovered input
      (world.launch app actions, actions)
    | .finish index _ =>
      let (app, actions) := world.app.update [] input
      ({ world with flights := world.flights.eraseIdx index }.launch app actions, actions)

end World

/-- The program as it starts, with its first task. -/
def App.new (account : Option Account) (sessions : List Session) : App × List Action :=
  let selectedSession := sessions.head?
  let app : App :=
    { username := (account.map Account.username).getD ""
      displayName := (account.map Account.displayName).getD "Select a user"
      accounts := account.toList
      focusTarget := none
      focusBeforeModal := none
      conversation := .new
      sessionMessage := if selectedSession.isNone then some "No valid Wayland sessions are installed" else none
      powerMessage := none
      powerMessageIsError := false
      phase :=
        if selectedSession.isNone then .failed
        else if account.isSome then .creatingSession
        else .discoveringUsers
      client := none
      sessions := sessions
      selectedSession := selectedSession
      sessionMenuOpen := false
      powerState := .idle
      selectionSessionCancelled := false
      closing := none }
  if selectedSession.isNone then (app.focusFirst, [])
  else if account.isSome then (app, [.perform (.begin app.username app.conversation.attempt true)])
  else (app, [.perform .discoverAccounts])

def World.Starts (world : World) : Prop :=
  ∃ account sessions, world =
    { app := (App.new account sessions).1
      flights := World.numbered 0 (World.tasks (App.new account sessions).2)
      issued := (World.tasks (App.new account sessions).2).length }

def greeterSystem : TransitionSystem World Label :=
  .ofPartial World.Starts fun world label => (world.act label).map (·.1)

end Genkan.Greeter
