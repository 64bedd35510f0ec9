import Genkan.Conversation

/-! # The state of the greeter

The fields of `App` that decide about the conversation with greetd and about the end of the program,
with the messages that it receives and the tasks that it hands to the runtime.  What only the view
reads (the wallpaper, the clock, the layout) is left out, as is the preview.
-/

namespace Genkan.Greeter

/-! ## Accounts and sessions -/

/-- An account has a name, which is checked both where it is configured and where it is discovered. -/
structure Account where
  username : String
  displayName : String
  lastLogin : Option Int
  named : username ≠ ""
  deriving DecidableEq

def preferredAccount (accounts : List Account) : Option Account :=
  if accounts.length = 1 then accounts.head?
  else if accounts.any fun account => account.lastLogin.isNone then none
  else
    match (accounts.filterMap Account.lastLogin).max? with
    | none => none
    | some latest =>
      match accounts.filter fun account => account.lastLogin == some latest with
      | [account] => some account
      | _ => none

structure Session where
  name : String
  command : List String
  sessionId : String
  desktopNames : List String
  deriving DecidableEq, Repr

def Session.environment (session : Session) : List String :=
  ["XDG_SESSION_TYPE=wayland", "XDG_SESSION_DESKTOP=" ++ session.sessionId] ++
    if session.desktopNames.isEmpty then []
    else ["XDG_CURRENT_DESKTOP=" ++ ":".intercalate session.desktopNames]

/-! ## greetd -/

/-- A connection, known by the serial number of the task that opened it. -/
structure Client where
  serial : Nat
  deriving DecidableEq, Repr

namespace Auth

inductive Request where
  | postAuthMessageResponse (response : Option String)
  | startSession (cmd env : List String)
  deriving DecidableEq, Repr

inductive Response where
  | success
  | error (authentication : Bool) (description : String)
  | prompt (secret : Bool) (message : String)
  | message (error : Bool) (message : String)
  deriving DecidableEq, Repr

end Auth

/-! ## The program -/

inductive Phase where
  | failed
  | discoveringUsers
  | cancellingForUserSelection
  | selectingUser
  | userSelectionCancellationFailed
  | creatingSession
  | waitingForInput
  | authenticating
  | startingSession
  deriving DecidableEq, Repr

/-- A window is known by its number. -/
inductive Closing where
  | waitingForClient (window : Nat)
  | waitingForUserSelectionCancellation (window : Nat)
  | cancelling (window : Nat)
  | dispatching (window : Nat)
  deriving DecidableEq, Repr

def Closing.isCleaning (closing : Closing) (window : Nat) : Bool :=
  match closing with
  | waitingForClient id | waitingForUserSelectionCancellation id | cancelling id => id == window
  | dispatching _ => false

inductive PowerAction where
  | suspend
  | reboot
  | powerOff
  deriving DecidableEq, Repr

inductive PowerState where
  | idle
  | confirming (action : PowerAction)
  | executing (action : PowerAction)
  deriving DecidableEq, Repr

inductive Target where
  | account (index : Nat)
  | retryAccountSelection
  | authenticationInput
  | submit
  | retryAuthentication
  | changeUser
  | session
  | retrySession
  | power (action : PowerAction)
  | dialogCancel
  | dialogConfirm
  deriving DecidableEq, Repr

inductive Navigation where
  | next
  | previous
  | directionNext
  | directionPrevious
  | activate
  deriving DecidableEq, Repr

structure App where
  username : String
  displayName : String
  accounts : List Account
  focusTarget : Option Target
  focusBeforeModal : Option Target
  conversation : Conversation
  sessionMessage : Option String
  powerMessage : Option String
  powerMessageIsError : Bool
  phase : Phase
  client : Option Client
  sessions : List Session
  selectedSession : Option Session
  sessionMenuOpen : Bool
  powerState : PowerState
  selectionSessionCancelled : Bool
  closing : Option Closing

/-! ## Messages and tasks -/

/-- The messages that `update` handles itself. -/
inductive Message where
  | tick
  | wallpaperFrameReady
  | wallpaperAllocated
  | rendererInformation
  | inputChanged (value : String)
  | submit
  | retry
  | retrySession
  | authResult (attempt : Attempt) (result : Except String (Option Client × Auth.Response))
  | accountsResult (result : Except String (List Account))
  | changeUser
  | userSelectionCancelled (attempt : Attempt) (result : Except String Unit)
  | userSelectionCancellationSlow (attempt : Attempt)
  | retryUserSelectionCancellation
  | selectAccount (account : Account)
  | syncWidgetFocus
  /-- Tells whether the authentication input is the focused widget. -/
  | widgetFocused (input : Bool)
  | navigatePage
  | selectSession (session : Session)
  | sessionMenuOpened
  | sessionMenuClosed
  | outputLayoutChanged
  | windowResized
  | askPower (action : PowerAction)
  | cancelPower
  | confirmPower (action : PowerAction)
  | powerResult (result : Except String Unit)
  | closeRequested (window : Nat)
  | sessionCancelled (window : Nat)
  | closeTimeout (window : Nat)

/-- The other messages are keys, which may send a message of the first kind on. -/
inductive Input where
  | message (message : Message)
  | navigateFocus (navigation : Navigation)
  | navigateModal (navigation : Navigation)
  | escape

/-- The asynchronous tasks, each of which ends with a message. -/
inductive Task where
  | begin (username : String) (attempt : Attempt) (recover : Bool)
  | restart (client : Option Client) (username : String) (attempt : Attempt)
  | exchange (client : Client) (request : Auth.Request) (attempt : Attempt)
  | cancelForClose (client : Option Client) (window : Nat)
  | cancelForUserSelection (client : Option Client) (attempt : Attempt)
  | userSelectionCancellationSlow (attempt : Attempt)
  | closeTimeout (window : Nat)
  | discoverAccounts
  | executePower (action : PowerAction)
  deriving DecidableEq, Repr

/-- What `update` asks of the runtime, besides moving the focus of the widgets. -/
inductive Action where
  | perform (task : Task)
  | close (window : Nat)
  | exit
  deriving DecidableEq, Repr

namespace App

/-! ## What may be done -/

def isConfirming (app : App) : Bool :=
  match app.powerState with
  | .confirming _ => true
  | _ => false

def canRequestPower (app : App) : Bool :=
  app.closing.isNone && app.powerState == .idle &&
    match app.phase with
    | .waitingForInput | .failed | .selectingUser | .userSelectionCancellationFailed => true
    | _ => false

def canChangeUser (app : App) : Bool :=
  app.closing.isNone && app.powerState == .idle && decide (1 < app.accounts.length) &&
    match app.phase with
    | .waitingForInput | .failed => true
    | _ => false

def canSelectSession (app : App) : Bool :=
  app.closing.isNone && app.powerState == .idle && app.selectedSession.isSome &&
    match app.phase with
    | .authenticating | .startingSession => false
    | _ => true

def canSelectAccount (app : App) : Bool :=
  app.closing.isNone && app.powerState == .idle && app.phase == .selectingUser

/-- Once the window is to close, only what is waited for gets through. -/
def closingAllows (app : App) : Input → Bool
  | .message message =>
    match app.closing, message with
    | none, _ => true
    | some (.waitingForClient _), .authResult _ _ => true
    | some (.waitingForClient _), .sessionCancelled _ => true
    | some (.waitingForClient _), .closeTimeout _ => true
    | some (.waitingForUserSelectionCancellation _), .userSelectionCancelled _ _ => true
    | some (.waitingForUserSelectionCancellation _), .closeTimeout _ => true
    | some (.cancelling _), .sessionCancelled _ => true
    | some (.cancelling _), .closeTimeout _ => true
    | some _, _ => false
  | .navigateFocus _ | .navigateModal _ | .escape => app.closing.isNone

/-- The dialog of a power action holds back what does not concern it. -/
def powerAllows (app : App) : Input → Bool
  | .message message =>
    match app.powerState, message with
    | .idle, _ => true
    | _, .tick | _, .wallpaperFrameReady | _, .wallpaperAllocated | _, .rendererInformation
    | _, .outputLayoutChanged | _, .authResult _ _ | _, .accountsResult _ | _, .closeRequested _
    | _, .sessionCancelled _ | _, .closeTimeout _ => true
    | .confirming _, .cancelPower => true
    | .confirming expected, .confirmPower actual => expected == actual
    | .executing _, .powerResult _ => true
    | _, _ => false
  | .navigateFocus _ => app.powerState == .idle
  | .navigateModal _ | .escape => app.powerState == .idle || app.isConfirming

def allows (app : App) (input : Input) : Bool := app.closingAllows input && app.powerAllows input

end App

end Genkan.Greeter
