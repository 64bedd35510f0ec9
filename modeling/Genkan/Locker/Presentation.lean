import Genkan.Conversation
import Genkan.Locker.Client
import Genkan.SessionLock.Runtime

/-! # The lock screen's authentication

The functions of `LockerPresentation` that decide about authentication.  Rendering and the wallpaper
are left out.  The outcomes of writes and of starting a worker are arguments.
-/

namespace Genkan.Locker

open LockAuth SessionLock

def maxAuthEventsPerRefresh : Nat := 32

inductive StartError where
  | workerNotFound
  | spawn (message : String)
  | unexpectedWorker
  | protocol (error : ProtocolError)
  deriving DecidableEq, Repr

/-- What the operating system answers while one function runs. -/
structure Environment where
  write : Except ProtocolError Unit := .ok ()
  start : Except StartError Unit := .ok ()
  begin : Except ProtocolError Unit := .ok ()

/-- What has happened to other workers and to submitted texts, and whose success was the last one to
authorize; for statements about whole runs. -/
structure History where
  started : Nat
  retired : List Client
  submissions : List Submission
  credited : Option Origin

structure LockerPresentation where
  conversation : Conversation
  auth : Option (Attempt × Client)
  promptId : Option (Stamped UInt64)
  confirmed : Bool
  authorized : Bool
  instructionPage : UInt64
  history : History

def persistentPrompt (prompt : String) : Option String :=
  if prompt.toLower = "password" then none else some prompt

namespace LockerPresentation

/-- The presentation around the first worker. -/
def new : LockerPresentation where
  conversation := .new
  auth := some (Conversation.new.attempt, .new 0)
  promptId := none
  confirmed := false
  authorized := false
  instructionPage := 0
  history := { started := 1, retired := [], submissions := [], credited := none }

def failAuthentication (presentation : LockerPresentation) : LockerPresentation :=
  { presentation with
    conversation := presentation.conversation.fail "Authentication worker unavailable" }

/-! ## Events of the worker -/

def handleEvent (presentation : LockerPresentation) (attempt : Attempt) (event : Stamped Event) :
    LockerPresentation :=
  match event.value with
  | .prompt id secret text =>
    { presentation with
      promptId := some { value := id, origin := event.origin }
      conversation := (presentation.conversation.receive attempt (.prompt secret text)).1 }
  | .notice error text =>
    { presentation with
      conversation := (presentation.conversation.receive attempt (.notice error text)).1 }
  | .success =>
    let (conversation, effect) := presentation.conversation.receive attempt .success
    if effect = some .authenticated then
      { presentation with
        promptId := none
        conversation := conversation
        authorized := true
        history := { presentation.history with credited := some event.origin } }
    else { presentation with promptId := none, conversation := conversation }
  | .failure =>
    { presentation with
      promptId := none
      conversation := (presentation.conversation.receive attempt (.failure "Authentication failed")).1 }

/-- One round of the loop of `receive_auth`; nothing when the loop breaks. -/
def receiveEvent (presentation : LockerPresentation) : Option LockerPresentation :=
  match presentation.auth with
  | none => none
  | some (attempt, client) =>
    match client.tryReceive with
    | none => none
    | some (event, client) =>
      let presentation := { presentation with auth := some (attempt, client), instructionPage := 0 }
      if !presentation.conversation.accepts attempt then some presentation
      else some (presentation.handleEvent attempt event)

/-! ## Replacing the worker -/

def retire (presentation : LockerPresentation) (client : Client) : LockerPresentation :=
  { presentation with
    auth := none
    history := { presentation.history with retired := client.cancel :: presentation.history.retired } }

def dropWorker (presentation : LockerPresentation) : LockerPresentation :=
  match presentation.auth with
  | some (_, client) => presentation.retire client
  | none => presentation

def replaceWorker (presentation : LockerPresentation) (attempt : Attempt) (environment : Environment) :
    LockerPresentation :=
  let presentation := presentation.dropWorker
  match environment.start with
  | .error _ => presentation.failAuthentication
  | .ok () =>
    let replacement := Client.new presentation.history.started
    let presentation := { presentation with
      history := { presentation.history with started := presentation.history.started + 1 } }
    match replacement.begin presentation.confirmed environment.begin with
    | (replacement, .ok ()) => { presentation with auth := some (attempt, replacement) }
    | (replacement, .error _) => (presentation.retire replacement).failAuthentication

def retry (presentation : LockerPresentation) (environment : Environment) : LockerPresentation × Bool :=
  let (conversation, next) := presentation.conversation.beginAttempt
  let presentation := { presentation with instructionPage := 0, conversation := conversation }
  match presentation.auth with
  | some (_, client) =>
    match client.retry presentation.confirmed environment.write with
    | (client, .ok ()) => ({ presentation with auth := some (next, client), promptId := none }, true)
    | (_, .error _) => ({ presentation.replaceWorker next environment with promptId := none }, true)
  | none => ({ presentation.replaceWorker next environment with promptId := none }, true)

def cancelAttempt (presentation : LockerPresentation) (environment : Environment) :
    LockerPresentation × Bool :=
  match presentation.auth with
  | none => (presentation, false)
  | some (_, client) =>
    let (conversation, next) := presentation.conversation.beginAttempt
    let presentation := { presentation.retire client with
      conversation := conversation
      instructionPage := 0 }
    ({ presentation.replaceWorker next environment with promptId := none }, true)

/-! ## The interface of a presentation -/

def lockConfirmed (presentation : LockerPresentation) (environment : Environment) :
    LockerPresentation :=
  let presentation := { presentation with confirmed := true }
  match presentation.auth with
  | none => presentation.failAuthentication
  | some (attempt, client) =>
    match client.begin presentation.confirmed environment.write with
    | (client, .ok ()) => { presentation with auth := some (attempt, client) }
    | (_, .error _) => presentation.failAuthentication

/-- The submission that is made when the displayed prompt is answered with this text. -/
def submission (presentation : LockerPresentation) (prompt : Stamped UInt64) (text : String) :
    Submission where
  serial := presentation.history.submissions.length
  prompt := prompt
  text := text

def recordSubmission (presentation : LockerPresentation) (submission : Submission) :
    LockerPresentation :=
  { presentation with
    history := { presentation.history with
      submissions := submission :: presentation.history.submissions } }

def submit (presentation : LockerPresentation) (environment : Environment) : LockerPresentation × Bool :=
  match presentation.promptId with
  | none => (presentation, false)
  | some prompt =>
    let presentation := { presentation with promptId := none }
    match presentation.conversation.submit with
    | (_, none) => (presentation, false)
    | (conversation, some (attempt, response)) =>
      let submission := presentation.submission prompt response
      let presentation := { presentation with conversation := conversation }.recordSubmission submission
      match presentation.auth with
      | none => (presentation, false)
      | some (activeAttempt, client) =>
        if activeAttempt ≠ attempt then (presentation.failAuthentication, true)
        else
          match client.respond submission presentation.confirmed environment.write with
          | (client, .ok ()) => ({ presentation with auth := some (activeAttempt, client) }, true)
          | (_, .error _) => (presentation.failAuthentication, true)

def nextPage (presentation : LockerPresentation) : LockerPresentation × Bool :=
  if (persistentPrompt presentation.conversation.prompt).isNone ∧ presentation.conversation.message.isNone
  then (presentation, false)
  else ({ presentation with instructionPage := presentation.instructionPage + 1 }, true)

def input (presentation : LockerPresentation) (input : Input) (environment : Environment) :
    LockerPresentation × Bool :=
  if !presentation.confirmed then (presentation, false)
  else
    match input with
    | .text text =>
      let (conversation, changed) := presentation.conversation.pushInput text
      ({ presentation with conversation := conversation }, changed)
    | .backspace =>
      let (conversation, changed) := presentation.conversation.popInput
      ({ presentation with conversation := conversation }, changed)
    | .submit =>
      if presentation.conversation.status = .failed then presentation.retry environment
      else presentation.submit environment
    | .cancel => presentation.cancelAttempt environment
    | .nextPage => presentation.nextPage

def takeAuthorization (presentation : LockerPresentation) : LockerPresentation × Bool :=
  ({ presentation with authorized := false }, presentation.authorized)

end LockerPresentation

end Genkan.Locker
