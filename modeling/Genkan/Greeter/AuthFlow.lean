import Genkan.Greeter.Focus

/-! # The conversation with greetd

What an answer of greetd does: a prompt is shown, a message is acknowledged, and a success first starts
the selected session and then ends the greeter.
-/

namespace Genkan.Greeter

inductive AuthEffect where
  | prompt (secret : Bool) (message : String)
  | acknowledge (error : Bool) (message : String)
  | startSession (cmd env : List String)
  | exit
  | fail (message : String)
  deriving DecidableEq, Repr

/-- An answer of greetd as one of a backend. -/
def Auth.Response.conversed : Auth.Response → Genkan.Response
  | .prompt secret text => .prompt secret text
  | .message isError text => .notice isError text
  | .success => .success
  | .error true _ => .failure "Authentication failed"
  | .error false description => .failure description

def transition (conversation : Conversation) (phase : Phase) (attempt : Attempt) (response : Auth.Response)
    (session : Option Session) : Conversation × Option (Phase × AuthEffect) :=
  if !conversation.accepts attempt then (conversation, none)
  else if phase = .startingSession ∧ response = .success then (conversation, some (phase, .exit))
  else
    match conversation.receive attempt response.conversed with
    | (conversation, none) => (conversation, none)
    | (conversation, some .prompt) =>
      (conversation, some (.waitingForInput, .prompt conversation.secret conversation.prompt))
    | (conversation, some .notice) =>
      (conversation, some (phase, .acknowledge conversation.messageIsError (conversation.message.getD "")))
    | (conversation, some .authenticated) =>
      match session with
      | some session =>
        (conversation, some (.startingSession, .startSession session.command session.environment))
      | none => (conversation, some (.failed, .fail "No valid Wayland session is selected"))
    | (conversation, some .failed) => (conversation, some (.failed, .fail (conversation.message.getD "")))

namespace App

def fail (app : App) (message : String) : App × List Action :=
  ({ app with phase := .failed, conversation := app.conversation.fail message }.focusFirst, [])

def setAuthNotice (app : App) (message : String) (error : Bool) : App :=
  { app with conversation := app.conversation.setNotice message error }

/-- Without a connection nothing can be asked of greetd. -/
def exchange (app : App) (request : Auth.Request) : App × List Action :=
  match app.client with
  | none => app.fail "Lost connection to greetd"
  | some client => (app, [.perform (.exchange client request app.conversation.attempt)])

def handleAuthResponse (app : App) (response : Auth.Response) : App × List Action :=
  match transition app.conversation app.phase app.conversation.attempt response app.selectedSession with
  | (conversation, none) => ({ app with conversation }, [])
  | (conversation, some (phase, effect)) =>
    let app := { app with conversation, phase }
    match effect with
    | .prompt _ _ => (app.setFocus .authenticationInput, [])
    | .acknowledge error message => (app.setAuthNotice message error).exchange (.postAuthMessageResponse none)
    | .exit => (app, [.exit])
    | .startSession cmd env => app.exchange (.startSession cmd env)
    | .fail message => app.fail message

def handleAuthResult (app : App) (attempt : Attempt) (result : Except String (Option Client × Auth.Response)) :
    App × List Action :=
  if !app.conversation.accepts attempt then (app, [])
  else
    match app.closing with
    | some (.waitingForClient window) =>
      let client := result.toOption.bind (·.1)
      ({ app with conversation := app.conversation.invalidateAttempt, closing := some (.cancelling window) },
        [.perform (.cancelForClose client window)])
    | _ =>
      match result with
      | .ok (client, response) => { app with client := client.or app.client }.handleAuthResponse response
      | .error error => app.fail error

end App

end Genkan.Greeter
