import Genkan.Foundations.Interaction
import Genkan.Greeter.Update

/-! # Talking to greetd

The tasks that talk to greetd as programs that connect, exchange a request for an answer, and go on with
it.  Which request may come next is said by the protocol: an answer is posted only to what asks for one,
a session is started once and only after a success, nothing follows a cancellation, and a session is
created only when none can be left from before.
-/

namespace Genkan.Greeter

open Foundations

/-! ## Requests and answers on the wire -/

namespace Ipc

inductive AuthMessageType where
  | visible
  | secret
  | info
  | error
  deriving DecidableEq, Repr

inductive ErrorType where
  | authError
  | error
  deriving DecidableEq, Repr

inductive Request where
  | createSession (username : String)
  | postAuthMessageResponse (response : Option String)
  | startSession (cmd env : List String)
  | cancelSession
  deriving DecidableEq, Repr

inductive Response where
  | success
  | error (errorType : ErrorType) (description : String)
  | authMessage (messageType : AuthMessageType) (message : String)
  deriving DecidableEq, Repr

end Ipc

def Auth.Request.toGreetd : Auth.Request → Ipc.Request
  | .postAuthMessageResponse response => .postAuthMessageResponse response
  | .startSession cmd env => .startSession cmd env

def Auth.Response.ofGreetd : Ipc.Response → Auth.Response
  | .success => .success
  | .error errorType description => .error (errorType == .authError) description
  | .authMessage .visible text => .prompt false text
  | .authMessage .secret text => .prompt true text
  | .authMessage .info text => .message false text
  | .authMessage .error text => .message true text

/-! ## Programs -/

inductive AuthError where
  | missingSocket
  | io (error : String)
  | protocol (error : String)
  | cancellationRejected (description : String)
  | unexpectedCancellationResponse
  deriving DecidableEq, Repr

def AuthError.toString : AuthError → String
  | missingSocket => "GREETD_SOCK is not set; genkan must be launched by greetd"
  | io error => "could not communicate with greetd: " ++ error
  | protocol error => "invalid greetd message: " ++ error
  | cancellationRejected description => "greetd rejected session cancellation: " ++ description
  | unexpectedCancellationResponse => "greetd returned an unexpected response to session cancellation"

/-- A connection is kept as that of the session, or opened by a task in passing to cancel what is left. -/
inductive Link where
  | kept (client : Client)
  | passing (serial : Nat)
  deriving DecidableEq, Repr

inductive Command where
  | connect (socket : String) (link : Link)
  | exchange (link : Link) (request : Ipc.Request)
  deriving DecidableEq, Repr

/-- What the operating system and greetd answer; an error comes as its text. -/
def Command.Answer : Command → Type
  | .connect _ _ => Except String Unit
  | .exchange _ _ => Except String Ipc.Response

abbrev Talk := Interaction Command.Answer

def connectTo (socket : String) (link : Link) : Talk (Except AuthError Link) :=
  .ask (.connect socket link) fun (result : Except String Unit) =>
    .done ((result.mapError .io).map fun _ => link)

def Link.exchange (link : Link) (request : Ipc.Request) : Talk (Except AuthError Auth.Response) :=
  .ask (.exchange link request) fun (answer : Except String Ipc.Response) =>
    .done ((answer.mapError .protocol).map Auth.Response.ofGreetd)

/-- The socket is that of `GREETD_SOCK`. -/
def connect (socket : Option String) (link : Link) : Talk (Except AuthError Link) :=
  match socket with
  | none => pure (.error .missingSocket)
  | some socket => connectTo socket link

def beginAt (serial : Nat) (socket username : String) : Talk (Except AuthError (Client × Auth.Response)) := do
  match ← connectTo socket (.kept ⟨serial⟩) with
  | .error error => pure (.error error)
  | .ok link =>
    let response ← link.exchange (.createSession username)
    pure (response.map fun response => (⟨serial⟩, response))

/-- What comes of the cancellation is of no account. -/
def recover (serial : Nat) (socket : String) : Talk Unit := do
  match ← connectTo socket (.passing serial) with
  | .error _ => pure ()
  | .ok link =>
    let _ ← link.exchange .cancelSession
    pure ()

def recoverAndBeginAt (serial : Nat) (socket username : String) :
    Talk (Except AuthError (Client × Auth.Response)) := do
  recover serial socket
  beginAt serial socket username

def cancelOver (link : Link) : Talk (Except AuthError Unit) := do
  match ← link.exchange .cancelSession with
  | .error error => pure (.error error)
  | .ok .success => pure (.ok ())
  | .ok (.error _ description) => pure (.error (.cancellationRejected description))
  | .ok (.prompt _ _) | .ok (.message _ _) => pure (.error .unexpectedCancellationResponse)

def cancel (serial : Nat) (socket : Option String) (client : Option Client) : Talk (Except AuthError Unit) := do
  let connected ←
    match client with
    | some client => pure (.ok (.kept client))
    | none => connect socket (.passing serial)
  match connected with
  | .error error => pure (.error error)
  | .ok link => cancelOver link

def restartAt (serial : Nat) (client : Option Client) (socket username : String) :
    Talk (Except AuthError (Client × Auth.Response)) := do
  let cancelled ←
    match client with
    | some client =>
      let result ← cancel serial (some socket) (some client)
      pure result.isOk
    | none => pure false
  if cancelled then beginAt serial socket username else recoverAndBeginAt serial socket username

/-- Nothing is done when the socket is not known, not even a cancellation. -/
def withSocket (socket : Option String) (talk : String → Talk (Except AuthError (Client × Auth.Response))) :
    Talk (Except AuthError (Client × Auth.Response)) :=
  match socket with
  | none => pure (.error .missingSocket)
  | some socket => talk socket

def begin (serial : Nat) (socket : Option String) (username : String) :
    Talk (Except AuthError (Client × Auth.Response)) :=
  withSocket socket fun socket => beginAt serial socket username

def recoverAndBegin (serial : Nat) (socket : Option String) (username : String) :
    Talk (Except AuthError (Client × Auth.Response)) :=
  withSocket socket fun socket => recoverAndBeginAt serial socket username

def restart (serial : Nat) (socket : Option String) (client : Option Client) (username : String) :
    Talk (Except AuthError (Client × Auth.Response)) :=
  withSocket socket fun socket => restartAt serial client socket username

/-- A task that talks to greetd, and how it ends. -/
def Task.talk (serial : Nat) (socket : Option String) : Task → Option (Talk Outcome)
  | .begin username _ recover => some do
    let result ← if recover then recoverAndBegin serial socket username else Greeter.begin serial socket username
    pure (.answered ((result.mapError AuthError.toString).map Prod.snd))
  | .restart client username _ => some do
    let result ← Greeter.restart serial socket client username
    pure (.answered ((result.mapError AuthError.toString).map Prod.snd))
  | .exchange client request _ => some do
    let result ← (Link.kept client).exchange request.toGreetd
    pure (.answered (result.mapError AuthError.toString))
  | .cancelForClose client _ | .cancelForUserSelection client _ => some do
    let result ← cancel serial socket client
    pure (.cancelled (result.mapError AuthError.toString))
  | .userSelectionCancellationSlow _ | .closeTimeout _ | .discoverAccounts | .executePower _ => none

def Task.talks : Task → Bool
  | .begin _ _ _ | .restart _ _ _ | .exchange _ _ _ | .cancelForClose _ _ | .cancelForUserSelection _ _ => true
  | .userSelectionCancellationSlow _ | .closeTimeout _ | .discoverAccounts | .executePower _ => false

theorem Task.talk_isSome (task : Task) (serial : Nat) (socket : Option String) :
    (task.talk serial socket).isSome = task.talks := by
  cases task <;> rfl

/-! ## The protocol -/

/-- What a connection has been used for: its last exchange. -/
inductive Wire where
  | unopened
  | opened
  | exchanged (request : Ipc.Request) (answer : Except String Ipc.Response)

def Wire.allows : Wire → Ipc.Request → Bool
  | .unopened, _ | .exchanged .cancelSession _, _ => false
  | _, .cancelSession => true
  | .opened, .createSession _ => true
  | .exchanged _ (.ok (.authMessage .visible _)), .postAuthMessageResponse (some _)
  | .exchanged _ (.ok (.authMessage .secret _)), .postAuthMessageResponse (some _)
  | .exchanged _ (.ok (.authMessage .info _)), .postAuthMessageResponse none
  | .exchanged _ (.ok (.authMessage .error _)), .postAuthMessageResponse none => true
  | .exchanged (.startSession _ _) _, .startSession _ _ => false
  | .exchanged _ (.ok .success), .startSession _ _ => true
  | _, _ => false

/-- What is known about a session that may be left in greetd since the last one was created: nothing, that a
task could not reach greetd or got no consent, or that greetd has cancelled it. -/
inductive Clearing where
  | unknown
  | tried (serial : Nat)
  | confirmed
  deriving DecidableEq, Repr

def Clearing.attempt (clearing : Clearing) (serial : Nat) : Clearing :=
  match clearing with
  | .confirmed => .confirmed
  | _ => .tried serial

/-- A task may create a session after it has tried itself, or after a cancellation that greetd confirmed. -/
def Clearing.permits (clearing : Clearing) (serial : Nat) : Bool :=
  clearing == .confirmed || clearing == .tried serial

structure Lines where
  wire : Link → Wire
  clearing : Clearing

namespace Lines

def connected (lines : Lines) (serial : Nat) (link : Link) (result : Except String Unit) : Lines :=
  match result with
  | .ok _ => { lines with wire := Function.update lines.wire link .opened }
  | .error _ => { lines with clearing := lines.clearing.attempt serial }

def exchanged (lines : Lines) (serial : Nat) (link : Link) (request : Ipc.Request)
    (answer : Except String Ipc.Response) : Lines where
  wire := Function.update lines.wire link (.exchanged request answer)
  clearing :=
    match request with
    | .createSession _ => .unknown
    | .cancelSession =>
      match answer with
      | .ok .success => .confirmed
      | _ => lines.clearing.attempt serial
    | .postAuthMessageResponse _ | .startSession _ _ => lines.clearing

/-- A session is created for the account only, on a connection of its own, once the way is clear. -/
def allows (lines : Lines) (serial : Nat) (account : String) (link : Link) (request : Ipc.Request) : Bool :=
  (lines.wire link).allows request &&
    match request with
    | .createSession username => username == account && lines.clearing.permits serial
    | _ => true

end Lines

def conduct (serial : Nat) (account : String) : Protocol Command Command.Answer Lines where
  allows lines
    | .connect _ _ => True
    | .exchange link request => lines.allows serial account link request = true
  advance lines
    | .connect _ link, result => lines.connected serial link result
    | .exchange link request, answer => lines.exchanged serial link request answer

/-! ## The tasks keep to it -/

/-- The session has been created on the connection that the task keeps. -/
def Began (serial : Nat) (username : String) (response : Auth.Response) (lines : Lines) : Prop :=
  ∃ answer, lines.wire (.kept ⟨serial⟩) = .exchanged (.createSession username) (.ok answer) ∧
    Auth.Response.ofGreetd answer = response

/-- A connection that may still cancel. -/
def Lines.Cancellable (lines : Lines) (client : Option Client) : Prop :=
  ∀ held, client = some held → (lines.wire (.kept held)).allows .cancelSession = true

/-- What a task rests on when it is set off. -/
def Task.Starts (account : String) (lines : Lines) : Task → Prop
  | .begin username _ recover => username = account ∧ (recover = false → lines.clearing = .confirmed)
  | .restart client username _ => username = account ∧ lines.Cancellable client
  | .exchange client request _ => (lines.wire (.kept client)).allows request.toGreetd = true
  | .cancelForClose client _ | .cancelForUserSelection client _ => lines.Cancellable client
  | .userSelectionCancellationSlow _ | .closeTimeout _ | .discoverAccounts | .executePower _ => True

/-- What the end of a task tells about the connections. -/
def Task.Concludes (serial : Nat) (task : Task) (outcome : Outcome) (lines : Lines) : Prop :=
  match task, outcome with
  | .begin username _ _, .answered (.ok response)
  | .restart _ username _, .answered (.ok response) => Began serial username response lines
  | .exchange client request _, .answered (.ok response) =>
    ∃ answer, lines.wire (.kept client) = .exchanged request.toGreetd (.ok answer) ∧
      Auth.Response.ofGreetd answer = response
  | .cancelForUserSelection _ _, .cancelled (.ok ()) => lines.clearing = .confirmed
  | _, _ => True

section

variable {serial : Nat} {account : String} {lines : Lines}

theorem follows_connectTo {socket : String} {link : Link} {ends : Except AuthError Link → Lines → Prop} :
    (connectTo socket link).Follows (conduct serial account) ends lines ↔
      ∀ result : Except String Unit,
        ends ((result.mapError .io).map fun _ => link) (lines.connected serial link result) := by
  constructor
  · intro follows
    exact follows.2
  · intro each
    exact ⟨trivial, each⟩

theorem follows_exchange {link : Link} {request : Ipc.Request}
    {ends : Except AuthError Auth.Response → Lines → Prop} :
    (link.exchange request).Follows (conduct serial account) ends lines ↔
      lines.allows serial account link request = true ∧ ∀ answer : Except String Ipc.Response,
        ends ((answer.mapError .protocol).map Auth.Response.ofGreetd)
          (lines.exchanged serial link request answer) := Iff.rfl

theorem Clearing.permits_attempt (clearing : Clearing) (serial : Nat) :
    (clearing.attempt serial).permits serial = true := by
  cases clearing <;> simp [attempt, permits]

theorem beginAt_follows (socket : String) (permitted : lines.clearing.permits serial = true) :
    (beginAt serial socket account).Follows (conduct serial account)
      (fun result after => ∀ client response, result = .ok (client, response) →
        client = ⟨serial⟩ ∧ Began serial account response after) lines := by
  rw [beginAt, Interaction.follows_bind, follows_connectTo]
  intro result
  cases result with
  | error error =>
    intro client response began
    contradiction
  | ok _ =>
    simp only [Except.mapError, Except.map, Interaction.follows_bind, follows_exchange]
    refine ⟨by simp [Lines.allows, Lines.connected, Wire.allows, permitted], ?_⟩
    intro answer client response began
    cases answer with
    | error error => contradiction
    | ok answer =>
      cases began
      exact ⟨rfl, answer, by simp [Lines.exchanged], rfl⟩

/-- A task that has tried to clear the way may go on, whatever came of it. -/
theorem recover_follows (socket : String) :
    (recover serial socket).Follows (conduct serial account)
      (fun _ after => after.clearing.permits serial = true) lines := by
  rw [recover, Interaction.follows_bind, follows_connectTo]
  intro result
  cases result with
  | error error => exact lines.clearing.permits_attempt serial
  | ok _ =>
    simp only [Except.mapError, Except.map, Interaction.follows_bind, follows_exchange]
    refine ⟨by simp [Lines.allows, Lines.connected, Wire.allows], ?_⟩
    intro answer
    rw [Interaction.follows_pure]
    simp only [Lines.exchanged]
    split
    next => rfl
    next => exact Clearing.permits_attempt _ serial

theorem recoverAndBeginAt_follows (socket : String) :
    (recoverAndBeginAt serial socket account).Follows (conduct serial account)
      (fun result after => ∀ client response, result = .ok (client, response) →
        client = ⟨serial⟩ ∧ Began serial account response after) lines :=
  (recover_follows socket).bind fun _ _ permitted => beginAt_follows socket permitted

theorem cancel_follows {client : Option Client} (socket : Option String) (cancellable : lines.Cancellable client) :
    (cancel serial socket client).Follows (conduct serial account)
      (fun result after => result = .ok () → after.clearing = .confirmed) lines := by
  have exchanges {link : Link} {before : Lines}
      (allowed : (before.wire link).allows .cancelSession = true) :
      (cancelOver link).Follows (conduct serial account)
        (fun result after => result = .ok () → after.clearing = .confirmed) before := by
    rw [cancelOver, Interaction.follows_bind, follows_exchange]
    refine ⟨by simp [Lines.allows, allowed], ?_⟩
    intro answer
    match answer with
    | .ok .success => exact fun _ => rfl
    | .error _ | .ok (.error _ _) | .ok (.authMessage .visible _) | .ok (.authMessage .secret _)
    | .ok (.authMessage .info _) | .ok (.authMessage .error _) => exact fun cancelled => by contradiction
  cases client with
  | some client => exact exchanges (cancellable client rfl)
  | none =>
    cases socket with
    | none => exact fun cancelled => by contradiction
    | some socket =>
      refine Interaction.follows_bind.mpr (follows_connectTo.mpr ?_)
      intro result
      cases result with
      | error error => exact fun cancelled => by contradiction
      | ok _ => exact exchanges (by simp [Lines.connected, Wire.allows])

theorem restartAt_follows {client : Option Client} (socket : String) (cancellable : lines.Cancellable client) :
    (restartAt serial client socket account).Follows (conduct serial account)
      (fun result after => ∀ client response, result = .ok (client, response) →
        client = ⟨serial⟩ ∧ Began serial account response after) lines := by
  cases client with
  | none => exact recoverAndBeginAt_follows socket
  | some client =>
    refine (cancel_follows (some socket) cancellable).bind ?_
    intro result after cancelled
    cases result with
    | error error => exact recoverAndBeginAt_follows socket
    | ok _ => exact beginAt_follows socket (by simp [Clearing.permits, cancelled rfl])

/-- A task that creates a session tells the answer alone: the connection is known by its serial number. -/
theorem created_follows {socket : Option String} {task : Task}
    {talk : String → Talk (Except AuthError (Client × Auth.Response))}
    (follows : ∀ socket, (talk socket).Follows (conduct serial account)
      (fun result after => ∀ client response, result = .ok (client, response) →
        client = ⟨serial⟩ ∧ Began serial account response after) lines)
    (concludes : ∀ response after, Began serial account response after →
      task.Concludes serial (.answered (.ok response)) after)
    (breaks : ∀ error after, task.Concludes serial (.answered (.error error)) after) :
    (do
      let result ← withSocket socket talk
      pure (.answered ((result.mapError AuthError.toString).map Prod.snd)) : Talk Outcome).Follows
        (conduct serial account) (task.Concludes serial) lines := by
  cases socket with
  | none => exact breaks _ lines
  | some socket =>
    refine (follows socket).bind ?_
    intro result after began
    cases result with
    | error error => exact breaks _ after
    | ok created => exact concludes _ after (began _ _ rfl).2

theorem Task.talk_follows {task : Task} {socket : Option String} {talk : Talk Outcome}
    (isTalk : task.talk serial socket = some talk) (starts : task.Starts account lines) :
    talk.Follows (conduct serial account) (task.Concludes serial) lines := by
  cases task with
  | begin username attempt recovers =>
    obtain ⟨isAccount, cleared⟩ := starts
    cases isTalk
    subst isAccount
    cases recovers with
    | false =>
      have permitted : lines.clearing.permits serial = true := by simp [Clearing.permits, cleared rfl]
      exact created_follows (fun socket => beginAt_follows socket permitted) (fun _ _ began => began)
        fun _ _ => trivial
    | true =>
      exact created_follows (fun socket => recoverAndBeginAt_follows socket) (fun _ _ began => began)
        fun _ _ => trivial
  | restart client username attempt =>
    obtain ⟨isAccount, cancellable⟩ := starts
    cases isTalk
    subst isAccount
    exact created_follows (fun socket => restartAt_follows socket cancellable) (fun _ _ began => began)
      fun _ _ => trivial
  | exchange client request attempt =>
    cases isTalk
    refine Interaction.follows_bind.mpr (follows_exchange.mpr ⟨?_, ?_⟩)
    · cases request <;> simpa [Lines.allows, Auth.Request.toGreetd, Task.Starts] using starts
    · intro answer
      cases answer with
      | error error => trivial
      | ok answer => exact ⟨answer, by simp [Lines.exchanged], rfl⟩
  | cancelForClose client window =>
    cases isTalk
    refine (cancel_follows socket starts).bind ?_
    intro result after _
    trivial
  | cancelForUserSelection client attempt =>
    cases isTalk
    refine (cancel_follows socket starts).bind ?_
    intro result after confirms
    cases result with
    | error error => trivial
    | ok _ => exact confirms rfl
  | userSelectionCancellationSlow | closeTimeout | discoverAccounts | executePower => contradiction

end

end Genkan.Greeter
