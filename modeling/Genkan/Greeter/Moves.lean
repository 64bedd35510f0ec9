import Genkan.Greeter.Update

/-! # What an update does

Every update is one of a few moves of the fields that decide about greetd, and each move says when it
is taken and what it asks for.
-/

namespace Genkan.Greeter

open Foundations App

/-! ## Moves -/

/-- What an answer of greetd leads to, once its connection is kept. -/
inductive Answer (core : Core) (response : Auth.Response) : Core → List Action → Prop where
  | prompts {conversation : Conversation} (status : conversation.status = .waiting)
      (attempt : conversation.attempt = core.conversation.attempt) :
      Answer core response { core with phase := .waitingForInput, conversation } []
  | acknowledges {conversation : Conversation} {client : Client}
      (status : conversation.status = core.conversation.status)
      (attempt : conversation.attempt = core.conversation.attempt) (connected : core.client = some client) :
      Answer core response { core with conversation }
        [.perform (.exchange client (.postAuthMessageResponse none) conversation.attempt)]
  | starts {conversation : Conversation} {client : Client} {session : Session} (success : response = .success)
      (unstarted : core.phase ≠ .startingSession) (selected : core.selectedSession = some session)
      (status : conversation.status = .succeeded)
      (attempt : conversation.attempt = core.conversation.attempt) (connected : core.client = some client) :
      Answer core response { core with phase := .startingSession, conversation }
        [.perform (.exchange client (.startSession session.command session.environment) conversation.attempt)]
  | exits (success : response = .success) (started : core.phase = .startingSession) :
      Answer core response core [.exit]
  | fails {conversation : Conversation} (status : conversation.status = .failed)
      (attempt : conversation.attempt = core.conversation.attempt) :
      Answer core response { core with phase := .failed, conversation } []

inductive Move (core : Core) (input : Input) : Core → List Action → Prop where
  | kept {conversation : Conversation} {powerState : PowerState} {sessions : List Session}
      {actions : List Action} (status : conversation.status = core.conversation.status)
      (attempt : conversation.attempt = core.conversation.attempt)
      (quiet : ∀ action ∈ actions, ∃ power, action = .perform (.executePower power)) :
      Move core input { core with conversation, powerState, sessions } actions
  | selects {selectedSession : Option Session} (unclosed : core.closing = none)
      (selectable : core.phase ≠ .authenticating ∧ core.phase ≠ .startingSession) :
      Move core input { core with selectedSession } []
  | fails {conversation : Conversation} (unclosed : core.closing = none)
      (cause : core.conversation.status = .waiting ∨ ∃ result, input = .message (.accountsResult result))
      (status : conversation.status = .failed) (attempt : conversation.attempt = core.conversation.attempt) :
      Move core input { core with phase := .failed, conversation } []
  | lists {conversation : Conversation} {accounts : List Account} {result : Except String (List Account)}
      (unclosed : core.closing = none) (isInput : input = .message (.accountsResult result))
      (status : conversation.status = core.conversation.status)
      (attempt : conversation.attempt = core.conversation.attempt) :
      Move core input { core with accounts, phase := .selectingUser, conversation } []
  | begins {conversation : Conversation} {accounts : List Account} {username : String} {client : Option Client}
      {task : Task} (unclosed : core.closing = none)
      (cause : core.phase = .selectingUser ∨ ∃ result, input = .message (.accountsResult result))
      (named : username ≠ "") (begun : conversation.status = .submitting)
      (starts : core.username = "" ∧ client = core.client ∧
          (∃ recover, task = .begin username conversation.attempt recover) ∨
        core.username ≠ "" ∧ client = none ∧ task = .restart core.client username conversation.attempt) :
      Move core input
        { core with
          accounts, username, client, conversation, phase := .creatingSession, selectionSessionCancelled := false }
        [.perform task]
  | discovers {conversation : Conversation} {sessions : List Session} {selectedSession : Option Session}
      (unclosed : core.closing = none) (failed : core.phase = .failed) (nameless : core.username = "")
      (status : conversation.status = core.conversation.status)
      (attempt : conversation.attempt = core.conversation.attempt) :
      Move core input { core with sessions, selectedSession, phase := .discoveringUsers, conversation }
        [.perform .discoverAccounts]
  | restarts {conversation : Conversation} {sessions : List Session} {selectedSession : Option Session}
      (unclosed : core.closing = none) (failed : core.phase = .failed) (named : core.username ≠ "")
      (begun : conversation.status = .submitting) :
      Move core input
        { core with sessions, selectedSession, phase := .creatingSession, client := none, conversation }
        [.perform (.restart core.client core.username conversation.attempt)]
  | changes {conversation : Conversation} (unclosed : core.closing = none)
      (before : core.phase = .waitingForInput ∨ core.phase = .failed) (begun : conversation.status = .submitting) :
      Move core input
        { core with
          client := none
          username := ""
          selectionSessionCancelled := false
          phase := .cancellingForUserSelection
          conversation }
        (cancelForUserSelection core.client conversation.attempt)
  | deselects {conversation : Conversation} (unclosed : core.closing = none)
      (isInput : input = .message (.userSelectionCancelled core.conversation.attempt (.ok ())))
      (before : core.phase = .cancellingForUserSelection)
      (status : conversation.status = core.conversation.status)
      (attempt : conversation.attempt = core.conversation.attempt) :
      Move core input
        { core with phase := .selectingUser, selectionSessionCancelled := true, conversation } []
  | resists {conversation : Conversation} {error : String} (unclosed : core.closing = none)
      (isInput : input = .message (.userSelectionCancelled core.conversation.attempt (.error error)))
      (before : core.phase = .cancellingForUserSelection)
      (status : conversation.status = core.conversation.status)
      (attempt : conversation.attempt = core.conversation.attempt) :
      Move core input { core with phase := .userSelectionCancellationFailed, conversation } []
  | retries {conversation : Conversation} (unclosed : core.closing = none)
      (before : core.phase = .userSelectionCancellationFailed) (begun : conversation.status = .submitting) :
      Move core input { core with phase := .cancellingForUserSelection, conversation }
        (cancelForUserSelection none conversation.attempt)
  | submits {conversation : Conversation} {client : Client} {response : String} (unclosed : core.closing = none)
      (waiting : core.conversation.status = .waiting) (connected : core.client = some client)
      (status : conversation.status = .submitting)
      (attempt : conversation.attempt = core.conversation.attempt) :
      Move core input { core with conversation, phase := .authenticating }
        [.perform (.exchange client (.postAuthMessageResponse (some response)) conversation.attempt)]
  | answered {client : Option Client} {response : Auth.Response} {next : Core} {actions : List Action}
      (unclosed : core.closing = none)
      (isInput : input = .message (.authResult core.conversation.attempt (.ok (client, response))))
      (answers : Answer { core with client := client.or core.client } response next actions) :
      Move core input next actions
  | breaks {conversation : Conversation} {error : String} (unclosed : core.closing = none)
      (isInput : input = .message (.authResult core.conversation.attempt (.error error)))
      (status : conversation.status = .failed) (attempt : conversation.attempt = core.conversation.attempt) :
      Move core input { core with phase := .failed, conversation } []
  | abandons {conversation : Conversation} {result : Except String (Option Client × Auth.Response)} {window : Nat}
      (waits : core.closing = some (.waitingForClient window))
      (isInput : input = .message (.authResult core.conversation.attempt result))
      (status : conversation.status = core.conversation.status) :
      Move core input { core with conversation, closing := some (.cancelling window) }
        [.perform (.cancelForClose (result.toOption.bind (·.1)) window)]
  | closes {window : Nat} (unclosed : core.closing = none) (cancelled : core.selectionSessionCancelled = true) :
      Move core input { core with closing := some (.dispatching window) } [.close window]
  | awaitsSelection {window : Nat} (unclosed : core.closing = none)
      (before : core.phase = .cancellingForUserSelection) :
      Move core input { core with closing := some (.waitingForUserSelectionCancellation window) }
        [.perform (.closeTimeout window)]
  | awaitsClient {window : Nat} (unclosed : core.closing = none) (before : core.phase = .creatingSession)
      (unconnected : core.client = none) :
      Move core input { core with closing := some (.waitingForClient window) } [.perform (.closeTimeout window)]
  | cancels {conversation : Conversation} {window : Nat} (unclosed : core.closing = none)
      (created : core.client = none → core.phase ≠ .creatingSession)
      (status : conversation.status = core.conversation.status) :
      Move core input { core with conversation, client := none, closing := some (.cancelling window) }
        [.perform (.cancelForClose core.client window), .perform (.closeTimeout window)]
  | closesSelection {result : Except String Unit} {window : Nat}
      (waits : core.closing = some (.waitingForUserSelectionCancellation window))
      (isInput : input = .message (.userSelectionCancelled core.conversation.attempt result)) :
      Move core input { core with closing := some (.dispatching window) } [.close window]
  | closesSession {window : Nat}
      (waits : core.closing = some (.waitingForClient window) ∨ core.closing = some (.cancelling window))
      (isInput : input = .message (.sessionCancelled window)) :
      Move core input { core with closing := some (.dispatching window) } [.close window]
  | expires {conversation : Conversation} {closing : Closing} {window : Nat} (waits : core.closing = some closing)
      (cleaning : closing.isCleaning window = true) (isInput : input = .message (.closeTimeout window))
      (status : conversation.status = core.conversation.status) :
      Move core input { core with conversation, closing := some (.dispatching window) } [.close window]

theorem Move.idle (app : App) (input : Input) : Move app.core input app.core [] :=
  .kept rfl rfl (by simp)

namespace App

/-! ## Every update is a move -/

variable {app : App} {input : Input}

theorem fail_moves (message : String) (unclosed : app.closing = none)
    (cause : app.conversation.status = .waiting ∨ ∃ result, input = .message (.accountsResult result)) :
    Move app.core input (app.fail message).1.core (app.fail message).2 := by
  simp only [fail, focusFirst_core]
  exact .fails unclosed cause (app.conversation.fail_status message) (app.conversation.fail_attempt message)

theorem retryAuthentication_moves {sessions : List Session} {selectedSession : Option Session}
    {sessionMessage : Option String} (unclosed : app.closing = none) (failed : app.phase = .failed)
    (named : app.username ≠ "") :
    Move app.core input ({ app with sessions, selectedSession, sessionMessage }.retryAuthentication).1.core
      ({ app with sessions, selectedSession, sessionMessage }.retryAuthentication).2 :=
  .restarts unclosed failed named rfl

theorem discoverAccounts_moves {sessions : List Session} {selectedSession : Option Session}
    {sessionMessage : Option String} (unclosed : app.closing = none) (failed : app.phase = .failed)
    (nameless : app.username = "") :
    Move app.core input ({ app with sessions, selectedSession, sessionMessage }.discoverAccounts).1.core
      ({ app with sessions, selectedSession, sessionMessage }.discoverAccounts).2 :=
  .discovers unclosed failed nameless rfl rfl

theorem retry_moves (unclosed : app.closing = none) : Move app.core input app.retry.1.core app.retry.2 := by
  simp only [retry]
  split
  next failed =>
    split
    next nameless => exact discoverAccounts_moves unclosed failed nameless
    next named => exact retryAuthentication_moves unclosed failed named
  next => exact Move.idle app input

theorem retrySession_moves (discovered : List Session) (unclosed : app.closing = none) :
    Move app.core input (app.retrySession discovered).1.core (app.retrySession discovered).2 := by
  simp only [retrySession]
  split
  next missing =>
    obtain ⟨failed, unselected⟩ := missing
    split
    next still =>
      have same : discovered.head? = app.selectedSession := by
        rw [unselected]
        simpa using still
      rw [same]
      exact .kept rfl rfl (by simp)
    next =>
      split
      next nameless => exact discoverAccounts_moves unclosed failed nameless
      next named => exact retryAuthentication_moves unclosed failed named
  next => exact Move.idle app input

theorem selectAccount_moves {accounts : List Account} (account : Account) (unclosed : app.closing = none)
    (cause : app.phase = .selectingUser ∨ ∃ result, input = .message (.accountsResult result)) :
    Move app.core input ({ app with accounts }.selectAccount account).1.core
      ({ app with accounts }.selectAccount account).2 := by
  simp only [selectAccount]
  split
  next replaces =>
    have named : app.username ≠ "" := by simpa using replaces
    exact .begins unclosed cause account.named rfl (.inr ⟨named, rfl, rfl⟩)
  next fresh =>
    have nameless : app.username = "" := by simpa using fresh
    exact .begins unclosed cause account.named rfl (.inl ⟨nameless, rfl, _, rfl⟩)

theorem accountsResult_moves (result : Except String (List Account)) (unclosed : app.closing = none) :
    Move app.core (.message (.accountsResult result)) (app.accountsResult result).1.core
      (app.accountsResult result).2 := by
  cases result with
  | error error => exact fail_moves error unclosed (.inr ⟨_, rfl⟩)
  | ok accounts =>
    simp only [accountsResult]
    split
    next => exact fail_moves _ unclosed (.inr ⟨_, rfl⟩)
    next =>
      split
      next account _ => exact selectAccount_moves account unclosed (.inr ⟨_, rfl⟩)
      next =>
        simp only [setFocus_core]
        exact .lists unclosed rfl rfl rfl

theorem changeUser_moves (unclosed : app.closing = none)
    (before : app.phase = .waitingForInput ∨ app.phase = .failed) :
    Move app.core input app.changeUser.1.core app.changeUser.2 := by
  simp only [changeUser, focusFirst_core]
  exact .changes unclosed before rfl

theorem accepts_iff {conversation : Conversation} {attempt : Attempt} :
    conversation.accepts attempt = true ↔ attempt = conversation.attempt := by
  simp [Conversation.accepts]

theorem userSelectionCancelled_moves (attempt : Attempt) (result : Except String Unit)
    (gate : app.closing = none ∨ ∃ window, app.closing = some (.waitingForUserSelectionCancellation window)) :
    Move app.core (.message (.userSelectionCancelled attempt result))
      (app.userSelectionCancelled attempt result).1.core (app.userSelectionCancelled attempt result).2 := by
  simp only [userSelectionCancelled]
  split
  next accepted =>
    cases accepts_iff.mp accepted
    split
    next window waits => exact .closesSelection waits rfl
    next other =>
      have unclosed : app.closing = none := by
        cases gate with
        | inl unclosed => exact unclosed
        | inr waits => exact absurd waits.choose_spec (other _)
      split
      next before =>
        cases result with
        | ok _ =>
          simp only [setFocus_core]
          exact .deselects unclosed rfl before rfl rfl
        | error error =>
          simp only [setFocus_core]
          exact .resists unclosed rfl before rfl rfl
      next => exact Move.idle app _
  next => exact Move.idle app _

theorem userSelectionCancellationSlow_moves (attempt : Attempt) :
    Move app.core input (app.userSelectionCancellationSlow attempt).1.core
      (app.userSelectionCancellationSlow attempt).2 := by
  simp only [userSelectionCancellationSlow]
  split
  next => exact .kept rfl rfl (by simp)
  next => exact Move.idle app input

theorem retryUserSelectionCancellation_moves (unclosed : app.closing = none) :
    Move app.core input app.retryUserSelectionCancellation.1.core app.retryUserSelectionCancellation.2 := by
  simp only [retryUserSelectionCancellation]
  split
  next before =>
    simp only [focusFirst_core]
    exact .retries unclosed before rfl
  next => exact Move.idle app input

theorem submit_moves (unclosed : app.closing = none) : Move app.core input app.submit.1.core app.submit.2 := by
  simp only [submit]
  split
  next waiting =>
    split
    next => exact fail_moves _ unclosed (.inl waiting)
    next client connected =>
      simp only [Conversation.submit, waiting, ne_eq, not_true_eq_false, if_false]
      exact .submits unclosed waiting connected rfl rfl
  next => exact Move.idle app input

/-! ### Power -/

theorem askPower_moves (action : PowerAction) :
    Move app.core input (app.askPower action).1.core (app.askPower action).2 := by
  simp only [askPower]
  split
  next =>
    simp only [enterPowerDialog_core]
    exact .kept rfl rfl (by simp)
  next => exact Move.idle app input

theorem cancelPower_moves : Move app.core input app.cancelPower.1.core app.cancelPower.2 := by
  simp only [cancelPower]
  split
  next =>
    simp only [leavePowerDialog_core]
    exact .kept rfl rfl (by simp)
  next => exact Move.idle app input

theorem confirmPower_moves (action : PowerAction) :
    Move app.core input (app.confirmPower action).1.core (app.confirmPower action).2 := by
  simp only [confirmPower]
  split
  next => exact .kept rfl rfl (by simp)
  next => exact Move.idle app input

theorem powerResult_moves (result : Except String Unit) :
    Move app.core input (app.powerResult result).1.core (app.powerResult result).2 := by
  cases result with
  | ok _ =>
    simp only [powerResult]
    split
    next =>
      simp only [leavePowerDialog_core]
      exact .kept rfl rfl (by simp)
    next => exact Move.idle app input
  | error error =>
    simp only [powerResult, leavePowerDialog_core]
    exact .kept rfl rfl (by simp)

/-! ### Answers of greetd -/

theorem exchange_cases (app : App) (request : Auth.Request) :
    (∃ client, app.client = some client ∧
      app.exchange request = (app, [.perform (.exchange client request app.conversation.attempt)])) ∨
    app.client = none ∧ app.exchange request = app.fail "Lost connection to greetd" := by
  simp only [exchange]
  cases isClient : app.client with
  | none => exact .inr ⟨rfl, rfl⟩
  | some client => exact .inl ⟨client, rfl, rfl⟩

theorem fail_answers (app : App) (phase : Phase) (conversation : Conversation) (response : Auth.Response)
    (message : String) (attempt : conversation.attempt = app.conversation.attempt) :
    Answer app.core response ({ app with phase, conversation }.fail message).1.core
      ({ app with phase, conversation }.fail message).2 := by
  simp only [fail, focusFirst_core]
  exact .fails (conversation.fail_status message) ((conversation.fail_attempt message).trans attempt)

/-- What an accepted answer makes of the conversation. -/
theorem receive_conversed (conversation : Conversation) (response : Auth.Response) :
    ∃ received effect, conversation.receive conversation.attempt response.conversed = (received, some effect) ∧
      received.attempt = conversation.attempt ∧
      (effect = .prompt ∧ received.status = .waiting ∨ effect = .notice ∧ received.status = conversation.status ∨
        effect = .authenticated ∧ received.status = .succeeded ∧ response = .success ∨ effect = .failed) := by
  have accepts : conversation.accepts conversation.attempt = true := accepts_iff.mpr rfl
  cases response with
  | success =>
    simp only [Auth.Response.conversed, Conversation.receive, accepts, Bool.not_true, Bool.false_eq_true, if_false]
    exact ⟨_, _, rfl, rfl, .inr (.inr (.inl ⟨rfl, rfl, trivial⟩))⟩
  | error authentication description =>
    cases authentication <;>
      simp only [Auth.Response.conversed, Conversation.receive, accepts, Bool.not_true, Bool.false_eq_true,
        if_false] <;>
      exact ⟨_, _, rfl, rfl, .inr (.inr (.inr rfl))⟩
  | prompt secret text =>
    simp only [Auth.Response.conversed, Conversation.receive, accepts, Bool.not_true, Bool.false_eq_true, if_false]
    exact ⟨_, _, rfl, rfl, .inl ⟨rfl, rfl⟩⟩
  | message isError text =>
    simp only [Auth.Response.conversed, Conversation.receive, accepts, Bool.not_true, Bool.false_eq_true, if_false]
    exact ⟨_, _, rfl, rfl, .inr (.inl ⟨rfl, rfl⟩)⟩

/-- The transitions of the attempt that still counts. -/
theorem transition_cases (conversation : Conversation) (phase : Phase) (response : Auth.Response)
    (session : Option Session) :
    ∃ received next effect,
      transition conversation phase conversation.attempt response session = (received, some (next, effect)) ∧
      received.attempt = conversation.attempt ∧
      (received = conversation ∧ next = phase ∧ effect = .exit ∧ response = .success ∧ phase = .startingSession ∨
        (∃ secret text, next = .waitingForInput ∧ effect = .prompt secret text ∧ received.status = .waiting) ∨
        (∃ isError text, next = phase ∧ effect = .acknowledge isError text ∧
          received.status = conversation.status) ∨
        (∃ selected, session = some selected ∧ next = .startingSession ∧
          effect = .startSession selected.command selected.environment ∧ received.status = .succeeded ∧
          response = .success ∧ phase ≠ .startingSession) ∨
        ∃ text, next = .failed ∧ effect = .fail text) := by
  have accepts : conversation.accepts conversation.attempt = true := accepts_iff.mpr rfl
  obtain ⟨received, effect, receives, attempt, outcome⟩ := receive_conversed conversation response
  simp only [transition, accepts, Bool.not_true, Bool.false_eq_true, if_false]
  by_cases ends : phase = .startingSession ∧ response = .success
  · simp only [if_pos ends]
    exact ⟨_, _, _, rfl, rfl, .inl ⟨rfl, rfl, rfl, ends.2, ends.1⟩⟩
  · simp only [if_neg ends, receives]
    rcases outcome with ⟨isPrompt, status⟩ | ⟨isNotice, status⟩ | ⟨isAuthenticated, status, success⟩ | isFailed
    · subst isPrompt
      exact ⟨_, _, _, rfl, attempt, .inr (.inl ⟨_, _, rfl, rfl, status⟩)⟩
    · subst isNotice
      exact ⟨_, _, _, rfl, attempt, .inr (.inr (.inl ⟨_, _, rfl, rfl, status⟩))⟩
    · subst isAuthenticated
      have unstarted : phase ≠ .startingSession := fun started => ends ⟨started, success⟩
      cases session with
      | none => exact ⟨_, _, _, rfl, attempt, .inr (.inr (.inr (.inr ⟨_, rfl, rfl⟩)))⟩
      | some selected =>
        exact ⟨_, _, _, rfl, attempt, .inr (.inr (.inr (.inl ⟨selected, rfl, rfl, rfl, status, success, unstarted⟩)))⟩
    · subst isFailed
      exact ⟨_, _, _, rfl, attempt, .inr (.inr (.inr (.inr ⟨_, rfl, rfl⟩)))⟩

theorem handleAuthResponse_answers (app : App) (response : Auth.Response) :
    Answer app.core response (app.handleAuthResponse response).1.core (app.handleAuthResponse response).2 := by
  obtain ⟨received, next, effect, transitions, attempt, outcome⟩ :=
    transition_cases app.conversation app.phase response app.selectedSession
  simp only [handleAuthResponse, transitions]
  rcases outcome with ⟨isKept, isNext, isEffect, success, started⟩ | ⟨secret, text, isNext, isEffect, status⟩ |
    ⟨isError, text, isNext, isEffect, status⟩ |
    ⟨session, selected, isNext, isEffect, status, success, unstarted⟩ | ⟨text, isNext, isEffect⟩
  · subst isKept isNext isEffect
    exact .exits success started
  · subst isNext isEffect
    simp only [setFocus_core]
    exact .prompts status attempt
  · subst isNext isEffect
    have exchanges := exchange_cases ({ app with conversation := received }.setAuthNotice text isError)
      (.postAuthMessageResponse none)
    rcases exchanges with ⟨client, connected, exchanges⟩ | ⟨_, fails⟩
    · simp only [exchanges]
      exact .acknowledges status attempt connected
    · simp only [fails]
      exact fail_answers app app.phase (received.setNotice text isError) response _ attempt
  · subst isNext isEffect
    have exchanges := exchange_cases { app with conversation := received, phase := .startingSession }
      (.startSession session.command session.environment)
    rcases exchanges with ⟨client, connected, exchanges⟩ | ⟨_, fails⟩
    · simp only [exchanges]
      exact .starts success unstarted selected status attempt connected
    · simp only [fails]
      exact fail_answers app .startingSession received response _ attempt
  · subst isNext isEffect
    exact fail_answers app .failed received response text attempt

theorem handleAuthResult_moves (attempt : Attempt) (result : Except String (Option Client × Auth.Response))
    (gate : app.closing = none ∨ ∃ window, app.closing = some (.waitingForClient window)) :
    Move app.core (.message (.authResult attempt result)) (app.handleAuthResult attempt result).1.core
      (app.handleAuthResult attempt result).2 := by
  simp only [handleAuthResult]
  split
  next => exact Move.idle app _
  next accepted =>
    cases accepts_iff.mp (by simpa using accepted)
    split
    next window waits => exact .abandons waits rfl rfl
    next other =>
      have unclosed : app.closing = none := by
        cases gate with
        | inl unclosed => exact unclosed
        | inr waits => exact absurd waits.choose_spec (other _)
      cases result with
      | ok answer =>
        have answers := handleAuthResponse_answers { app with client := answer.1.or app.client } answer.2
        exact .answered unclosed rfl answers
      | error error =>
        simp only [fail, focusFirst_core]
        exact .breaks unclosed rfl (app.conversation.fail_status error) (app.conversation.fail_attempt error)

/-! ### Closing -/

theorem closeRequested_moves (window : Nat) (unclosed : app.closing = none) :
    Move app.core input (app.closeRequested window).1.core (app.closeRequested window).2 := by
  simp only [closeRequested]
  split
  next cancelled => exact .closes unclosed cancelled
  next =>
    split
    next before => exact .awaitsSelection unclosed before
    next =>
      split
      next connected =>
        refine .cancels unclosed ?_ rfl
        intro unconnected
        have missing : app.client = none := unconnected
        simp [missing] at connected
      next unconnected =>
        have missing : app.client = none := by simpa using unconnected
        split
        next before => exact .awaitsClient unclosed before missing
        next other =>
          have move : Move app.core input
              { app.core with
                conversation := app.conversation.invalidateAttempt
                client := none
                closing := some (.cancelling window) }
              [.perform (.cancelForClose app.client window), .perform (.closeTimeout window)] :=
            .cancels unclosed (fun _ => other) rfl
          simpa [core, missing] using move

theorem sessionCancelled_moves (window : Nat)
    (gate : ∀ other, app.closing ≠ some (.waitingForUserSelectionCancellation other)) :
    Move app.core (.message (.sessionCancelled window)) (app.sessionCancelled window).1.core
      (app.sessionCancelled window).2 := by
  simp only [sessionCancelled]
  split
  next cleans =>
    obtain ⟨closing, isClosing, cleaning⟩ := (Option.any_eq_true _ _).mp cleans
    refine .closesSession ?_ rfl
    cases closing with
    | waitingForClient other | cancelling other =>
      have same : other = window := by simpa [Closing.isCleaning] using cleaning
      simp [core, isClosing, same]
    | waitingForUserSelectionCancellation other => exact absurd isClosing (gate other)
    | dispatching other => simp [Closing.isCleaning] at cleaning
  next => exact Move.idle app _

theorem closeTimeout_moves (window : Nat) :
    Move app.core (.message (.closeTimeout window)) (app.closeTimeout window).1.core
      (app.closeTimeout window).2 := by
  simp only [closeTimeout]
  split
  next cleans =>
    obtain ⟨closing, isClosing, cleaning⟩ := (Option.any_eq_true _ _).mp cleans
    exact .expires isClosing cleaning rfl rfl
  next => exact Move.idle app _

/-! ### All messages -/

theorem updateInput_kept (conversation : Conversation) (value : String) :
    (conversation.updateInput value).1.status = conversation.status ∧
      (conversation.updateInput value).1.attempt = conversation.attempt := by
  simp only [Conversation.updateInput]
  split <;> exact ⟨rfl, rfl⟩

theorem canSelectSession_selectable (selectable : app.canSelectSession = true) :
    app.closing = none ∧ app.phase ≠ .authenticating ∧ app.phase ≠ .startingSession := by
  simp only [canSelectSession, Bool.and_eq_true, Option.isNone_iff_eq_none] at selectable
  refine ⟨selectable.1.1.1, ?_, ?_⟩ <;>
    · intro isPhase
      simp [isPhase] at selectable

/-- The messages of the user and of the window, which arrive before the window is to close. -/
theorem handle_outside {message : Message} (discovered : List Session) (unclosed : app.closing = none)
    (outside : (Input.message message).isOutside = true) :
    Move app.core input (app.handle discovered message).1.core (app.handle discovered message).2 := by
  cases message with
  | tick | wallpaperFrameReady | wallpaperAllocated | rendererInformation | navigatePage | windowResized
  | sessionMenuClosed | outputLayoutChanged => exact Move.idle app input
  | inputChanged value =>
    obtain ⟨status, attempt⟩ := updateInput_kept app.conversation value
    simp only [handle]
    split
    next updated isUpdated =>
      simp only [isUpdated] at status attempt
      exact .kept status attempt (by simp)
    next updated isUpdated =>
      simp only [isUpdated] at status attempt
      exact .kept status attempt (by simp)
  | submit => exact submit_moves unclosed
  | retry => exact retry_moves unclosed
  | retrySession => exact retrySession_moves discovered unclosed
  | changeUser =>
    simp only [handle]
    split
    next allowed =>
      apply changeUser_moves unclosed
      simp only [canChangeUser, Bool.and_eq_true] at allowed
      cases isPhase : app.phase <;> simp [isPhase] at allowed ⊢
    next => exact Move.idle app input
  | retryUserSelectionCancellation => exact retryUserSelectionCancellation_moves unclosed
  | selectAccount account =>
    simp only [handle]
    split
    next allowed =>
      simp only [canSelectAccount, Bool.and_eq_true, beq_iff_eq] at allowed
      exact selectAccount_moves account unclosed (.inl allowed.1.2)
    next => exact Move.idle app input
  | syncWidgetFocus =>
    simp only [handle, syncWidgetFocus_core]
    exact Move.idle app input
  | widgetFocused isInput =>
    simp only [handle, applyWidgetFocus_core]
    exact Move.idle app input
  | selectSession session =>
    simp only [handle]
    split
    next selectable =>
      simp only [setFocus_core]
      exact .selects unclosed (canSelectSession_selectable selectable).2
    next => exact Move.idle app input
  | sessionMenuOpened =>
    simp only [handle]
    split
    next =>
      simp only [setFocus_core]
      exact Move.idle app input
    next => exact Move.idle app input
  | askPower action => exact askPower_moves action
  | cancelPower => exact cancelPower_moves
  | confirmPower action => exact confirmPower_moves action
  | closeRequested window => exact closeRequested_moves window unclosed
  | authResult | accountsResult | userSelectionCancelled | userSelectionCancellationSlow | powerResult
  | sessionCancelled | closeTimeout => contradiction

theorem unclosed_of_allows (outside : input.isOutside = true) (allowed : app.allows input = true) :
    app.closing = none := by
  simp only [allows, Bool.and_eq_true] at allowed
  cases isClosing : app.closing with
  | none => rfl
  | some closing =>
    have gate := allowed.1
    cases input with
    | message message =>
      cases message <;> first
        | contradiction
        | (cases closing <;> simp [closingAllows, isClosing] at gate)
    | navigateFocus | navigateModal | escape => simp [closingAllows, isClosing] at gate

/-- What the focus sends on comes from the user. -/
theorem activation_outside {message : Message} (activates : app.activation = .send message) :
    (Input.message message).isOutside = true := by
  simp only [activation] at activates
  repeat' split at activates
  all_goals first
    | contradiction
    | (cases activates; rfl)

theorem send_moves {message : Message} (discovered : List Session)
    (outside : (Input.message message).isOutside = true) :
    Move app.core input (app.send discovered message).1.core (app.send discovered message).2 := by
  simp only [send]
  split
  next allowed => exact handle_outside discovered (unclosed_of_allows outside allowed) outside
  next => exact Move.idle app input

theorem navigateFocus_moves (navigation : Navigation) (discovered : List Session) :
    Move app.core input (app.navigateFocus discovered navigation).1.core
      (app.navigateFocus discovered navigation).2 := by
  have directional (delta : Int) : Move app.core input (app.moveDirectional delta).core [] := by
    rcases app.moveDirectional_core delta with same | ⟨selectable, selectedSession, selects⟩
    · rw [same]
      exact Move.idle app input
    · rw [selects]
      obtain ⟨unclosed, selectable⟩ := canSelectSession_selectable selectable
      exact .selects unclosed selectable
  cases navigation with
  | next =>
    simp only [navigateFocus, moveFocus_core]
    exact Move.idle app input
  | previous =>
    simp only [navigateFocus, moveFocus_core]
    exact Move.idle app input
  | directionNext => exact directional 1
  | directionPrevious => exact directional (-1)
  | activate =>
    simp only [navigateFocus]
    split
    next message activates => exact send_moves discovered (activation_outside activates)
    next cycles =>
      obtain ⟨selectedSession, isSelected⟩ := app.cycleSession_core 1
      have selectable : app.canSelectSession = true := by
        simp only [activation] at cycles
        repeat' split at cycles
        all_goals first
          | contradiction
          | assumption
      obtain ⟨unclosed, selectable⟩ := canSelectSession_selectable selectable
      simp only [isSelected]
      exact .selects unclosed selectable
    next => exact Move.idle app input

/-- The messages that end a task. -/
theorem handle_inside {message : Message} (discovered : List Session)
    (allowed : app.closingAllows (.message message) = true)
    (inside : (Input.message message).isOutside = false) :
    Move app.core (.message message) (app.handle discovered message).1.core (app.handle discovered message).2 := by
  cases message with
  | authResult attempt result =>
    apply handleAuthResult_moves
    cases isClosing : app.closing with
    | none => exact .inl rfl
    | some closing => cases closing <;> simp [closingAllows, isClosing] at allowed ⊢
  | accountsResult result =>
    apply accountsResult_moves
    cases isClosing : app.closing with
    | none => rfl
    | some closing => cases closing <;> simp [closingAllows, isClosing] at allowed
  | userSelectionCancelled attempt result =>
    apply userSelectionCancelled_moves
    cases isClosing : app.closing with
    | none => exact .inl rfl
    | some closing => cases closing <;> simp [closingAllows, isClosing] at allowed ⊢
  | userSelectionCancellationSlow attempt => exact userSelectionCancellationSlow_moves attempt
  | powerResult result => exact powerResult_moves result
  | sessionCancelled window =>
    apply sessionCancelled_moves
    intro other isClosing
    simp [closingAllows, isClosing] at allowed
  | closeTimeout window => exact closeTimeout_moves window
  | _ => contradiction

theorem update_moves (app : App) (discovered : List Session) (input : Input) :
    Move app.core input (app.update discovered input).1.core (app.update discovered input).2 := by
  simp only [update]
  split
  next => exact Move.idle app input
  next passed =>
    have allowed : app.allows input = true := by simpa using passed
    cases input with
    | message message =>
      cases outside : (Input.message message).isOutside with
      | true => exact handle_outside discovered (unclosed_of_allows outside allowed) outside
      | false =>
        simp only [allows, Bool.and_eq_true] at allowed
        exact handle_inside discovered allowed.1 outside
    | navigateFocus navigation =>
      rw [← app.closeSessionMenu_core]
      exact navigateFocus_moves navigation discovered
    | navigateModal navigation =>
      simp only
      split
      next => exact navigateFocus_moves navigation discovered
      next => exact Move.idle app _
    | escape =>
      simp only
      split
      next => exact send_moves discovered rfl
      next =>
        split
        next => exact Move.idle app _
        next =>
          split
          next =>
            simp only [blurInput_core]
            exact Move.idle app _
          next => exact Move.idle app _

end App

end Genkan.Greeter
