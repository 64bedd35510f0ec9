import Genkan.Greeter.Progress
import Genkan.Greeter.Talk

/-! # What the greeter rests its requests on

An update asks something of greetd for a reason: the user has typed an answer because greetd asked for one,
a message is acknowledged because there is one, and a session is created without a recovery because greetd
has cancelled the one before.  The state remembers as much of the connections as the next request needs.
-/

namespace Genkan.Greeter

open Foundations App

/-! ## What the greeter acts on -/

/-- The grounds of an update for what it asks of greetd, or makes the user answer. -/
structure Grounds (app : App) (input : Input) (next : App) (actions : List Action) : Prop where
  prompts : next.phase = .waitingForInput → app.phase = .waitingForInput ∨
    ∃ attempt client secret text, input = .message (.authResult attempt (.ok (client, .prompt secret text)))
  acknowledges : ∀ client attempt,
    .perform (.exchange client (.postAuthMessageResponse none) attempt) ∈ actions →
      ∃ attempt client error text, input = .message (.authResult attempt (.ok (client, .message error text)))
  begins : ∀ username attempt recover, .perform (.begin username attempt recover) ∈ actions →
    recover = !app.selectionSessionCancelled

/-- Whoever comes to wait for the user has been answered. -/
theorem Move.waits {core next : Core} {input : Input} {actions : List Action} (move : Move core input next actions)
    (waits : next.phase = .waitingForInput) :
    core.phase = .waitingForInput ∨ core.closing = none ∧ ∃ client response,
      input = .message (.authResult core.conversation.attempt (.ok (client, response))) := by
  cases move with
  | answered unclosed isInput => exact .inr ⟨unclosed, _, _, isInput⟩
  | _ => first | contradiction | exact .inl waits

theorem Move.acknowledges {core next : Core} {input : Input} {actions : List Action}
    (move : Move core input next actions) {client : Client} {attempt : Attempt}
    (member : .perform (.exchange client (.postAuthMessageResponse none) attempt) ∈ actions) :
    core.closing = none ∧ ∃ client response,
      input = .message (.authResult core.conversation.attempt (.ok (client, response))) := by
  cases move with
  | answered unclosed isInput => exact ⟨unclosed, _, _, isInput⟩
  | kept _ _ quiet =>
    obtain ⟨power, isPower⟩ := quiet _ member
    simp at isPower
  | begins _ _ _ _ starts =>
    rcases starts with ⟨_, _, recover, isTask⟩ | ⟨_, _, isTask⟩ <;> simp [isTask] at member
  | _ => simp [cancelForUserSelection] at member

theorem Answer.unbegun {core next : Core} {response : Auth.Response} {actions : List Action}
    (answer : Answer core response next actions) (username : String) (attempt : Attempt) (recover : Bool) :
    Action.perform (.begin username attempt recover) ∉ actions := by
  cases answer <;> simp

namespace App

variable {app : App}

theorem exchange_told (app : App) (request : Auth.Request) :
    ((app.exchange request).1.phase = app.phase ∨ (app.exchange request).1.phase = .failed) ∧
      ∀ client other attempt, .perform (.exchange client other attempt) ∈ (app.exchange request).2 →
        other = request := by
  rcases exchange_cases app request with ⟨held, _, exchanges⟩ | ⟨_, fails⟩
  · refine ⟨.inl (by rw [exchanges]), ?_⟩
    intro client other attempt member
    simp only [exchanges, List.mem_singleton, Action.perform.injEq, Task.exchange.injEq] at member
    exact member.2.1
  · refine ⟨.inr (by rw [fails, fail_phase]), ?_⟩
    intro client other attempt member
    simp [fails, fail] at member

theorem transition_told {conversation received : Conversation} {phase next : Phase} {response : Auth.Response}
    {session : Option Session} {effect : AuthEffect}
    (transitions :
      transition conversation phase conversation.attempt response session = (received, some (next, effect))) :
    (∀ secret text, effect = .prompt secret text → ∃ secret text, response = .prompt secret text) ∧
      ∀ error text, effect = .acknowledge error text → ∃ error text, response = .message error text := by
  have accepts : conversation.accepts conversation.attempt = true := accepts_iff.mpr rfl
  simp only [transition, accepts, Bool.not_true, Bool.false_eq_true, if_false] at transitions
  cases response with
  | prompt secret text =>
    refine ⟨fun _ _ _ => ⟨secret, text, rfl⟩, ?_⟩
    rintro _ _ rfl
    simp [Auth.Response.conversed, Conversation.receive, accepts] at transitions
  | message error text =>
    refine ⟨?_, fun _ _ _ => ⟨error, text, rfl⟩⟩
    rintro _ _ rfl
    simp [Auth.Response.conversed, Conversation.receive, accepts] at transitions
  | success =>
    by_cases starting : phase = .startingSession
    · constructor <;> rintro _ _ rfl <;> simp [starting] at transitions
    · constructor <;> rintro _ _ rfl <;> cases session <;>
        simp [starting, Auth.Response.conversed, Conversation.receive, accepts] at transitions
  | error authentication description =>
    constructor <;> rintro _ _ rfl <;> cases authentication <;>
      simp [Auth.Response.conversed, Conversation.receive, accepts] at transitions

/-- The user is asked because greetd asks, and a message is acknowledged because there is one. -/
theorem handleAuthResponse_told (app : App) (response : Auth.Response) :
    ((app.handleAuthResponse response).1.phase = .waitingForInput →
      app.phase = .waitingForInput ∨ ∃ secret text, response = .prompt secret text) ∧
    ∀ client attempt,
      .perform (.exchange client (.postAuthMessageResponse none) attempt) ∈ (app.handleAuthResponse response).2 →
        ∃ error text, response = .message error text := by
  obtain ⟨received, next, effect, transitions, _, outcome⟩ :=
    transition_cases app.conversation app.phase response app.selectedSession
  obtain ⟨prompted, noticed⟩ := transition_told transitions
  simp only [handleAuthResponse, transitions]
  rcases outcome with ⟨_, isNext, isEffect, _, _⟩ | ⟨secret, text, _, isEffect, _⟩ |
    ⟨isError, text, isNext, isEffect, _⟩ | ⟨session, _, isNext, isEffect, _, _, _⟩ | ⟨text, isNext, isEffect⟩
  · subst isNext isEffect
    exact ⟨.inl, by simp⟩
  · subst isEffect
    exact ⟨fun _ => .inr (prompted _ _ rfl), by simp⟩
  · subst isNext isEffect
    have asks := exchange_told ({ app with conversation := received }.setAuthNotice text isError)
      (.postAuthMessageResponse none)
    refine ⟨?_, fun _ _ _ => noticed _ _ rfl⟩
    intro waits
    rcases asks.1 with same | failed
    · exact .inl (same.symm.trans waits)
    · simp only [failed, reduceCtorEq] at waits
  · subst isNext isEffect
    have asks := exchange_told { app with conversation := received, phase := .startingSession }
      (.startSession session.command session.environment)
    refine ⟨?_, ?_⟩
    · intro waits
      rcases asks.1 with same | failed
      · simp only [same, reduceCtorEq] at waits
      · simp only [failed, reduceCtorEq] at waits
    · intro client attempt member
      exact absurd (asks.2 _ _ _ member) (by simp)
  · subst isEffect
    simp [fail]

/-- A session is created without a recovery only where greetd has cancelled the one before. -/
def Recovers (app : App) (actions : List Action) : Prop :=
  ∀ username attempt recover, .perform (.begin username attempt recover) ∈ actions →
    recover = !app.selectionSessionCancelled

theorem recovers_of_other {actions : List Action}
    (other : ∀ username attempt recover, Action.perform (.begin username attempt recover) ∉ actions) :
    app.Recovers actions :=
  fun _ _ _ member => absurd member (other _ _ _)

theorem selectAccount_recovers (app : App) (account : Account) : app.Recovers (app.selectAccount account).2 := by
  simp only [selectAccount]
  split <;> intro username attempt recover member <;> simp at member
  exact member.2.2

theorem handle_recovers {message : Message} (discovered : List Session) :
    app.Recovers (app.handle discovered message).2 := by
  cases message with
  | selectAccount account =>
    simp only [handle]
    split
    next => exact selectAccount_recovers app account
    next => exact recovers_of_other (by simp)
  | accountsResult result =>
    cases result with
    | error error => exact recovers_of_other (by simp [handle, accountsResult, fail])
    | ok accounts =>
      simp only [handle, accountsResult]
      split
      next => exact recovers_of_other (by simp [fail])
      next =>
        split
        next account _ => exact selectAccount_recovers { app with accounts } account
        next => exact recovers_of_other (by simp)
  | authResult attempt result =>
    apply recovers_of_other
    intro username number recover member
    simp only [handle, handleAuthResult] at member
    split at member
    next => simp at member
    next =>
      split at member
      next => simp at member
      next =>
        cases result with
        | error error => simp [fail] at member
        | ok answer => exact (handleAuthResponse_answers _ answer.2).unbegun username number recover member
  | _ =>
    apply recovers_of_other
    intro username attempt recover member
    simp only [handle, submit, retry, retrySession, discoverAccounts, retryAuthentication, changeUser,
      userSelectionCancelled, userSelectionCancellationSlow, retryUserSelectionCancellation, askPower,
      cancelPower, confirmPower, powerResult, closeRequested, sessionCancelled, closeTimeout, fail,
      cancelForUserSelection] at member
    repeat' split at member
    all_goals simp at member

theorem send_recovers {message : Message} (discovered : List Session) :
    app.Recovers (app.send discovered message).2 := by
  simp only [send]
  split
  next => exact handle_recovers discovered
  next => exact recovers_of_other (by simp)

theorem navigateFocus_recovers (app : App) (navigation : Navigation) (discovered : List Session) :
    app.Recovers (app.navigateFocus discovered navigation).2 := by
  cases navigation with
  | next | previous | directionNext | directionPrevious => exact recovers_of_other (by simp [navigateFocus])
  | activate =>
    simp only [navigateFocus]
    split
    next => exact send_recovers discovered
    next => exact recovers_of_other (by simp)
    next => exact recovers_of_other (by simp)

theorem update_recovers (discovered : List Session) (input : Input) :
    app.Recovers (app.update discovered input).2 := by
  simp only [update]
  split
  next => exact recovers_of_other (by simp)
  next =>
    cases input with
    | message message => exact handle_recovers discovered
    | navigateFocus navigation => exact navigateFocus_recovers app.closeSessionMenu navigation discovered
    | navigateModal navigation =>
      simp only
      split
      next => exact navigateFocus_recovers app navigation discovered
      next => exact recovers_of_other (by simp)
    | escape =>
      simp only
      split
      next => exact send_recovers discovered
      next =>
        repeat' split
        all_goals exact recovers_of_other (by simp)

theorem update_grounds {discovered : List Session} {input : Input} {next : App} {actions : List Action}
    (updates : app.update discovered input = (next, actions)) : Grounds app input next actions := by
  have move := update_moves app discovered input
  have recovers := app.update_recovers discovered input
  simp only [updates] at move recovers
  have told {client : Option Client} {response : Auth.Response} (unclosed : app.closing = none)
      (isInput : input = .message (.authResult app.conversation.attempt (.ok (client, response)))) :
      (next, actions) = { app with client := client.or app.client }.handleAuthResponse response := by
    subst isInput
    exact updates.symm.trans (update_authResult unclosed discovered (.ok (client, response)))
  refine ⟨?_, ?_, recovers⟩
  · intro waits
    rcases move.waits waits with waited | ⟨unclosed, client, response, isInput⟩
    · exact .inl waited
    · have answered := told unclosed isInput
      have asks := (handleAuthResponse_told { app with client := client.or app.client } response).1
      rw [← answered] at asks
      rcases asks waits with waited | ⟨secret, text, isPrompt⟩
      · exact .inl waited
      · exact .inr ⟨_, _, secret, text, isPrompt ▸ isInput⟩
  · intro held attempt member
    obtain ⟨unclosed, client, response, isInput⟩ := move.acknowledges member
    have answered := told unclosed isInput
    have notices := (handleAuthResponse_told { app with client := client.or app.client } response).2
    rw [← answered] at notices
    obtain ⟨error, text, isMessage⟩ := notices held attempt member
    exact ⟨_, _, error, text, isMessage ▸ isInput⟩

end App

/-! ## What the state says about the connections -/

structure App.Core.Backed (core : Core) (lines : Lines) : Prop where
  cancellable : lines.Cancellable core.client
  prompted : core.phase = .waitingForInput → ∀ client, core.client = some client → ∀ response,
    (lines.wire (.kept client)).allows (.postAuthMessageResponse (some response)) = true
  cleared : core.selectionSessionCancelled = true → lines.clearing = .confirmed

/-- An answer that is delivered is the last one on the connection that it leaves the greeter with. -/
def Input.Backed (core : Core) (lines : Lines) : Input → Prop
  | .message (.authResult _ (.ok (client, response))) =>
    ∃ held request answer, client.or core.client = some held ∧
      lines.wire (.kept held) = .exchanged request (.ok answer) ∧ Auth.Response.ofGreetd answer = response ∧
      request ≠ .cancelSession ∧
      ∀ cmd env, request = .startSession cmd env → core.phase = .startingSession
  | .message (.userSelectionCancelled _ (.ok ())) => lines.clearing = .confirmed
  | _ => True

/-- An exchange under way is one over the connection that is held, and the start of a session has its phase. -/
def Task.Rests (core : Core) : Task → Prop
  | .exchange client request _ =>
    core.client = some client ∧ ∀ cmd env, request = .startSession cmd env → core.phase = .startingSession
  | _ => True

theorem Wire.allows_prompted {request : Ipc.Request} {answer : Ipc.Response} {secret : Bool} {text : String}
    (goesOn : request ≠ .cancelSession) (isPrompt : Auth.Response.ofGreetd answer = .prompt secret text)
    (response : String) :
    (Wire.exchanged request (.ok answer)).allows (.postAuthMessageResponse (some response)) = true := by
  match answer with
  | .authMessage .visible _ | .authMessage .secret _ => cases request <;> first | rfl | contradiction
  | .success | .error _ _ | .authMessage .info _ | .authMessage .error _ => simp [Auth.Response.ofGreetd] at isPrompt

theorem Wire.allows_noticed {request : Ipc.Request} {answer : Ipc.Response} {error : Bool} {text : String}
    (goesOn : request ≠ .cancelSession) (isMessage : Auth.Response.ofGreetd answer = .message error text) :
    (Wire.exchanged request (.ok answer)).allows (.postAuthMessageResponse none) = true := by
  match answer with
  | .authMessage .info _ | .authMessage .error _ => cases request <;> first | rfl | contradiction
  | .success | .error _ _ | .authMessage .visible _ | .authMessage .secret _ =>
    simp [Auth.Response.ofGreetd] at isMessage

theorem Wire.allows_succeeded {request : Ipc.Request} {answer : Ipc.Response} {cmd env : List String}
    (goesOn : request ≠ .cancelSession) (unstarted : ∀ cmd env, request ≠ .startSession cmd env)
    (success : Auth.Response.ofGreetd answer = .success) :
    (Wire.exchanged request (.ok answer)).allows (.startSession cmd env) = true := by
  match answer with
  | .success =>
    cases request with
    | cancelSession => contradiction
    | startSession => exact absurd rfl (unstarted _ _)
    | createSession | postAuthMessageResponse => rfl
  | .error _ _ | .authMessage .visible _ | .authMessage .secret _ | .authMessage .info _ | .authMessage .error _ =>
    simp [Auth.Response.ofGreetd] at success

theorem Wire.allows_cancelled {request : Ipc.Request} {answer : Except String Ipc.Response}
    (goesOn : request ≠ .cancelSession) : (Wire.exchanged request answer).allows .cancelSession = true := by
  cases request <;> first | rfl | contradiction

/-- While a task talks to greetd, whatever else happens leaves alone what the task rests on. -/
theorem Move.steady {core next : Core} {input : Input} {actions : List Action} (move : Move core input next actions)
    (settled : core.Settled) (delivered : Delivered core input) (unclosed : next.closing = none) {task : Task}
    (fits : task.Fits core) (talks : task.kind = .authentication ∨ task.kind = .selection)
    (goesOn : task.kind ≠ input.kind) :
    next.username = core.username ∧ next.client = core.client ∧ next.phase = core.phase := by
  have open_ : core.closing = none := move.unclosed unclosed
  have awaited := fits.awaited open_
  have busy : core.phase.isActive = true ∨ core.phase = .cancellingForUserSelection := by
    rcases talks with isKind | isKind <;> simp only [isKind, Kind.Awaited] at awaited
    · exact .inl awaited
    · exact .inr awaited
  have waiting := settled.waiting
  cases move with
  | kept | selects => exact ⟨rfl, rfl, rfl⟩
  | closes | awaitsSelection | awaitsClient | cancels | abandons | closesSelection | closesSession | expires =>
    contradiction
  | fails _ cause =>
    rcases cause with waits | ⟨result, isInput⟩
    · simp [waiting waits, Phase.isActive] at busy
    · subst isInput
      have before : core.phase = .discoveringUsers := delivered.awaited open_
      simp [before, Phase.isActive] at busy
  | lists _ isInput =>
    subst isInput
    have before : core.phase = .discoveringUsers := delivered.awaited open_
    simp [before, Phase.isActive] at busy
  | begins _ cause =>
    rcases cause with before | ⟨result, isInput⟩
    · simp [before, Phase.isActive] at busy
    · subst isInput
      have before : core.phase = .discoveringUsers := delivered.awaited open_
      simp [before, Phase.isActive] at busy
  | discovers _ before | restarts _ before | retries _ before => simp [before, Phase.isActive] at busy
  | changes _ before => rcases before with before | before <;> simp [before, Phase.isActive] at busy
  | submits _ waits => simp [waiting waits, Phase.isActive] at busy
  | deselects _ isInput before | resists _ isInput before =>
    rcases talks with isKind | isKind
    · simp only [isKind, Kind.Awaited, before] at awaited
      contradiction
    · exact absurd (by rw [isKind, isInput]; rfl) goesOn
  | answered _ isInput | breaks _ isInput =>
    subst isInput
    have active : core.phase.isActive = true := delivered.awaited open_
    rcases talks with isKind | isKind
    · exact absurd isKind goesOn
    · simp only [isKind, Kind.Awaited] at awaited
      simp [awaited, Phase.isActive] at active

theorem Lines.cancellable_none (lines : Lines) : lines.Cancellable none := by
  intro held isHeld
  contradiction

/-- A task that is set off finds what it rests on. -/
theorem Move.starts {app next : App} {lines : Lines} {input : Input} {actions : List Action}
    (move : Move app.core input next.core actions) (settled : app.core.Settled)
    (delivered : Delivered app.core input) (grounds : Grounds app input next actions)
    (backed : app.core.Backed lines) (told : input.Backed app.core lines) (unclosed : next.core.closing = none)
    {task : Task} (member : .perform task ∈ actions) :
    task.Starts next.core.username lines ∧ task.Rests next.core := by
  obtain ⟨_, acknowledges, begins⟩ := grounds
  change ∀ username attempt recover, _ → recover = !app.core.selectionSessionCancelled at begins
  obtain ⟨cancellable, prompted, cleared⟩ := backed
  generalize app.core = core at *
  generalize next.core = after at *
  cases move with
  | kept _ _ quiet =>
    obtain ⟨power, isPower⟩ := quiet _ member
    cases isPower
    exact ⟨trivial, trivial⟩
  | selects | fails | breaks | lists | deselects | resists => simp at member
  | closes | awaitsSelection | awaitsClient | cancels | abandons | closesSelection | closesSession | expires =>
    contradiction
  | begins _ _ _ _ starts =>
    cases List.mem_singleton.mp member
    rcases starts with ⟨_, _, recover, isTask⟩ | ⟨_, _, isTask⟩
    · subst isTask
      have isRecover := begins _ _ _ member
      refine ⟨⟨rfl, ?_⟩, trivial⟩
      intro unrecovered
      exact cleared (by simpa [unrecovered] using isRecover)
    · subst isTask
      exact ⟨⟨rfl, cancellable⟩, trivial⟩
  | discovers =>
    cases List.mem_singleton.mp member
    exact ⟨trivial, trivial⟩
  | restarts =>
    cases List.mem_singleton.mp member
    exact ⟨⟨rfl, cancellable⟩, trivial⟩
  | changes =>
    cases mem_pair.mp member with
    | inl isCancel =>
      subst isCancel
      exact ⟨cancellable, trivial⟩
    | inr isSlow =>
      subst isSlow
      exact ⟨trivial, trivial⟩
  | retries =>
    cases mem_pair.mp member with
    | inl isCancel =>
      subst isCancel
      exact ⟨lines.cancellable_none, trivial⟩
    | inr isSlow =>
      subst isSlow
      exact ⟨trivial, trivial⟩
  | submits _ waits connected =>
    cases List.mem_singleton.mp member
    exact ⟨prompted (settled.waiting waits) _ connected _, connected, by simp⟩
  | answered open_ isInput answers =>
    subst isInput
    obtain ⟨held, request, answer, isHeld, isWire, isAnswer, goesOn, started⟩ := told
    cases answers with
    | prompts | exits | fails => simp at member
    | acknowledges _ _ connected =>
      cases List.mem_singleton.mp member
      obtain ⟨_, _, error, text, isInput⟩ := acknowledges _ _ member
      simp only [Input.message.injEq, Message.authResult.injEq, Except.ok.injEq, Prod.mk.injEq] at isInput
      cases isHeld.symm.trans connected
      refine ⟨?_, connected, by simp⟩
      simp only [Task.Starts, isWire]
      exact Wire.allows_noticed goesOn (isAnswer.trans isInput.2.2)
    | starts success unstarted _ _ _ connected =>
      cases List.mem_singleton.mp member
      cases isHeld.symm.trans connected
      refine ⟨?_, connected, fun _ _ _ => rfl⟩
      simp only [Task.Starts, isWire]
      refine Wire.allows_succeeded goesOn ?_ (isAnswer.trans success)
      intro cmd env isStart
      exact unstarted (started cmd env isStart)

theorem Move.backed {app next : App} {lines : Lines} {input : Input} {actions : List Action}
    (move : Move app.core input next.core actions) (settled : app.core.Settled)
    (delivered : Delivered app.core input) (grounds : Grounds app input next actions)
    (backed : app.core.Backed lines) (told : input.Backed app.core lines) (unclosed : next.core.closing = none) :
    next.core.Backed lines := by
  have prompts := grounds.prompts
  change next.core.phase = .waitingForInput → app.core.phase = .waitingForInput ∨ _ at prompts
  obtain ⟨cancellable, prompted, cleared⟩ := backed
  generalize app.core = core at *
  generalize next.core = after at *
  cases move with
  | kept | selects => exact ⟨cancellable, prompted, cleared⟩
  | fails | breaks | lists | discovers | resists | retries | submits => exact ⟨cancellable, by simp, cleared⟩
  | begins _ _ _ _ starts =>
    refine ⟨?_, by simp, by simp⟩
    rcases starts with ⟨nameless, isClient, _⟩ | ⟨_, isClient, _⟩
    · simp only [isClient, (settled.nameless nameless).1]
      exact lines.cancellable_none
    · simp only [isClient]
      exact lines.cancellable_none
  | restarts => exact ⟨lines.cancellable_none, by simp, cleared⟩
  | changes => exact ⟨lines.cancellable_none, by simp, by simp⟩
  | deselects _ isInput =>
    subst isInput
    exact ⟨cancellable, by simp, fun _ => told⟩
  | @answered client response _ _ open_ isInput answers =>
    subst isInput
    have active : core.phase.isActive = true := delivered.awaited open_
    have unwaiting : core.phase ≠ .waitingForInput := by
      intro waits
      simp [waits, Phase.isActive] at active
    obtain ⟨held, request, answer, isHeld, isWire, isAnswer, goesOn, _⟩ := told
    have stays : lines.Cancellable (client.or core.client) := by
      intro other isOther
      rw [isHeld] at isOther
      cases isOther
      rw [isWire]
      exact Wire.allows_cancelled goesOn
    cases answers with
    | prompts =>
      refine ⟨stays, ?_, cleared⟩
      intro waits other isOther response
      rcases prompts waits with waited | ⟨_, _, secret, text, isInput⟩
      · exact absurd waited unwaiting
      · simp only [Input.message.injEq, Message.authResult.injEq, Except.ok.injEq, Prod.mk.injEq] at isInput
        cases isHeld.symm.trans isOther
        rw [isWire]
        exact Wire.allows_prompted goesOn (isAnswer.trans isInput.2.2) response
    | acknowledges | exits => exact ⟨stays, fun waits => absurd waits unwaiting, cleared⟩
    | starts | fails => exact ⟨stays, by simp, cleared⟩
  | closes | awaitsSelection | awaitsClient | cancels | abandons | closesSelection | closesSession | expires =>
    contradiction

end Genkan.Greeter
