import Genkan.Greeter.Flights

/-! # Starting the selected session

The session is requested when greetd has accepted the user, it stays the selected one until the request
is answered, and only the answer to such a request ends the greeter.
-/

namespace Genkan.Greeter

open Foundations App

/-! ## Moves -/

/-- What is asked for when the user has been accepted. -/
theorem Move.requests {core next : Core} {input : Input} {actions : List Action} {client : Client}
    {cmd env : List String} {attempt : Attempt} (move : Move core input next actions)
    (member : .perform (.exchange client (.startSession cmd env) attempt) ∈ actions) :
    ∃ connection session,
      input = .message (.authResult core.conversation.attempt (.ok (connection, .success))) ∧
      core.selectedSession = some session ∧ cmd = session.command ∧ env = session.environment ∧
      attempt = core.conversation.attempt ∧ next.phase = .startingSession ∧ next.selectedSession = some session := by
  cases move with
  | kept _ _ quiet =>
    obtain ⟨power, isPower⟩ := quiet _ member
    simp at isPower
  | begins unclosed cause named begun starts =>
    rcases starts with ⟨_, _, recover, isTask⟩ | ⟨_, _, isTask⟩ <;> simp [isTask] at member
  | answered unclosed isInput answers =>
    cases answers with
    | starts success unstarted selected status same connected =>
      subst success
      cases List.mem_singleton.mp member
      exact ⟨_, _, isInput, selected, rfl, rfl, same, rfl, selected⟩
    | acknowledges => simp at member
    | prompts | exits | fails => simp at member
  | _ => simp [cancelForUserSelection] at member

theorem Move.exits {core next : Core} {input : Input} {actions : List Action} (move : Move core input next actions)
    (member : .exit ∈ actions) :
    core.closing = none ∧ core.phase = .startingSession ∧
      ∃ connection, input = .message (.authResult core.conversation.attempt (.ok (connection, .success))) := by
  cases move with
  | kept _ _ quiet =>
    obtain ⟨power, isPower⟩ := quiet _ member
    contradiction
  | answered unclosed isInput answers =>
    cases answers with
    | exits success started =>
      subst success
      exact ⟨unclosed, started, _, isInput⟩
    | prompts | acknowledges | starts | fails => simp at member
  | _ => simp [cancelForUserSelection] at member

/-- The phase is entered only with a request. -/
theorem Move.enters {core next : Core} {input : Input} {actions : List Action} (move : Move core input next actions)
    (unstarted : core.phase ≠ .startingSession) (started : next.phase = .startingSession) :
    ∃ client session, core.selectedSession = some session ∧ next.selectedSession = some session ∧
      next.conversation.attempt = core.conversation.attempt ∧
      .perform (.exchange client (.startSession session.command session.environment) core.conversation.attempt) ∈
        actions := by
  cases move with
  | answered unclosed isInput answers =>
    cases answers with
    | @starts conversation client session success unstarted selected status same connected =>
      have current : conversation.attempt = core.conversation.attempt := same
      exact ⟨client, session, selected, selected, same, by simp [current]⟩
    | prompts | fails => contradiction
    | acknowledges | exits => exact absurd started unstarted
  | kept | selects | abandons | closes | awaitsSelection | awaitsClient | cancels | closesSelection | closesSession
  | expires => exact absurd started unstarted
  | _ => contradiction

/-- Until a prompt or a failure the selected session stays. -/
theorem Move.started {core next : Core} {input : Input} {actions : List Action} (move : Move core input next actions)
    (settled : core.Settled) (delivered : Delivered core input) (started : core.phase = .startingSession) :
    next.selectedSession = core.selectedSession ∧
      (next.closing = none → next.conversation.attempt = core.conversation.attempt) ∧
      (next.phase = .startingSession ∨ next.phase = .failed ∨ next.phase = .waitingForInput) := by
  have waiting := settled.waiting
  have discovering : ∀ result, core.closing = none → input = .message (.accountsResult result) →
      core.phase = .discoveringUsers := by
    rintro result unclosed rfl
    exact delivered.awaited unclosed
  cases move with
  | answered unclosed isInput answers => cases answers <;> grind -linarith
  | _ => grind -linarith

theorem Move.reopens {core next : Core} {input : Input} {actions : List Action} (move : Move core input next actions)
    (unclosed : next.closing = none) : core.closing = none := by
  cases move with
  | answered before => exact before
  | _ => grind -linarith

/-! ## Runs -/

variable (run : greeterSystem.Run)

theorem World.Starts.fresh {world : World} (starts : world.Starts) :
    world.app.core.phase ≠ .startingSession ∧ world.app.core.selectionSessionCancelled = false := by
  obtain ⟨account, sessions, isStart⟩ := starts
  subst isStart
  cases sessions with
  | nil =>
    simp only [App.new, List.head?_nil, Option.isNone_none, if_true, focusFirst_core]
    simp [core]
  | cons session sessions => cases account <;> simp [App.new, core]

/-- While the session is being started, it stays the selected one. -/
theorem selection_stays {first last : Nat} (order : first ≤ last) (bound : last ≤ run.length) {session : Session}
    (inside : ∀ between, first ≤ between → between < last → (run.state between).app.phase = .startingSession)
    (selected : (run.state first).app.selectedSession = some session) :
    (run.state last).app.selectedSession = some session := by
  refine run.stays (fun world => world.app.selectedSession = some session) order bound ?_ selected
  intro between after before same
  obtain ⟨input, actions, _, _, delivered, move⟩ := moves_of_run run (show between < run.length by omega)
  have settled := (World.consistent_of_reachable (run.reachable between (by omega))).settled
  exact (move.started settled delivered (inside between after before)).1.trans same

/-- The request after which the phase was entered, and what has been kept since. -/
theorem requested_before {index : Nat} (bound : index ≤ run.length)
    (started : (run.state index).app.phase = .startingSession) :
    ∃ earlier < index, ∃ client session,
      (run.state earlier).Asks (run.label earlier) (.perform (.exchange client
        (.startSession session.command session.environment) (run.state earlier).app.conversation.attempt)) ∧
      ∀ between, earlier < between → between ≤ index →
        (run.state between).app.phase = .startingSession ∧
        (run.state between).app.selectedSession = some session ∧
        ((run.state between).app.closing = none →
          (run.state between).app.conversation.attempt = (run.state earlier).app.conversation.attempt) := by
  obtain ⟨earlier, before, unstarted, inside⟩ :=
    run.entered (fun world => world.app.phase = .startingSession) bound run.starts.fresh.1 started
  obtain ⟨input, actions, _, acts, _, move⟩ := moves_of_run run (show earlier < run.length by omega)
  obtain ⟨client, session, _, selected, attempt, member⟩ :=
    move.enters unstarted (inside (earlier + 1) (by omega) (by omega))
  refine ⟨earlier, before, client, session, ⟨_, _, acts, member⟩, ?_⟩
  intro between after within
  refine ⟨inside between after within, ?_, ?_⟩
  · apply selection_stays run after (by omega) ?_ selected
    intro middle begun ended
    exact inside middle (by omega) (by omega)
  · refine run.stays (fun world => world.app.closing = none → world.app.conversation.attempt =
      (run.state earlier).app.conversation.attempt) after (by omega) ?_ fun _ => attempt
    intro middle begun ended kept unclosed
    obtain ⟨input, actions, _, _, delivered, move⟩ := moves_of_run run (show middle < run.length by omega)
    have settled := (World.consistent_of_reachable (run.reachable middle (by omega))).settled
    have started := move.started settled delivered (inside middle (by omega) (by omega))
    exact (started.2.1 unclosed).trans (kept (move.reopens unclosed))

/-! ## Answers that come too late -/

theorem Move.deaf {core next : Core} {input : Input} {actions : List Action} (move : Move core input next actions)
    (deaf : ¬ core.Listens) : ¬ next.Listens := by
  simp only [Core.Listens] at deaf ⊢
  cases move with
  | answered unclosed => exact absurd (.inl unclosed) deaf
  | _ => grind -linarith

theorem update_deaf {app : App} (deaf : ¬ app.core.Listens) (discovered : List Session) (attempt : Attempt)
    (result : Except String (Option Client × Auth.Response)) :
    app.update discovered (.message (.authResult attempt result)) = (app, []) := by
  have shut : app.closingAllows (.message (.authResult attempt result)) = false := by
    cases isClosing : app.closing with
    | none => exact absurd (.inl isClosing) deaf
    | some closing =>
      cases closing with
      | waitingForClient window => exact absurd (.inr ⟨window, isClosing⟩) deaf
      | waitingForUserSelectionCancellation | cancelling | dispatching => simp [closingAllows, isClosing]
  simp [update, allows, shut]

/-- Answers are listened to only while the attempt of the task in flight is the current one. -/
theorem Flight.attempt_of_listens {world : World} (consistent : world.Consistent) {flight : Flight}
    (inFlight : flight ∈ world.flights) {outcome : Outcome} {attempt : Attempt}
    {result : Except String (Option Client × Auth.Response)}
    (ends : flight.message outcome = some (.authResult attempt result)) (listens : world.app.core.Listens) :
    world.app.conversation.attempt = attempt := by
  have fits := consistent.fits flight inFlight
  obtain ⟨serial, task⟩ := flight
  cases task <;> cases outcome <;>
    simp only [Flight.message, reduceCtorEq, Option.some.injEq, Message.authResult.injEq] at ends
  all_goals
    rw [← ends.1]
    first
      | exact (fits.2.2.2.2 listens).symm
      | exact (fits listens).1.symm

/-- An answer to an attempt that the conversation has left behind changes nothing. -/
theorem late_answer_ignored {index between position : Nat} (bound : index < run.length) {flight : Flight}
    {outcome : Outcome} {attempt : Attempt} {result : Except String (Option Client × Auth.Response)}
    (isLabel : run.label index = .finish position outcome)
    (found : (run.state index).flights[position]? = some flight)
    (ends : flight.message outcome = some (.authResult attempt result)) (within : between ≤ index)
    (inFlight : flight ∈ (run.state between).flights)
    (left : (run.state between).app.conversation.attempt ≠ attempt) :
    (run.state (index + 1)).app = (run.state index).app ∧
      ∀ action, ¬ (run.state index).Asks (run.label index) action := by
  -- While answers are listened to, the task in flight is of the current attempt.
  -- The greeter never listens again, so that the answer does not get through.
  have deafBetween : ¬ (run.state between).app.core.Listens := by
    intro listens
    have consistent := World.consistent_of_reachable (run.reachable between (by omega))
    exact left (flight.attempt_of_listens consistent inFlight ends listens)
  have deaf : ¬ (run.state index).app.core.Listens := by
    refine run.stays (fun world => ¬ world.app.core.Listens) within (by omega) ?_ deafBetween
    intro middle _ before deaf
    obtain ⟨input, actions, _, _, _, move⟩ := moves_of_run run (show middle < run.length by omega)
    exact move.deaf deaf
  have acts : (run.state index).act (run.label index) =
      some ({ run.state index with flights := (run.state index).flights.eraseIdx position }.launch
        (run.state index).app [], []) := by
    simp only [World.act, World.delivers, isLabel, found, Option.bind_some, ends, Option.map_some]
    rw [update_deaf deaf]
  obtain ⟨actions, acted⟩ := acts_of_run run bound
  have same := Prod.mk.inj (Option.some.inj (acted.symm.trans acts))
  refine ⟨?_, ?_⟩
  · rw [same.1]
    rfl
  · rintro action ⟨next, asked, asks, member⟩
    have isNone := (Prod.mk.inj (Option.some.inj (asks.symm.trans acts))).2
    simp [isNone] at member

/-- A session is started only when greetd has accepted the user, as the session that is selected then and
until the request is answered; the greeter exits only on the answer to such a request of the same attempt;
and an answer to an attempt that the conversation has left behind since changes nothing. -/
theorem start_session_safe :
    (∀ index < run.length, ∀ client cmd env attempt,
      (run.state index).Asks (run.label index) (.perform (.exchange client (.startSession cmd env) attempt)) →
      ∃ connection session,
        (run.state index).delivers (run.label index) =
          some (.message (.authResult attempt (.ok (connection, .success)))) ∧
        (run.state index).app.conversation.accepts attempt = true ∧
        (run.state index).app.selectedSession = some session ∧
        cmd = session.command ∧ env = session.environment ∧
        (run.state (index + 1)).app.phase = .startingSession ∧
        ∀ last, index < last → last ≤ run.length →
          (∀ between, index < between → between < last → (run.state between).app.phase = .startingSession) →
          (run.state last).app.selectedSession = some session) ∧
    (∀ index < run.length, (run.state index).app.phase = .startingSession →
      (run.state (index + 1)).app.phase = .startingSession ∨ (run.state (index + 1)).app.phase = .failed ∨
        (run.state (index + 1)).app.phase = .waitingForInput) ∧
    (∀ index < run.length, (run.state index).Asks (run.label index) .exit →
      (run.state index).app.phase = .startingSession ∧
      (∃ connection, (run.state index).delivers (run.label index) =
        some (.message (.authResult (run.state index).app.conversation.attempt (.ok (connection, .success))))) ∧
      ∃ earlier < index, ∃ client session,
        (run.state earlier).Asks (run.label earlier) (.perform (.exchange client
          (.startSession session.command session.environment) (run.state index).app.conversation.attempt)) ∧
        ∀ between, earlier < between → between ≤ index →
          (run.state between).app.phase = .startingSession ∧
          (run.state between).app.selectedSession = some session) ∧
    ∀ index < run.length, ∀ between ≤ index, ∀ position outcome flight attempt result,
      run.label index = .finish position outcome → (run.state index).flights[position]? = some flight →
      flight.message outcome = some (.authResult attempt result) → flight ∈ (run.state between).flights →
      (run.state between).app.conversation.attempt ≠ attempt →
      (run.state (index + 1)).app = (run.state index).app ∧
        ∀ action, ¬ (run.state index).Asks (run.label index) action := by
  refine ⟨?_, ?_, ?_, ?_⟩
  · intro index bound client cmd env attempt asks
    obtain ⟨input, actions, delivers, _, member, move⟩ := asks_of_run run bound asks
    obtain ⟨connection, session, isInput, selected, isCmd, isEnv, isAttempt, started, kept⟩ := move.requests member
    refine ⟨connection, session, ?_, accepts_iff.mpr isAttempt, selected, isCmd, isEnv, started, ?_⟩
    · rw [delivers, isInput, isAttempt]
    · intro last after within inside
      exact selection_stays run after within inside kept
  · intro index bound started
    obtain ⟨input, actions, _, _, delivered, move⟩ := moves_of_run run bound
    have settled := (World.consistent_of_reachable (run.reachable index (by omega))).settled
    exact (move.started settled delivered started).2.2
  · intro index bound exits
    obtain ⟨input, actions, delivers, _, member, move⟩ := asks_of_run run bound exits
    obtain ⟨unclosed, started, connection, isInput⟩ := move.exits member
    obtain ⟨earlier, before, client, session, asks, since⟩ := requested_before run (Nat.le_of_lt bound) started
    refine ⟨started, ⟨connection, isInput ▸ delivers⟩, earlier, before, client, session, ?_, ?_⟩
    · rw [(since index before (Nat.le_refl index)).2.2 unclosed]
      exact asks
    · intro between after within
      obtain ⟨inside, selected, _⟩ := since between after within
      exact ⟨inside, selected⟩
  · intro index bound between within position outcome flight attempt result isLabel found ends inFlight left
    exact late_answer_ignored run bound isLabel found ends within inFlight left

/-! ## One user and one session -/

def sampleAccount : Account where
  username := "darwin"
  displayName := "Darwin"
  lastLogin := none
  named := by decide

def sampleSession : Session where
  name := "Sway"
  command := ["sway"]
  sessionId := "sway"
  desktopNames := ["sway"]

instance : Inhabited Label := ⟨.input .escape []⟩

/-- The first world, with its first task in flight. -/
def startWorld (account : Option Account) (sessions : List Session) : World where
  app := (App.new account sessions).1
  flights := World.numbered 0 (World.tasks (App.new account sessions).2)
  issued := (World.tasks (App.new account sessions).2).length

def loginLabels : List Label :=
  [.finish 0 (.answered (.ok (.prompt true "Password:"))), .input (.message (.inputChanged "secret")) [],
    .input (.message .submit) [], .finish 0 (.answered (.ok .success)), .finish 0 (.answered (.ok .success))]

theorem loginStart_initial : greeterSystem.initial (startWorld (some sampleAccount) [sampleSession]) := ⟨_, _, rfl⟩

def loginRun : greeterSystem.Run :=
  TransitionSystem.runOfLabels (startWorld (some sampleAccount) [sampleSession]) loginStart_initial loginLabels
    (by decide +kernel)

theorem start_session_safe_sample :
    (loginRun.state 4).Asks (loginRun.label 4) .exit ∧
    ∃ earlier < 4, ∃ (client : Client) (session : Session),
      (loginRun.state earlier).Asks (loginRun.label earlier) (.perform (.exchange client
        (.startSession session.command session.environment) (loginRun.state 4).app.conversation.attempt)) := by
  have exits : (loginRun.state 4).Asks (loginRun.label 4) .exit := World.asks_iff.mpr (by decide +kernel)
  obtain ⟨_, _, earlier, before, client, session, asks, _⟩ :=
    (start_session_safe loginRun).2.2.1 4 (by decide) exits
  exact ⟨exits, earlier, before, client, session, asks⟩

end Genkan.Greeter
