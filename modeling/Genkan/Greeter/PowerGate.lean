import Genkan.Greeter.Closing
import Genkan.Greeter.PowerMoves

/-! # The dialog of a power action

While a power action is asked for or under way, most messages are dropped.  None of them is the end of a
cancellation that is waited for: the dialog opens only when there is none, and none is set off meanwhile.
-/

namespace Genkan.Greeter

open Foundations App

/-! ## No cancellation under the dialog -/

theorem Move.selecting {core next : Core} {input : Input} {actions : List Action} {task : Task}
    (move : Move core input next actions) (member : .perform task ∈ actions) (selection : task.kind = .selection) :
    next.phase = .cancellingForUserSelection := by
  cases move with
  | changes | retries => rfl
  | kept _ _ quiet =>
    obtain ⟨action, isPower⟩ := quiet _ member
    cases isPower
    contradiction
  | answered _ _ answers => cases answers <;> simp at member <;> subst member <;> contradiction
  | begins _ _ _ _ starts =>
    cases List.mem_singleton.mp member
    rcases starts with ⟨_, _, recover, isTask⟩ | ⟨_, _, isTask⟩ <;> subst isTask <;> contradiction
  | cancels =>
    cases mem_pair.mp member with
    | inl isTask | inr isTask =>
      subst isTask
      contradiction
  | selects | fails | lists | deselects | resists | breaks | closes | closesSelection | closesSession
  | expires => simp at member
  | discovers | restarts | submits | abandons | awaitsSelection | awaitsClient =>
    cases List.mem_singleton.mp member
    contradiction

theorem canRequestPower_unselecting {app : App} (allowed : app.canRequestPower = true) :
    app.closing = none ∧ app.powerState = .idle ∧ app.phase ≠ .cancellingForUserSelection := by
  simp only [canRequestPower, Bool.and_eq_true, Option.isNone_iff_eq_none, beq_iff_eq] at allowed
  refine ⟨allowed.1.1, allowed.1.2, ?_⟩
  intro isPhase
  simp [isPhase] at allowed

theorem selection_of_kind {task : Task} (selection : task.kind = .selection) :
    ∃ client attempt, task = .cancelForUserSelection client attempt := by
  cases task with
  | cancelForUserSelection client attempt => exact ⟨client, attempt, rfl⟩
  | _ => contradiction

/-- No cancellation of the selection is outstanding while power is asked for or under way. -/
def World.Unselecting (world : World) : Prop :=
  world.app.powerState ≠ .idle →
    world.app.phase ≠ .cancellingForUserSelection ∧ ∀ flight ∈ world.flights, flight.task.kind ≠ .selection

/-- Where power may be asked for, no cancellation is in flight. -/
theorem World.Consistent.unselecting {world : World} (consistent : world.Consistent)
    (allowed : world.app.canRequestPower = true) :
    world.app.phase ≠ .cancellingForUserSelection ∧ ∀ flight ∈ world.flights, flight.task.kind ≠ .selection := by
  obtain ⟨unclosed, _, phase⟩ := canRequestPower_unselecting allowed
  refine ⟨phase, ?_⟩
  intro flight member selection
  have fits := consistent.fits flight member
  obtain ⟨client, attempt, isTask⟩ := selection_of_kind selection
  rw [isTask] at fits
  exact phase (fits (.inl unclosed)).2

theorem World.Unselecting.act {world next : World} {label : Label} {actions : List Action}
    (unselecting : world.Unselecting) (consistent : world.Consistent)
    (acts : world.act label = some (next, actions)) : next.Unselecting := by
  intro active
  obtain ⟨input, rest, _, takes, ⟨discovered, updates⟩, isFlights⟩ := World.act_takes acts
  have move := update_moves world.app discovered input
  have power := update_power world.app discovered input
  rw [updates] at move power
  have before : (world.app.phase ≠ .cancellingForUserSelection ∧
      ∀ flight ∈ world.flights, flight.task.kind ≠ .selection) ∧
      next.app.phase ≠ .cancellingForUserSelection := by
    cases power with
    | quiet quiet =>
      have stillActive : world.app.powerState ≠ .idle := fun idle => active (quiet.power.trans idle)
      refine ⟨unselecting stillActive, fun cancelling => ?_⟩
      cases quiet.unselecting cancelling with
      | inl cancelling => exact (unselecting stillActive).1 cancelling
      | inr idle => exact stillActive idle
    | opens asks allowed _ phase => exact ⟨consistent.unselecting allowed, phase ▸ (consistent.unselecting allowed).1⟩
    | leaves idle => exact absurd idle active
    | confirms _ confirming _ phase =>
      have stillActive : world.app.powerState ≠ .idle := by simp [confirming]
      exact ⟨unselecting stillActive, phase ▸ (unselecting stillActive).1⟩
  refine ⟨before.2, ?_⟩
  intro flight member selection
  rw [isFlights] at member
  cases List.mem_append.mp member with
  | inl isOld => exact before.1.2 flight ((consistent.takes takes).2.1.subset isOld) selection
  | inr isNew => exact before.2 (move.selecting (World.perform_of_numbered isNew) selection)

theorem World.Starts.idle {world : World} (starts : world.Starts) : world.app.powerState = .idle := by
  obtain ⟨account, sessions, isStart⟩ := starts
  subst isStart
  simp only [App.new]
  split
  next => exact focusFirst_powerState _
  next => split <;> rfl

theorem World.unselecting_of_reachable {world : World} (reachable : greeterSystem.Reachable world) :
    world.Unselecting := by
  induction reachable with
  | initial starts => exact fun active => absurd starts.idle active
  | step reachable steps unselecting =>
    obtain ⟨acted, acts, isNext⟩ := Option.map_eq_some_iff.mp steps
    exact isNext ▸ unselecting.act (World.consistent_of_reachable reachable) acts

/-! ## Runs -/

variable (run : greeterSystem.Run)

theorem power_of_run {index : Nat} (bound : index < run.length) :
    ∃ input actions, (run.state index).delivers (run.label index) = some input ∧
      (run.state index).act (run.label index) = some (run.state (index + 1), actions) ∧
      PowerMove (run.state index).app input ((run.state (index + 1)).app, actions) := by
  obtain ⟨actions, acts⟩ := acts_of_run run bound
  obtain ⟨input, _, delivers, _, ⟨discovered, updates⟩, _⟩ := World.act_takes acts
  have power := update_power (run.state index).app discovered input
  rw [updates] at power
  exact ⟨input, actions, delivers, acts, power⟩

/-- The step asks for the action while it may be asked for. -/
def World.OpensDialog (world : World) (label : Label) (action : PowerAction) : Prop :=
  world.app.canRequestPower = true ∧
    ∃ input, world.delivers label = some input ∧ input.AsksPower world.app action

/-- An open dialog was opened for its action, and has stayed open since. -/
theorem opened_before {index : Nat} (bound : index ≤ run.length) {action : PowerAction}
    (confirming : (run.state index).app.powerState = .confirming action) :
    ∃ opened < index, (run.state opened).OpensDialog (run.label opened) action ∧
      ∀ between, opened < between → between ≤ index → (run.state between).app.powerState = .confirming action := by
  have initially : (run.state 0).app.powerState ≠ .confirming action := by
    rw [World.Starts.idle run.starts]
    simp
  obtain ⟨opened, before, outside, inside⟩ :=
    run.entered (fun world => world.app.powerState = .confirming action) bound initially confirming
  refine ⟨opened, before, ?_, inside⟩
  -- The dialog opened with the first step after which it stayed open.
  have after := inside (opened + 1) (by omega) (by omega)
  obtain ⟨input, actions, delivers, _, power⟩ := power_of_run run (show opened < run.length by omega)
  cases power with
  | quiet quiet => exact absurd (quiet.power.symm.trans after) outside
  | opens asks allowed power =>
    rw [after, PowerState.confirming.injEq] at power
    exact ⟨allowed, input, delivers, power ▸ asks⟩
  | leaves idle => simp [after] at idle
  | confirms _ _ power => simp [after] at power

/-- The step delivers a message that the gate of the power state drops. -/
def World.Drops (world : World) (label : Label) (input : Input) : Prop :=
  world.delivers label = some input ∧ world.app.powerAllows input = false

theorem update_dropped {app : App} {input : Input} (discovered : List Session)
    (dropped : app.powerAllows input = false) : app.update discovered input = (app, []) := by
  simp [update, allows, dropped]

theorem dropped_kept {index : Nat} (bound : index < run.length) {input : Input}
    (drops : (run.state index).Drops (run.label index) input) :
    (run.state (index + 1)).app = (run.state index).app := by
  obtain ⟨actions, acts⟩ := acts_of_run run bound
  obtain ⟨delivered, _, delivers, _, ⟨discovered, updates⟩, _⟩ := World.act_takes acts
  cases drops.1.symm.trans delivers
  rw [update_dropped discovered drops.2] at updates
  exact (Prod.mk.inj updates).1.symm

/-- While power is asked for or under way, no step ends a cancellation of the selection. -/
theorem no_selection_ends {index : Nat} (bound : index ≤ run.length)
    (active : (run.state index).app.powerState ≠ .idle) (attempt : Attempt) (result : Except String Unit) :
    (run.state index).delivers (run.label index) ≠ some (.message (.userSelectionCancelled attempt result)) := by
  intro delivers
  obtain ⟨flight, outcome, _, inFlight, ends⟩ := World.finishing_of_delivers delivers rfl
  obtain ⟨client, isTask⟩ := Flight.message_userSelectionCancelled ends
  refine (World.unselecting_of_reachable (run.reachable index bound) active).2 flight inFlight ?_
  rw [isTask]
  rfl

theorem active_of_drops {world : World} {label : Label} {input : Input} (drops : world.Drops label input) :
    world.app.powerState ≠ .idle := by
  intro idle
  have dropped := drops.2
  cases input <;> simp [powerAllows, idle] at dropped

theorem phase_after_dialog {index : Nat} (bound : index < run.length)
    (active : (run.state index).app.powerState ≠ .idle) (idle : (run.state (index + 1)).app.powerState = .idle) :
    (run.state (index + 1)).app.phase = (run.state index).app.phase := by
  obtain ⟨_, _, _, _, power⟩ := power_of_run run bound
  cases power with
  | quiet quiet => exact absurd (quiet.power.symm.trans idle) active
  | opens _ _ power => simp [idle] at power
  | leaves _ phase => exact phase
  | confirms _ _ power => simp [idle] at power

theorem update_retries {app : App} (discovered : List Session) (idle : app.powerState = .idle)
    (unclosed : app.closing = none) (failed : app.phase = .userSelectionCancellationFailed) :
    let (next, actions) := app.update discovered (.message .retryUserSelectionCancellation)
    next.phase = .cancellingForUserSelection ∧
      .perform (.cancelForUserSelection none next.conversation.attempt) ∈ actions := by
  have allowed : app.allows (.message .retryUserSelectionCancellation) = true := by
    simp [allows, closingAllows, powerAllows, idle, unclosed]
  have conversation (app : App) : app.focusFirst.conversation = app.conversation :=
    congrArg Core.conversation app.focusFirst_core
  simp only [update, allowed, Bool.not_true, Bool.false_eq_true, if_false, handle,
    retryUserSelectionCancellation, if_pos failed]
  simp [conversation, cancelForUserSelection, Conversation.setNotice]

theorem retries_of_run {index : Nat} (bound : index < run.length)
    (delivers : (run.state index).delivers (run.label index) = some (.message .retryUserSelectionCancellation))
    (idle : (run.state index).app.powerState = .idle) (unclosed : (run.state index).app.closing = none)
    (failed : (run.state index).app.phase = .userSelectionCancellationFailed) :
    (run.state (index + 1)).app.phase = .cancellingForUserSelection ∧
      (run.state index).Asks (run.label index)
        (.perform (.cancelForUserSelection none (run.state (index + 1)).app.conversation.attempt)) := by
  obtain ⟨actions, acts⟩ := acts_of_run run bound
  obtain ⟨delivered, _, isDelivered, _, ⟨discovered, updates⟩, _⟩ := World.act_takes acts
  cases delivers.symm.trans isDelivered
  have retried := update_retries discovered idle unclosed failed
  rw [updates] at retried
  exact ⟨retried.1, _, _, acts, retried.2⟩

/-- The step confirms the action. -/
def World.ConfirmsDialog (world : World) (label : Label) (action : PowerAction) : Prop :=
  ∃ input, world.delivers label = some input ∧ input.ConfirmsPower world.app action

theorem executed_of_run {index : Nat} (bound : index < run.length) {action : PowerAction}
    (executes : (run.state index).Asks (run.label index) (.perform (.executePower action))) :
    (run.state index).ConfirmsDialog (run.label index) action ∧
      (run.state index).app.powerState = .confirming action := by
  obtain ⟨next, asked, acted, member⟩ := executes
  obtain ⟨input, actions, delivers, acts, power⟩ := power_of_run run bound
  have isActions := (Prod.mk.inj (Option.some.inj (acted.symm.trans acts))).2
  subst isActions
  cases power with
  | quiet quiet => exact absurd member (quiet.unexecuted action)
  | opens => cases member
  | leaves => cases member
  | confirms confirms before =>
    cases List.mem_singleton.mp member
    exact ⟨⟨input, delivers, confirms⟩, before⟩

/-- While power is asked for or under way, no cancellation of the selection is outstanding, and no message
that is dropped ends one.  A retry that is dropped changes nothing: the dialog leaves the phase as it is, and
outside of it the retry sets the cancellation off.  An action is executed by its own confirmation, in the
dialog that was opened for it and has stayed open since. -/
theorem power_gate :
    (∀ index ≤ run.length, (run.state index).app.powerState ≠ .idle →
      (run.state index).app.phase ≠ .cancellingForUserSelection ∧
      ∀ flight ∈ (run.state index).flights, ∀ client attempt,
        flight.task ≠ .cancelForUserSelection client attempt) ∧
    (∀ index < run.length, ∀ input, (run.state index).Drops (run.label index) input →
      (run.state (index + 1)).app = (run.state index).app ∧
      ∀ attempt result, input ≠ .message (.userSelectionCancelled attempt result)) ∧
    (∀ index < run.length, (run.state index).app.powerState ≠ .idle →
      (run.state (index + 1)).app.powerState = .idle →
      (run.state (index + 1)).app.phase = (run.state index).app.phase) ∧
    (∀ index < run.length,
      (run.state index).delivers (run.label index) = some (.message .retryUserSelectionCancellation) →
      (run.state index).app.powerState = .idle → (run.state index).app.closing = none →
      (run.state index).app.phase = .userSelectionCancellationFailed →
      (run.state (index + 1)).app.phase = .cancellingForUserSelection ∧
        (run.state index).Asks (run.label index)
          (.perform (.cancelForUserSelection none (run.state (index + 1)).app.conversation.attempt))) ∧
    (∀ index < run.length, ∀ action,
      (run.state index).Asks (run.label index) (.perform (.executePower action)) →
      (run.state index).ConfirmsDialog (run.label index) action ∧
      ∃ opened < index, (run.state opened).OpensDialog (run.label opened) action ∧
        ∀ between, opened < between → between ≤ index →
          (run.state between).app.powerState = .confirming action) := by
  refine ⟨?_, ?_, ?_, ?_, ?_⟩
  · intro index bound active
    obtain ⟨phase, flights⟩ := World.unselecting_of_reachable (run.reachable index bound) active
    refine ⟨phase, ?_⟩
    intro flight inFlight client attempt isTask
    refine flights flight inFlight ?_
    rw [isTask]
    rfl
  · -- A message is dropped only under the dialog, where no cancellation is in flight.
    intro index bound input drops
    refine ⟨dropped_kept run bound drops, ?_⟩
    intro attempt result isInput
    subst isInput
    exact no_selection_ends run (Nat.le_of_lt bound) (active_of_drops drops) attempt result drops.1
  · exact fun index bound active idle => phase_after_dialog run bound active idle
  · exact fun index bound delivers idle unclosed failed => retries_of_run run bound delivers idle unclosed failed
  · intro index bound action executes
    obtain ⟨confirms, confirming⟩ := executed_of_run run bound executes
    exact ⟨confirms, opened_before run (Nat.le_of_lt bound) confirming⟩

/-! ## A retry under the dialog -/

def otherAccount : Account where
  username := "ada"
  displayName := "Ada"
  lastLogin := none
  named := by decide

/-- The cancellation of a session fails, and its retry comes after the question for a power action. -/
def retryLabels : List Label :=
  [.finish 0 (.discovered (.ok [sampleAccount, otherAccount])),
    .input (.message (.selectAccount sampleAccount)) [], .finish 0 (.answered (.ok (.prompt true "Password:"))),
    .input (.message .changeUser) [], .finish 0 (.cancelled (.error "greetd is busy")),
    .input (.message (.askPower .suspend)) [], .input (.message .retryUserSelectionCancellation) [],
    .input (.message (.confirmPower .suspend)) []]

def retryRun : greeterSystem.Run :=
  TransitionSystem.runOfLabels (startWorld none [sampleSession]) ⟨_, _, rfl⟩ retryLabels (by decide +kernel)

theorem power_gate_sample :
    (retryRun.state 7).Asks (retryRun.label 7) (.perform (.executePower .suspend)) ∧
      ∃ opened < 7, (retryRun.state opened).OpensDialog (retryRun.label opened) .suspend := by
  have executes : (retryRun.state 7).Asks (retryRun.label 7) (.perform (.executePower .suspend)) :=
    World.asks_iff.mpr (by decide +kernel)
  obtain ⟨_, opened, before, opens, _⟩ := (power_gate retryRun).2.2.2.2 7 (by decide) .suspend executes
  exact ⟨executes, opened, before, opens⟩

/-- A retry that the phase is ready for is dropped under the dialog. -/
theorem retry_dropped :
    ¬ ∀ (run : greeterSystem.Run), ∀ index < run.length, ∀ input,
      (run.state index).Drops (run.label index) input →
      (∀ attempt result, input ≠ .message (.userSelectionCancelled attempt result)) ∧
      ¬ (input = .message .retryUserSelectionCancellation ∧
        (run.state index).app.phase = .userSelectionCancellationFailed) := by
  intro never
  have drops : (retryRun.state 6).Drops (retryRun.label 6) (.message .retryUserSelectionCancellation) :=
    ⟨rfl, by decide +kernel⟩
  exact (never retryRun 6 (by decide) _ drops).2 ⟨rfl, by decide +kernel⟩

end Genkan.Greeter
