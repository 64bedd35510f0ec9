import Genkan.Coordination.Joining

/-! # What a failed request means

`enter_paths` takes everyone who holds the lease for a locker, also a waiter that holds it only while
it fails itself, and a process that gives up before it is an owner.  Apart from these two, a request
fails as `ExistingLockerFailed` only if an owner held the lease in its call.
-/

namespace Genkan.Coordination

open Foundations

/-- At a moment so far the process was in its call while an owner held the lease. -/
def MetOwner (run : coordination.Run) (index process : Nat) : Prop :=
  ∃ moment, moment ≤ index ∧ ((run.state moment).phases process).calling = true ∧
    ∃ owner, (run.state moment).lease = some owner ∧ ((run.state moment).phases owner).owns = true

/-- The lease is not held by a failing waiter at a first attempt, and whoever prepares to be an owner
does not end while callers that it has refused are still in their calls. -/
def Genuine (system : System) : Label → Prop
  | .tryLock _ => ∀ holder, system.lease = some holder → system.phases holder ≠ .failing
  | .fails holder | .crash holder => (system.phases holder).prepares = true →
      ∀ process, system.refusals process = some holder → (system.phases process).calling = false
  | _ => True

namespace System

/-! ## One step -/

theorem Change.refusals {system next : System} {label : Label} (change : system.Change label next)
    (process : Nat) :
    next.refusals process = system.refusals process ∨ system.phases process = .opened := by
  cases change with
  | refused opened held =>
    rename_i other holder
    by_cases same : process = other
    · exact .inr (same ▸ opened)
    · exact .inl (by simp [Function.update_of_ne same])
  | accepted =>
    simp only [accept]
    split
    · exact .inl rfl
    · split <;> exact .inl rfl
  | _ => exact .inl rfl

/-- Whoever prepares goes on to do so, becomes an owner, or ends. -/
theorem prepares_after {system next : System} {label : Label} {process : Nat} {before after : Phase}
    (advances : Advances system next label process before after) (prepares : before.prepares = true) :
    after.prepares = true ∨ after.owns = true ∨ label = .fails process ∨ label = .crash process := by
  cases advances with
  | same => exact .inl prepares
  | moved step =>
    cases step with
    | owned => exact .inr (.inl rfl)
    | _ => contradiction
  | took step => cases step <;> contradiction
  | unlinked step =>
    cases step with
    | stale => exact .inl rfl
    | own => contradiction
  | bound => exact .inl rfl
  | closedLease step => cases step <;> contradiction
  | ended step isLabel => exact .inr (.inr isLabel)
  | _ => contradiction

/-- Those who are past a failed first attempt come from it, or were past it before. -/
theorem refused_before {system next : System} {label : Label} {process : Nat} {before after : Phase}
    (advances : Advances system next label process before after) (refused : after.refused = true) :
    before.refused = true ∨ (before = .opened ∧ label = .tryLock process ∧
      ∃ holder, system.lease = some holder ∧ next.refusals process = some holder) := by
  cases advances with
  | same => exact .inl refused
  | moved step => cases step <;> first | exact .inl rfl | contradiction
  | took step =>
    cases step with
    | first => contradiction
    | probed => exact .inl rfl
  | refused isLabel held refusal => exact .inr ⟨rfl, isLabel, _, held, refusal⟩
  | unlinked step => cases step <;> contradiction
  | connected => exact .inl rfl
  | closedLease step => cases step <;> contradiction
  | ended step => cases step <;> contradiction
  | _ => contradiction

theorem evolves_accepted_flag {system next : System} {label : Label} {waiter : Nat}
    {previous : Option Connection} {connection : Connection}
    (evolves : Evolves system next label waiter previous (some connection))
    (accepted : connection.accepted = true) (unknown : previous ≠ none) :
    ∃ before, previous = some before ∧ (before.accepted = true ∨
      (system.listeners connection.listener).activity = .accepting) := by
  cases evolves with
  | same => exact ⟨connection, rfl, .inl accepted⟩
  | connected => contradiction
  | hungUp => exact ⟨_, rfl, .inl accepted⟩
  | accepted accepting => exact ⟨_, rfl, .inr accepting⟩
  | turnedAway accepting => exact ⟨_, rfl, .inr accepting⟩
  | told => exact ⟨_, rfl, .inl accepted⟩

/-- The owner of a running coordinator holds the lease. -/
theorem Coordinated.host {system : System} (coordinated : system.Coordinated) (process : Nat)
    (runs : (system.listeners process).activity.runs = true) :
    system.lease = some process ∧ (system.phases process).owns = true := by
  have hosts := coordinated.hosted process runs
  have owns : (system.phases process).holds = true ∧ (system.phases process).owns = true := by
    revert hosts
    cases system.phases process <;> simp [Phase.hosts, Phase.holds, Phase.owns]
  exact ⟨(coordinated.exclusive process).mpr owns.1, owns.2⟩

end System

theorem Phase.calling_of_refused {phase : Phase} (refused : phase.refused = true) :
    phase.calling = true := by
  simp [Phase.calling, refused]

theorem MetOwner.later {run : coordination.Run} {index later process : Nat}
    (met : MetOwner run index process) (order : index ≤ later) : MetOwner run later process := by
  obtain ⟨moment, before, rest⟩ := met
  exact ⟨moment, Nat.le_trans before order, rest⟩

/-! ## Whole runs -/

/-- What a genuine run says about those who were refused, accepted, and have failed. -/
structure Fails (run : coordination.Run) (index : Nat) : Prop where
  refused : ∀ process, ((run.state index).phases process).refused = true →
    MetOwner run index process ∨ ∃ holder, (run.state index).refusals process = some holder ∧
      ((run.state index).phases holder).prepares = true
  accepted : ∀ waiter connection, (run.state index).connections waiter = some connection →
    connection.accepted = true → ((run.state index).phases waiter).calling = true →
    MetOwner run index waiter
  failed : ∀ process, (run.state index).phases process = .returned .existingLockerFailed →
    MetOwner run index process

/-- A holder that prepares does so after the step as well, or has become an owner. -/
theorem prepares_or_met {run : coordination.Run} {index : Nat} (bound : index < run.length)
    (genuine : Genuine (run.state index) (run.label index)) {process holder : Nat}
    (prepares : ((run.state index).phases holder).prepares = true)
    (refusal : (run.state (index + 1)).refusals process = some holder)
    (refused : ((run.state (index + 1)).phases process).refused = true)
    (patient : (run.state index).refusals process = some holder ∧
        ((run.state index).phases process).calling = true ∨
      run.label index = .tryLock process) :
    MetOwner run (index + 1) process ∨ ∃ holder, (run.state (index + 1)).refusals process = some holder ∧
      ((run.state (index + 1)).phases holder).prepares = true := by
  have change := System.next_change (run.steps index bound)
  have coordinated := coordination_coordinated (run.reachable (index + 1) bound)
  -- The holder does not end while a caller that it has refused is still in its call.
  have stays : run.label index = .fails holder ∨ run.label index = .crash holder → False := by
    intro ends
    rcases patient with ⟨before, calling⟩ | isLabel
    · have gone : ((run.state index).phases process).calling = false := by
        rcases ends with isLabel | isLabel <;> rw [isLabel] at genuine <;>
          exact genuine prepares process before
      exact absurd (gone.symm.trans calling) nofun
    · rcases ends with other | other <;> exact absurd (isLabel.symm.trans other) nofun
  rcases System.prepares_after (change.advances holder) prepares with still | owns | ends
  · exact .inr ⟨holder, refusal, still⟩
  · have holds : ((run.state (index + 1)).phases holder).holds = true := by
      revert owns
      cases (run.state (index + 1)).phases holder with
      | abandoning leased => cases leased <;> simp [Phase.owns, Phase.holds]
      | _ => simp [Phase.owns, Phase.holds]
    exact .inl ⟨index + 1, Nat.le_refl _, Phase.calling_of_refused refused, holder,
      (coordinated.exclusive holder).mpr holds, owns⟩
  · exact absurd ends stays

theorem Fails.step {run : coordination.Run} {index : Nat} (bound : index < run.length)
    (genuine : Genuine (run.state index) (run.label index)) (fails : Fails run index) :
    Fails run (index + 1) := by
  have coordinated := coordination_coordinated (run.reachable index (Nat.le_of_lt bound))
  have change := System.next_change (run.steps index bound)
  obtain ⟨refused, accepted, failed⟩ := fails
  refine ⟨?_, ?_, ?_⟩
  · intro process isRefused
    rcases System.refused_before (change.advances process) isRefused with
      before | ⟨opened, isLabel, holder, held, refusal⟩
    · have notOpened : (run.state index).phases process ≠ .opened := by
        intro opened
        simp [opened, Phase.refused] at before
      have kept := (change.refusals process).resolve_right notOpened
      rcases refused process before with met | ⟨holder, refusal, prepares⟩
      · exact .inl (met.later (Nat.le_succ index))
      · exact prepares_or_met bound genuine prepares (kept.trans refusal) isRefused
          (.inl ⟨refusal, Phase.calling_of_refused before⟩)
    · have settled : (run.state index).phases holder ≠ .failing := by
        rw [isLabel] at genuine
        exact genuine holder held
      have holds := (coordinated.exclusive holder).mp held
      have kind : ((run.state index).phases holder).owns = true ∨
          ((run.state index).phases holder).prepares = true := by
        revert holds settled
        cases (run.state index).phases holder with
        | abandoning leased => cases leased <;> simp [Phase.holds, Phase.owns]
        | _ => simp [Phase.holds, Phase.owns, Phase.prepares]
      cases kind with
      | inl owns => exact .inl ⟨index, Nat.le_succ index, by simp [opened, Phase.calling], holder, held, owns⟩
      | inr prepares => exact prepares_or_met bound genuine prepares refusal isRefused (.inr isLabel)
  · intro waiter connection isConnection isAccepted calling
    have evolves := change.evolves coordinated waiter
    rw [isConnection] at evolves
    have known : (run.state index).connections waiter ≠ none := by
      intro unknown
      rw [unknown] at evolves
      cases evolves
      contradiction
    obtain ⟨before, isBefore, was⟩ := System.evolves_accepted_flag evolves isAccepted known
    have called := coordinated.connected_calls change isBefore calling
    cases was with
    | inl wasAccepted => exact (accepted waiter before isBefore wasAccepted called).later (Nat.le_succ index)
    | inr accepting =>
      obtain ⟨held, owns⟩ := coordinated.host connection.listener
        (by simp [accepting, Activity.runs])
      exact ⟨index, Nat.le_succ index, called, _, held, owns⟩
  · intro process isFailed
    have advances := change.advances process
    rw [isFailed] at advances
    generalize isPhase : (run.state index).phases process = phase at advances
    generalize isOutcome : Phase.returned .existingLockerFailed = after at advances
    cases advances with
    | same => exact (failed process (isPhase.trans isOutcome.symm)).later (Nat.le_succ index)
    | readEnded isConnection closed =>
      rename_i connection
      have isAccepted : connection.accepted = true := by
        have result := Phase.returned.inj isOutcome
        simp only [System.outcome] at result
        split at result
        next => contradiction
        next accepted => simpa using accepted
      exact (accepted process connection isConnection isAccepted
        (by simp [isPhase, Phase.calling, Phase.refused])).later (Nat.le_succ index)
    | closedLease step =>
      cases step with
      | gaveUp =>
        rcases refused process (by simp [isPhase, Phase.refused]) with met | ⟨holder, _, prepares⟩
        · exact met.later (Nat.le_succ index)
        · -- The lease that it gives up is its own, so that nobody else prepares.
          have held := (coordinated.exclusive process).mpr (by simp [isPhase, Phase.holds])
          have alsoHeld := (coordinated.exclusive holder).mpr (by
            revert prepares
            cases (run.state index).phases holder <;> simp [Phase.prepares, Phase.holds])
          obtain rfl : process = holder := Option.some.inj (held.symm.trans alsoHeld)
          simp [isPhase, Phase.prepares] at prepares
      | dropped => contradiction
      | released => contradiction
    | moved step => cases step <;> contradiction
    | took step => cases step <;> contradiction
    | unlinked step => cases step <;> contradiction
    | ended step => cases step <;> contradiction
    | _ => contradiction

theorem fails_of_genuine (run : coordination.Run) (genuine : run.Meets Genuine) (index : Nat)
    (bound : index ≤ run.length) : Fails run index := by
  refine run.indexed_invariant (Fails run) ?_ ?_ index bound
  · have starts : run.state 0 = .start := run.starts
    refine ⟨?_, ?_, ?_⟩
    · intro process refused
      rw [starts] at refused
      contradiction
    · intro waiter connection isConnection
      rw [starts] at isConnection
      contradiction
    · intro process failed
      rw [starts] at failed
      contradiction
  · intro index bound fails
    exact fails.step bound (genuine index bound)

/-- In a run without false lockers, a request fails as `ExistingLockerFailed` only if an owner held
the lease at some moment of its call. -/
theorem failed_for_owner (run : coordination.Run) (genuine : run.Meets Genuine) {index : Nat}
    (bound : index ≤ run.length) {process : Nat}
    (failed : (run.state index).phases process = .returned .existingLockerFailed) :
    MetOwner run index process :=
  (fails_of_genuine run genuine index bound).failed process failed

/-- An owner dies, and the caller it has refused gives up. -/
def lostLabels : List Label :=
  [.enter 0, .tryLock 0, .removeFile 0, .bind 0, .own 0, .enter 1, .tryLock 1, .crash 0, .connect 1,
    .probe 1, .giveUp 1]

def lostRun : coordination.Run :=
  TransitionSystem.runOfLabels System.start rfl lostLabels rfl

theorem failed_for_owner_sample : MetOwner lostRun 11 1 := by
  refine failed_for_owner lostRun ?_ (show 11 ≤ lostRun.length by decide) rfl
  have checks : ∀ index, index < 11 → (match lostRun.label index with
      | .tryLock _ => (lostRun.state index).lease.all fun holder =>
          (lostRun.state index).phases holder != .failing
      | .fails holder | .crash holder => !((lostRun.state index).phases holder).prepares
      | _ => true) = true := by decide
  intro index bound
  have check := checks index bound
  cases isLabel : lostRun.label index with
  | tryLock process =>
    intro holder held
    simpa [isLabel, held] using check
  | fails holder =>
    intro prepares
    simp [isLabel, prepares] at check
  | crash holder =>
    intro prepares
    simp [isLabel, prepares] at check
  | _ => trivial

/-- Before the caller gives up, a third one tries the lease. -/
def probedLabels : List Label :=
  [.enter 0, .tryLock 0, .removeFile 0, .bind 0, .own 0, .enter 1, .tryLock 1, .crash 0, .connect 1,
    .probe 1, .enter 2, .tryLock 2, .giveUp 1, .connect 2, .probe 2, .giveUp 2]

def probedRun : coordination.Run :=
  TransitionSystem.runOfLabels System.start rfl probedLabels rfl

theorem failed_for_probe :
    ¬ ∀ (run : coordination.Run) (index : Nat), index ≤ run.length → ∀ process,
      (run.state index).phases process = .returned .existingLockerFailed →
      MetOwner run index process := by
  intro claim
  obtain ⟨moment, order, calling, owner, held, owns⟩ := claim probedRun 16 (Nat.le_refl 16) 2 rfl
  have never : ∀ moment, moment ≤ 16 → ((probedRun.state moment).phases 2).calling = true →
      (probedRun.state moment).lease.all
        (fun owner => !((probedRun.state moment).phases owner).owns) = true := by decide
  have absent := never moment order calling
  simp [held, owns] at absent

end Genkan.Coordination
