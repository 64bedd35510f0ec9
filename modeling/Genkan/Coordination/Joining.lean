import Genkan.Coordination.Delivery

/-! # What joining means

A coordinator that was confirmed goes on to answer READY until its owner has dropped `Active`, also
after the lock was given up.  A caller that joins has seen a confirmed lock in its own call, unless
it was told READY by a lock that was given up before the call began.
-/

namespace Genkan.Coordination

open Foundations

/-- The compositor has confirmed the lock of this owner, and it has not been given up. -/
def System.Locked (system : System) (owner : Nat) : Prop :=
  (system.locks owner).locked = true ∧ (system.locks owner).unlockedAt = none

/-- At a moment so far the process was in its call while the owner's lock was confirmed. -/
def MetLock (run : coordination.Run) (index process owner : Nat) : Prop :=
  ∃ moment, moment ≤ index ∧ ((run.state moment).phases process).calling = true ∧
    (run.state moment).Locked owner

/-- Whoever is told READY next has begun its call before the lock was given up. -/
def Timely (system : System) : Label → Prop
  | .coordinate process _ => ∀ waiter rest mark,
      (system.listeners process).activity.serves = waiter :: rest →
      (system.locks process).unlockedAt = some mark → system.tickets waiter < mark
  | _ => True

namespace System

/-! ## One step -/

theorem calling_before {system next : System} {label : Label} {process : Nat} {before after : Phase}
    (advances : Advances system next label process before after) (calling : after.calling = true) :
    before.calling = true ∨ (before = .idle ∧ next.tickets process = system.calls) := by
  cases advances with
  | same => exact .inl calling
  | moved step => cases step <;> first | exact .inl rfl | contradiction
  | entered ticket => exact .inr ⟨rfl, ticket⟩
  | took step => cases step <;> exact .inl rfl
  | refused => exact .inl rfl
  | unlinked step =>
    cases step with
    | stale => exact .inl rfl
    | own => contradiction
  | bound => exact .inl rfl
  | connected => exact .inl rfl
  | closedLease step => cases step <;> contradiction
  | readEnded => contradiction
  | ended step => cases step <;> contradiction
  | activated => contradiction
  | joined => contradiction
  | tornDown => contradiction

/-- A lock that has been given up was given up before, or is given up by a step of its owner alone. -/
theorem Change.unlocked_before {system next : System} {label : Label} (isSealed : system.Sealed)
    (change : system.Change label next) {owner mark : Nat}
    (unlocked : (next.locks owner).unlockedAt = some mark) :
    (system.locks owner).unlockedAt = some mark ∨ (system.Locked owner ∧ next.phases = system.phases) := by
  have updated : ∀ {process : Nat} {lock : Lock},
      (Function.update system.locks process lock owner).unlockedAt = some mark →
      (owner = process → lock.unlockedAt = some mark → (system.locks owner).unlockedAt = some mark ∨
        (system.Locked owner ∧ next.phases = system.phases)) →
      (system.locks owner).unlockedAt = some mark ∨ (system.Locked owner ∧ next.phases = system.phases) := by
    intro process lock isUnlocked own
    by_cases same : owner = process
    · subst same
      rw [Function.update_self] at isUnlocked
      exact own rfl isUnlocked
    · rw [Function.update_of_ne same] at isUnlocked
      exact .inl isUnlocked
  cases change with
  | locked running same isLocked piped =>
    refine updated unlocked fun isOwner isUnlocked => .inl ?_
    rw [isOwner]
    exact same.symm.trans isUnlocked
  | unlocked running written held =>
    refine updated unlocked fun isOwner _ => .inr ⟨?_, rfl⟩
    rw [isOwner]
    exact ⟨isSealed.locked _ written, held⟩
  | tornDown running =>
    refine updated unlocked fun isOwner isUnlocked => .inl ?_
    rw [isOwner]
    exact isUnlocked
  | accepted =>
    simp only [accept] at unlocked
    split at unlocked
    · exact .inl unlocked
    · split at unlocked <;> exact .inl unlocked
  | _ => exact .inl unlocked

theorem Change.tickets {system next : System} {label : Label} (change : system.Change label next)
    (process : Nat) :
    next.tickets process = system.tickets process ∨
      (next.tickets process = system.calls ∧ system.phases process = .idle) := by
  cases change with
  | entered idle =>
    rename_i other
    by_cases same : process = other
    · subst same
      exact .inr ⟨by simp, idle⟩
    · exact .inl (by simp [Function.update_of_ne same])
  | accepted =>
    simp only [accept]
    split
    · exact .inl rfl
    · split <;> exact .inl rfl
  | _ => exact .inl rfl

/-- A connection keeps its listener, and READY comes only from the coordinator of this listener. -/
theorem evolves_received {system next : System} {label : Label} {waiter : Nat}
    {previous : Option Connection} {connection : Connection}
    (evolves : Evolves system next label waiter previous (some connection))
    (received : 0 < connection.received) :
    (∃ before, previous = some before ∧ before.listener = connection.listener ∧ 0 < before.received) ∨
    ((∃ fails, label = .coordinate connection.listener fails) ∧
      (∃ rest, (system.listeners connection.listener).activity.serves = waiter :: rest) ∧
      (system.listeners connection.listener).confirmed = true) := by
  cases evolves with
  | same => exact .inl ⟨connection, rfl, rfl, received⟩
  | connected => contradiction
  | hungUp => exact .inl ⟨_, rfl, rfl, received⟩
  | accepted => exact .inl ⟨_, rfl, rfl, received⟩
  | turnedAway => exact .inl ⟨_, rfl, rfl, received⟩
  | told isLabel unread serving confirmed => exact .inr ⟨isLabel, ⟨_, serving⟩, confirmed⟩

/-- A connection is never lost, nor does it change its listener. -/
theorem evolves_some {system next : System} {label : Label} {waiter : Nat} {before : Connection}
    {after : Option Connection} (evolves : Evolves system next label waiter (some before) after) :
    ∃ connection, after = some connection ∧ connection.listener = before.listener := by
  cases evolves with
  | same => exact ⟨before, rfl, rfl⟩
  | hungUp => exact ⟨_, rfl, rfl⟩
  | accepted => exact ⟨_, rfl, rfl⟩
  | turnedAway => exact ⟨_, rfl, rfl⟩
  | told => exact ⟨_, rfl, rfl⟩

/-- A caller with a connection was already connected and in its call. -/
theorem Coordinated.connected_calls {system next : System} {label : Label}
    (coordinated : system.Coordinated) (change : system.Change label next) {waiter : Nat}
    {before : Connection} (isBefore : system.connections waiter = some before)
    (calling : (next.phases waiter).calling = true) : (system.phases waiter).calling = true := by
  rcases calling_before (change.advances waiter) calling with before | ⟨idle, _⟩
  · exact before
  · simpa [idle] using coordinated.attached waiter before isBefore

end System

theorem MetLock.later {run : coordination.Run} {index later process owner : Nat}
    (met : MetLock run index process owner) (order : index ≤ later) : MetLock run later process owner := by
  obtain ⟨moment, before, calling, locked⟩ := met
  exact ⟨moment, Nat.le_trans before order, calling, locked⟩

/-! ## Whole runs -/

/-- What a run that has been timely so far says about locks that were given up, about READY, and
about those who have joined. -/
structure Joins (run : coordination.Run) (index : Nat) : Prop where
  earlier : ∀ process owner mark, ((run.state index).phases process).calling = true →
    ((run.state index).locks owner).unlockedAt = some mark →
    (run.state index).tickets process < mark → MetLock run index process owner
  told : ∀ waiter connection, (run.state index).connections waiter = some connection →
    0 < connection.received → ((run.state index).phases waiter).calling = true →
    MetLock run index waiter connection.listener
  joined : ∀ process, (run.state index).phases process = .returned .joined →
    ∃ connection, (run.state index).connections process = some connection ∧
      MetLock run index process connection.listener

theorem Joins.step {run : coordination.Run} {index : Nat} (bound : index < run.length)
    (timely : Timely (run.state index) (run.label index)) (joins : Joins run index) :
    Joins run (index + 1) := by
  have coordinated := coordination_coordinated (run.reachable index (Nat.le_of_lt bound))
  have change := System.next_change (run.steps index bound)
  obtain ⟨earlier, told, joined⟩ := joins
  refine ⟨?_, ?_, ?_⟩
  · intro process owner mark calling unlocked ticket
    rcases change.unlocked_before coordinated.isSealed unlocked with before | ⟨locked, phases⟩
    · have markBound := (coordinated.isSealed.unlocked owner mark before).2
      rcases System.calling_before (change.advances process) calling with called | ⟨_, isTicket⟩
      · rcases change.tickets process with same | ⟨isTicket, _⟩
        · exact (earlier process owner mark called before (same ▸ ticket)).later (Nat.le_succ index)
        · omega
      · omega
    · exact ⟨index, Nat.le_succ index, phases ▸ calling, locked⟩
  · intro waiter connection isConnection received calling
    have evolves := change.evolves coordinated waiter
    rw [isConnection] at evolves
    rcases System.evolves_received evolves received with
      ⟨before, isBefore, listener, wasReceived⟩ | ⟨⟨fails, isLabel⟩, ⟨rest, serving⟩, confirmed⟩
    · have called := coordinated.connected_calls change isBefore calling
      exact listener ▸ (told waiter before isBefore wasReceived called).later (Nat.le_succ index)
    · -- Told by this step, by a coordinator that has seen the lock confirmed.
      have member : waiter ∈ ((run.state index).listeners connection.listener).connected := by
        simp [Listener.connected, Listener.accepted, serving]
      obtain ⟨before, isBefore, _⟩ := (coordinated.rostered connection.listener).connected waiter member
      have called := coordinated.connected_calls change isBefore calling
      have locked := coordinated.isSealed.locked _ (coordinated.confirmed _ confirmed)
      rw [isLabel] at timely
      cases unlocked : ((run.state index).locks connection.listener).unlockedAt with
      | none => exact ⟨index, Nat.le_succ index, called, locked, unlocked⟩
      | some mark =>
        have ticket := timely waiter rest mark serving unlocked
        exact (earlier waiter _ mark called unlocked ticket).later (Nat.le_succ index)
  · intro process isJoined
    have advances := change.advances process
    rw [isJoined] at advances
    generalize isPhase : (run.state index).phases process = phase at advances
    have evolves := change.evolves coordinated process
    have kept : ∀ before, (run.state index).connections process = some before →
        MetLock run index process before.listener →
        ∃ connection, (run.state (index + 1)).connections process = some connection ∧
          MetLock run (index + 1) process connection.listener := by
      intro before isBefore met
      rw [isBefore] at evolves
      obtain ⟨connection, isConnection, listener⟩ := System.evolves_some evolves
      exact ⟨connection, isConnection, listener ▸ met.later (Nat.le_succ index)⟩
    generalize isOutcome : Phase.returned .joined = after at advances
    cases advances with
    | same =>
      obtain ⟨before, isBefore, met⟩ := joined process (isPhase.trans isOutcome.symm)
      exact kept before isBefore met
    | readEnded isBefore closed =>
      rename_i before
      have received : before.received = 1 := by
        have result := Phase.returned.inj isOutcome
        simp only [System.outcome] at result
        split at result
        next => contradiction
        next =>
          split at result
          next once => exact once
          next => contradiction
      exact kept before isBefore (told process before isBefore (by omega) (by simp [isPhase, Phase.calling,
        Phase.refused]))
    | moved step => cases step <;> contradiction
    | took step => cases step <;> contradiction
    | unlinked step => cases step <;> contradiction
    | closedLease step => cases step <;> contradiction
    | ended step => cases step <;> contradiction
    | _ => contradiction

theorem joins_of_timely (run : coordination.Run) (timely : run.Meets Timely) (index : Nat)
    (bound : index ≤ run.length) : Joins run index := by
  refine run.indexed_invariant (Joins run) ?_ ?_ index bound
  · have starts : run.state 0 = .start := run.starts
    refine ⟨?_, ?_, ?_⟩
    · intro process owner mark calling
      rw [starts] at calling
      contradiction
    · intro waiter connection isConnection
      rw [starts] at isConnection
      contradiction
    · intro process joined
      rw [starts] at joined
      contradiction
  · intro index bound joins
    exact joins.step bound (timely index bound)

/-- In a run in which READY is told only to callers that began before the lock was given up, whoever
joins has been in its call while the lock it joins was confirmed and held. -/
theorem joined_while_locked (run : coordination.Run) (timely : run.Meets Timely) {index : Nat}
    (bound : index ≤ run.length) {process : Nat}
    (joined : (run.state index).phases process = .returned .joined) :
    ∃ connection, (run.state index).connections process = some connection ∧
      MetLock run index process connection.listener :=
  (joins_of_timely run timely index bound).joined process joined

theorem joined_while_locked_sample :
    ∃ connection, (joinRun.state 19).connections 1 = some connection ∧
      MetLock joinRun 19 1 connection.listener := by
  refine joined_while_locked joinRun ?_ (show 19 ≤ joinRun.length by decide) rfl
  have held : ∀ index, index < 19 → (match joinRun.label index with
      | .coordinate process _ => ((joinRun.state index).locks process).unlockedAt.isNone
      | _ => true) = true := by decide
  intro index bound
  have holds := held index bound
  cases isLabel : joinRun.label index with
  | coordinate process fails =>
    intro waiter rest mark _ unlocked
    simp [isLabel, unlocked] at holds
  | _ => trivial

/-- The second caller begins after the first one has given the lock up, and is told READY. -/
def lateLabels : List Label :=
  [.enter 0, .tryLock 0, .removeFile 0, .bind 0, .own 0, .activate 0, .confirm 0, .report 0 true,
    .coordinate 0 false, .coordinate 0 false, .coordinate 0 false, .unlock 0, .enter 1, .tryLock 1,
    .connect 1, .coordinate 0 false, .coordinate 0 false, .coordinate 0 false, .coordinate 0 false,
    .readEnd 1]

def lateRun : coordination.Run :=
  TransitionSystem.runOfLabels System.start rfl lateLabels rfl

theorem joined_after_unlock :
    ¬ ∀ (run : coordination.Run) (index : Nat), index ≤ run.length → ∀ process,
      (run.state index).phases process = .returned .joined →
      ∃ connection, (run.state index).connections process = some connection ∧
        MetLock run index process connection.listener := by
  intro claim
  obtain ⟨connection, isConnection, moment, order, calling, _, held⟩ :=
    claim lateRun 20 (Nat.le_refl 20) 1 rfl
  have isListener : connection.listener = 0 := by
    cases isConnection
    rfl
  rw [isListener] at held
  have never : ∀ moment, moment ≤ 20 → ((lateRun.state moment).phases 1).calling = true →
      ((lateRun.state moment).locks 0).unlockedAt ≠ none := by decide
  exact never moment order calling held

end Genkan.Coordination
