import Genkan.Coordination.Steps

/-! # Who owns what

The lease belongs to the process whose phase says so, a coordinator runs only while its owner is
active, and the pipe, the unlock and the connections follow the phases.
-/

namespace Genkan.Coordination

open Foundations

namespace System

/-- The process that holds the lease is the one whose phase says so. -/
def Exclusive (system : System) : Prop :=
  ∀ process, system.lease = some process ↔ (system.phases process).holds = true

/-- A coordinator runs only inside an active owner. -/
def Hosted (system : System) : Prop :=
  ∀ process, (system.listeners process).activity.runs = true → (system.phases process).hosts = true

/-- Nothing has happened to the coordinator that is not started yet. -/
def Unstarted (system : System) : Prop :=
  ∀ process, (system.phases process).unstarted = true → (system.listeners process).activity = .off

/-- What is written to the pipe and when the lock may be given up. -/
structure Sealed (system : System) : Prop where
  closed : ∀ process, (system.locks process).readyWritten = true →
    (system.locks process).readyClosed = true
  locked : ∀ process, (system.locks process).readyWritten = true →
    (system.locks process).locked = true
  unlocked : ∀ process mark, (system.locks process).unlockedAt = some mark →
    (system.locks process).locked = true ∧ mark ≤ system.calls

/-- Only callers that wait in `read_to_end`, or have done so, are connected. -/
def Attached (system : System) : Prop :=
  ∀ waiter connection, system.connections waiter = some connection →
    system.phases waiter = .reading ∨ (∃ outcome, system.phases waiter = .returned outcome) ∨
      system.phases waiter = .dead

/-! ## The lease -/

theorem Exclusive.moved {system next : System} (exclusive : system.Exclusive) {process : Nat}
    {phase : Phase} (phases : next.phases = Function.update system.phases process phase)
    (lease : (phase.holds = (system.phases process).holds ∧ next.lease = system.lease) ∨
      (phase.holds = true ∧ system.lease = none ∧ next.lease = some process) ∨
      (phase.holds = false ∧
        next.lease = if system.lease = some process then none else system.lease)) :
    next.Exclusive := by
  intro other
  rw [phases]
  by_cases same : other = process
  · subst same
    rw [Function.update_self]
    rcases lease with ⟨kept, sameLease⟩ | ⟨holds, _, taken⟩ | ⟨loses, left⟩
    · rw [sameLease, kept]
      exact exclusive other
    · simp [taken, holds]
    · rw [left, loses]
      by_cases held : system.lease = some other <;> simp [held]
  · rw [Function.update_of_ne same, ← exclusive other]
    rcases lease with ⟨_, sameLease⟩ | ⟨_, free, taken⟩ | ⟨_, left⟩
    · rw [sameLease]
    · simp [taken, free, Ne.symm same]
    · rw [left]
      by_cases held : system.lease = some process
      · simp [held, Ne.symm same]
      · simp [held]

theorem Exclusive.changed {system next : System} (exclusive : system.Exclusive)
    {label : Label} (change : system.Change label next) : next.Exclusive := by
  have taking : ∀ {before after : Phase}, before.Taking after → after.holds = true := by
    rintro _ _ ⟨⟩ <;> rfl
  have closing : ∀ {before after : Phase}, before.Closing after → after.holds = false := by
    rintro _ _ ⟨⟩ <;> rfl
  have ending : ∀ {before after : Phase}, before.Ending after → after.holds = false := by
    rintro _ _ ⟨⟩ <;> rfl
  have quiet : ∀ {before after : Phase}, before.Quiet after → after.holds = before.holds := by
    rintro _ _ step
    cases step <;> rfl
  have unlinking : ∀ {before after : Phase}, before.Unlinking after → after.holds = before.holds := by
    rintro _ _ step
    cases step <;> rfl
  cases change with
  | moved step => exact exclusive.moved rfl (.inl ⟨quiet step, rfl⟩)
  | entered idle => exact exclusive.moved rfl (.inl ⟨by simp [idle, Phase.holds], rfl⟩)
  | took step free => exact exclusive.moved rfl (.inr (.inl ⟨taking step, free, rfl⟩))
  | refused opened held => exact exclusive.moved rfl (.inl ⟨by simp [opened, Phase.holds], rfl⟩)
  | unlinked step => exact exclusive.moved rfl (.inl ⟨unlinking step, rfl⟩)
  | bound binding => exact exclusive.moved rfl (.inl ⟨by simp [binding, Phase.holds], rfl⟩)
  | connected waiting reached => exact exclusive.moved rfl (.inl ⟨by simp [waiting, Phase.holds], rfl⟩)
  | closedLease step => exact exclusive.moved rfl (.inr (.inr ⟨closing step, rfl⟩))
  | readEnded reading => exact exclusive.moved rfl (.inl ⟨by simp [reading, Phase.holds], rfl⟩)
  | ended step => exact exclusive.moved rfl (.inr (.inr ⟨ending step, rfl⟩))
  | activated owned => exact exclusive.moved rfl (.inl ⟨by simp [owned, Phase.holds], rfl⟩)
  | joined stopping => exact exclusive.moved rfl (.inl ⟨by simp [stopping, Phase.holds], rfl⟩)
  | tornDown running => exact exclusive.moved rfl (.inl ⟨by simp [running, Phase.holds], rfl⟩)
  | accepted =>
    intro process
    simp only [accept]
    split
    · exact exclusive process
    · split <;> exact exclusive process
  | _ => exact exclusive

/-! ## The coordinator -/

theorem Hosted.updated {system next : System} (hosted : system.Hosted) (process : Nat)
    (phases : ∀ other, other ≠ process → next.phases other = system.phases other)
    (listeners : ∀ other, other ≠ process → (next.listeners other).activity.runs = true →
      (system.listeners other).activity.runs = true)
    (own : (next.listeners process).activity.runs = true → (next.phases process).hosts = true) :
    next.Hosted := by
  intro other runs
  by_cases same : other = process
  · exact same ▸ own (same ▸ runs)
  · rw [phases other same]
    exact hosted other (listeners other same runs)

theorem ended_not_runs : ¬ Activity.ended.runs = true := nofun

/-- A step of one process whose coordinator does not start by it. -/
theorem Hosted.moved {system next : System} (hosted : system.Hosted) {process : Nat} {phase : Phase}
    (phases : next.phases = Function.update system.phases process phase)
    (listeners : ∀ other, (next.listeners other).activity.runs = true →
      (system.listeners other).activity.runs = true)
    (own : (system.phases process).hosts = true → phase.hosts = true) : next.Hosted := by
  refine hosted.updated process ?_ (fun other _ => listeners other) ?_
  · intro other different
    rw [phases, Function.update_of_ne different]
  · intro runs
    rw [phases, Function.update_self]
    exact own (hosted process (listeners process runs))

/-- A step of a coordinator that runs. -/
theorem Hosted.coordinated {system next : System} (hosted : system.Hosted) {process : Nat}
    {listener : Listener} (phases : next.phases = system.phases)
    (listeners : next.listeners = Function.update system.listeners process listener)
    (runs : (system.listeners process).activity.runs = true) : next.Hosted := by
  refine hosted.updated process (fun other _ => by rw [phases]) ?_ ?_
  · intro other different
    rw [listeners, Function.update_of_ne different]
    exact id
  · intro _
    rw [phases]
    exact hosted process runs

theorem Hosted.changed {system next : System} (hosted : system.Hosted) {label : Label}
    (change : system.Change label next) :
    next.Hosted := by
  have relisted : ∀ {process : Nat} {listener : Listener},
      (listener.activity.runs = true → (system.listeners process).activity.runs = true) → ∀ other,
      (Function.update system.listeners process listener other).activity.runs = true →
        (system.listeners other).activity.runs = true := by
    intro process listener kept other
    by_cases same : other = process
    · subst same
      rw [Function.update_self]
      exact kept
    · rw [Function.update_of_ne same]
      exact id
  have quiet : ∀ {before after : Phase}, before.Quiet after → before.hosts = true →
      after.hosts = true := by
    rintro _ _ step
    cases step <;> exact id
  cases change with
  | moved step => exact hosted.moved rfl (fun _ => id) (quiet step)
  | entered idle => exact hosted.moved rfl (fun _ => id) (by simp [idle, Phase.hosts])
  | took step =>
    refine hosted.moved rfl (fun _ => id) ?_
    generalize system.phases _ = before at step
    cases step <;> exact nofun
  | refused opened => exact hosted.moved rfl (fun _ => id) (by simp [opened, Phase.hosts])
  | unlinked step =>
    refine hosted.moved rfl (fun _ => id) ?_
    generalize system.phases _ = before at step
    cases step <;> exact nofun
  | bound binding => exact hosted.moved rfl (relisted id) (by simp [binding, Phase.hosts])
  | connected waiting reached => exact hosted.moved rfl (relisted id) (by simp [waiting, Phase.hosts])
  | closedLease step =>
    refine hosted.moved rfl (fun _ => id) ?_
    generalize system.phases _ = before at step
    cases step <;> exact nofun
  | readEnded reading => exact hosted.moved rfl (fun _ => id) (by simp [reading, Phase.hosts])
  -- What a crash or a failure leaves behind has hung up, so nothing has to host it.
  | ended step isLabel =>
    rename_i process phase
    refine hosted.updated process ?_ ?_ ?_
    · intro other different
      exact Function.update_of_ne different _ _
    · exact fun other _ => relisted (fun runs => absurd runs ended_not_runs) other
    · intro runs
      refine absurd ?_ ended_not_runs
      simpa [hangUp, closeLease, moveTo] using runs
  | hungUp dropping =>
    rename_i process
    refine hosted.updated process (fun _ _ => rfl)
      (fun other _ => relisted (fun runs => absurd runs ended_not_runs) other) ?_
    intro runs
    exact absurd (by simpa [hangUp] using runs) ended_not_runs
  | activated owned =>
    rename_i process
    refine hosted.updated process ?_ ?_ ?_
    · intro other different
      exact Function.update_of_ne different _ _
    · intro other different runs
      simpa [setListener, moveTo, Function.update_of_ne different] using runs
    · intro _
      simp [setListener, moveTo, Phase.hosts]
  | joined stopping ended =>
    rename_i process
    refine hosted.updated process ?_ (fun _ _ => id) ?_
    · intro other different
      exact Function.update_of_ne different _ _
    · intro runs
      simp [moveTo, ended, Activity.runs] at runs
  | locked => exact hosted
  | unlocked => exact hosted
  | tornDown running => exact hosted.moved rfl (fun _ => id) (fun _ => rfl)
  | turned runs => exact hosted.coordinated rfl rfl runs
  | confirmed woken => exact hosted.coordinated rfl rfl (by simp [woken, Activity.runs])
  | accepted accepting =>
    simp only [accept]
    split
    · exact hosted.coordinated rfl rfl (by simp [accepting, Activity.runs])
    · split <;> exact hosted.coordinated rfl rfl (by simp [accepting, Activity.runs])
  | told serving =>
    refine hosted.coordinated rfl rfl ?_
    revert serving
    cases (system.listeners _).activity <;> simp [Activity.serves, Activity.runs]

theorem Unstarted.moved {system next : System} (unstarted : system.Unstarted) {process : Nat}
    {phase : Phase} (phases : next.phases = Function.update system.phases process phase)
    (activities : ∀ other, other ≠ process →
      (next.listeners other).activity = (system.listeners other).activity)
    (own : phase.unstarted = true → (system.phases process).unstarted = true ∧
      (next.listeners process).activity = (system.listeners process).activity) : next.Unstarted := by
  intro other isUnstarted
  rw [phases] at isUnstarted
  by_cases same : other = process
  · subst same
    rw [Function.update_self] at isUnstarted
    obtain ⟨before, activity⟩ := own isUnstarted
    exact activity.trans (unstarted other before)
  · rw [Function.update_of_ne same] at isUnstarted
    exact (activities other same).trans (unstarted other isUnstarted)

theorem Unstarted.served {system next : System} (unstarted : system.Unstarted) {process : Nat}
    {listener : Listener} (phases : next.phases = system.phases)
    (listeners : next.listeners = Function.update system.listeners process listener)
    (started : (system.phases process).unstarted = false) : next.Unstarted := by
  intro other isUnstarted
  rw [phases] at isUnstarted
  have different : other ≠ process := by
    rintro rfl
    exact absurd (started.symm.trans isUnstarted) nofun
  rw [listeners, Function.update_of_ne different]
  exact unstarted other isUnstarted

theorem started_of_runs {system : System} (hosted : system.Hosted) {process : Nat}
    (runs : (system.listeners process).activity.runs = true) :
    (system.phases process).unstarted = false := by
  have hosts := hosted process runs
  revert hosts
  cases system.phases process <;> simp [Phase.hosts, Phase.unstarted]

theorem Unstarted.changed {system next : System} (unstarted : system.Unstarted)
    (hosted : system.Hosted) {label : Label} (change : system.Change label next) : next.Unstarted := by
  have tuned : ∀ {process : Nat} {listener : Listener},
      listener.activity = (system.listeners process).activity → ∀ other,
      (Function.update system.listeners process listener other).activity =
        (system.listeners other).activity := by
    intro process listener kept other
    by_cases same : other = process
    · subst same
      rw [Function.update_self, kept]
    · rw [Function.update_of_ne same]
  cases change with
  | moved step =>
    refine unstarted.moved rfl (fun _ _ => rfl) ?_
    generalize system.phases _ = before at step
    cases step <;> first | exact fun _ => ⟨rfl, rfl⟩ | exact nofun
  | entered idle =>
    exact unstarted.moved rfl (fun _ _ => rfl) fun _ => ⟨by simp [idle, Phase.unstarted], rfl⟩
  | took step =>
    refine unstarted.moved rfl (fun _ _ => rfl) ?_
    generalize system.phases _ = before at step
    cases step with
    | first => exact fun _ => ⟨rfl, rfl⟩
    | probed => exact nofun
  | refused opened => exact unstarted.moved rfl (fun _ _ => rfl) nofun
  | unlinked step =>
    refine unstarted.moved rfl (fun _ _ => rfl) ?_
    generalize system.phases _ = before at step
    cases step with
    | stale => exact fun _ => ⟨rfl, rfl⟩
    | own => exact nofun
  | bound binding =>
    exact unstarted.moved rfl (fun other _ => tuned (by rfl) other)
      fun _ => ⟨by simp [binding, Phase.unstarted], tuned (by rfl) _⟩
  | connected waiting reached => exact unstarted.moved rfl (fun other _ => tuned (by rfl) other) nofun
  | closedLease step =>
    refine unstarted.moved rfl (fun _ _ => rfl) ?_
    generalize system.phases _ = before at step
    cases step <;> exact nofun
  | readEnded reading => exact unstarted.moved rfl (fun _ _ => rfl) nofun
  | ended step =>
    refine unstarted.moved rfl ?_ ?_
    · intro other different
      simp [hangUp, closeLease, moveTo, Function.update_of_ne different]
    · generalize system.phases _ = before at step
      cases step <;> exact nofun
  | hungUp dropping =>
    refine unstarted.served rfl rfl ?_
    rcases dropping with ⟨leased, abandoning⟩ | runs
    · simp [abandoning, Phase.unstarted]
    · exact started_of_runs hosted runs
  | activated owned =>
    refine unstarted.moved rfl ?_ nofun
    intro other different
    simp [setListener, moveTo, Function.update_of_ne different]
  | joined stopping => exact unstarted.moved rfl (fun _ _ => rfl) nofun
  | locked => exact unstarted
  | unlocked => exact unstarted
  | tornDown running => exact unstarted.moved rfl (fun _ _ => rfl) nofun
  | turned runs => exact unstarted.served rfl rfl (started_of_runs hosted runs)
  | confirmed woken =>
    exact unstarted.served rfl rfl (started_of_runs hosted (by simp [woken, Activity.runs]))
  | accepted accepting isBacklog =>
    rename_i process waiter rest
    have started : (system.phases process).unstarted = false :=
      started_of_runs hosted (by simp [accepting, Activity.runs])
    simp only [accept]
    split
    · exact unstarted.served rfl rfl started
    · split <;> exact unstarted.served rfl rfl started
  | told serving =>
    refine unstarted.served rfl rfl (started_of_runs hosted ?_)
    revert serving
    cases (system.listeners _).activity <;> simp [Activity.serves, Activity.runs]

/-! ## The pipe and the unlock -/

theorem Sealed.updated {system next : System} (isSealed : system.Sealed) {process : Nat} {lock : Lock}
    (locks : next.locks = Function.update system.locks process lock) (calls : system.calls ≤ next.calls)
    (own : (lock.readyWritten = true → lock.readyClosed = true ∧ lock.locked = true) ∧
      ∀ mark, lock.unlockedAt = some mark → lock.locked = true ∧ mark ≤ next.calls) : next.Sealed := by
  have each : ∀ other, (next.locks other = lock ∨ next.locks other = system.locks other) := by
    intro other
    by_cases same : other = process
    · exact .inl (by rw [locks, same, Function.update_self])
    · exact .inr (by rw [locks, Function.update_of_ne same])
  refine ⟨?_, ?_, ?_⟩
  · intro other written
    cases each other with
    | inl isLock =>
      rw [isLock] at written ⊢
      exact (own.1 written).1
    | inr old =>
      rw [old] at written ⊢
      exact isSealed.closed other written
  · intro other written
    cases each other with
    | inl isLock =>
      rw [isLock] at written ⊢
      exact (own.1 written).2
    | inr old =>
      rw [old] at written ⊢
      exact isSealed.locked other written
  · intro other mark unlocked
    cases each other with
    | inl isLock =>
      rw [isLock] at unlocked ⊢
      exact own.2 mark unlocked
    | inr old =>
      rw [old] at unlocked ⊢
      obtain ⟨held, bound⟩ := isSealed.unlocked other mark unlocked
      exact ⟨held, Nat.le_trans bound calls⟩

theorem Sealed.congr {system next : System} (isSealed : system.Sealed)
    (locks : next.locks = system.locks) (calls : system.calls ≤ next.calls) : next.Sealed := by
  refine ⟨locks ▸ isSealed.closed, locks ▸ isSealed.locked, ?_⟩
  intro process mark unlocked
  rw [locks] at unlocked ⊢
  obtain ⟨held, bound⟩ := isSealed.unlocked process mark unlocked
  exact ⟨held, Nat.le_trans bound calls⟩

theorem Sealed.changed {system next : System} (isSealed : system.Sealed)
    {label : Label} (change : system.Change label next) : next.Sealed := by
  cases change with
  | entered idle => exact isSealed.congr rfl (Nat.le_succ _)
  | locked running same isLocked piped =>
    refine isSealed.updated rfl (Nat.le_refl _) ⟨?_, ?_⟩
    · exact fun written => ⟨(piped (isSealed.closed _)).2 written, isLocked⟩
    · intro mark unlocked
      exact ⟨isLocked, (isSealed.unlocked _ mark (same ▸ unlocked)).2⟩
  | unlocked running written held =>
    refine isSealed.updated rfl (Nat.le_refl _) ⟨?_, ?_⟩
    · exact fun _ => ⟨isSealed.closed _ written, isSealed.locked _ written⟩
    · rintro mark ⟨⟩
      exact ⟨isSealed.locked _ written, Nat.le_refl _⟩
  | tornDown running =>
    refine isSealed.updated rfl (Nat.le_refl _) ⟨?_, ?_⟩
    · exact fun written => ⟨rfl, isSealed.locked _ written⟩
    · exact fun mark unlocked => isSealed.unlocked _ mark unlocked
  | accepted =>
    simp only [accept]
    split
    · exact isSealed.congr rfl (Nat.le_refl _)
    · split <;> exact isSealed.congr rfl (Nat.le_refl _)
  | _ => exact isSealed.congr rfl (Nat.le_refl _)

/-- What was written to a pipe stays there. -/
theorem Change.written {system next : System} (isSealed : system.Sealed) {label : Label}
    (change : system.Change label next)
    (process : Nat) (written : (system.locks process).readyWritten = true) :
    (next.locks process).readyWritten = true := by
  have updated : ∀ {other : Nat} {lock : Lock},
      ((system.locks other).readyWritten = true → lock.readyWritten = true) →
      (Function.update system.locks other lock process).readyWritten = true := by
    intro other lock kept
    by_cases same : process = other
    · subst same
      rw [Function.update_self]
      exact kept written
    · rw [Function.update_of_ne same]
      exact written
  cases change with
  | locked running same isLocked piped => exact updated (piped (isSealed.closed _)).1
  | unlocked => exact updated id
  | tornDown => exact updated id
  | accepted =>
    simp only [accept]
    split
    · exact written
    · split <;> exact written
  | _ => exact written

/-! ## Connections -/

/-- Once the call has returned, the process is no caller any more. -/
theorem Attached.moved {system next : System} (attached : system.Attached) (process : Nat)
    {phase : Phase} (phases : next.phases = Function.update system.phases process phase)
    (connections : ∀ waiter connection, next.connections waiter = some connection →
      waiter = process ∧ phase = .reading ∨ ∃ before, system.connections waiter = some before)
    (gone : system.phases process = .reading ∨ (∃ outcome, system.phases process = .returned outcome) ∨
      system.phases process = .dead →
      phase = .reading ∨ (∃ outcome, phase = .returned outcome) ∨ phase = .dead) : next.Attached := by
  intro waiter connection isConnection
  rw [phases]
  by_cases same : waiter = process
  · subst same
    rw [Function.update_self]
    rcases connections waiter connection isConnection with ⟨_, reading⟩ | ⟨before, isBefore⟩
    · exact .inl reading
    · exact gone (attached waiter before isBefore)
  · rw [Function.update_of_ne same]
    rcases connections waiter connection isConnection with ⟨isProcess, _⟩ | ⟨before, isBefore⟩
    · exact absurd isProcess same
    · exact attached waiter before isBefore

/-- A step of one process that connects nobody. -/
theorem Attached.rephased {system next : System} (attached : system.Attached) {process : Nat} {phase : Phase}
    (phases : next.phases = Function.update system.phases process phase)
    (connections : next.connections = system.connections)
    (gone : system.phases process = .reading ∨ (∃ outcome, system.phases process = .returned outcome) ∨
      system.phases process = .dead →
      phase = .reading ∨ (∃ outcome, phase = .returned outcome) ∨ phase = .dead) : next.Attached := by
  refine attached.moved process phases ?_ gone
  intro waiter connection isConnection
  exact .inr ⟨connection, connections ▸ isConnection⟩

/-- A step that leaves the phases alone and connects nobody. -/
theorem Attached.served {system next : System} (attached : system.Attached)
    (phases : next.phases = system.phases)
    (connections : ∀ waiter connection, next.connections waiter = some connection →
      ∃ before, system.connections waiter = some before) : next.Attached := by
  intro waiter connection isConnection
  rw [phases]
  obtain ⟨before, isBefore⟩ := connections waiter connection isConnection
  exact attached waiter before isBefore

theorem mapped_connection {table : Nat → Option Connection} {process waiter : Nat}
    {change : Connection → Connection} {connection : Connection}
    (isConnection : Function.update table process ((table process).map change) waiter = some connection) :
    ∃ before, table waiter = some before := by
  by_cases same : waiter = process
  · subst same
    rw [Function.update_self] at isConnection
    obtain ⟨before, isBefore, _⟩ := Option.map_eq_some_iff.mp isConnection
    exact ⟨before, isBefore⟩
  · rw [Function.update_of_ne same] at isConnection
    exact ⟨connection, isConnection⟩

theorem hangUp_connection {system : System} {process waiter : Nat} {connection : Connection}
    (isConnection : (system.hangUp process).connections waiter = some connection) :
    ∃ before, system.connections waiter = some before ∧
      connection = if waiter ∈ (system.listeners process).connected then { before with closed := true }
        else before := by
  simp only [hangUp] at isConnection
  split at isConnection
  next member =>
    obtain ⟨before, isBefore, rfl⟩ := Option.map_eq_some_iff.mp isConnection
    exact ⟨before, isBefore, by simp [member]⟩
  next other => exact ⟨connection, isConnection, by simp [other]⟩

theorem Attached.changed {system next : System} (attached : system.Attached)
    {label : Label} (change : system.Change label next) : next.Attached := by
  cases change with
  | moved step =>
    refine attached.rephased rfl rfl ?_
    generalize system.phases _ = before at step
    cases step <;> simp
  | entered idle => exact attached.rephased rfl rfl (by simp [idle])
  | took step =>
    refine attached.rephased rfl rfl ?_
    generalize system.phases _ = before at step
    cases step <;> simp
  | refused opened => exact attached.rephased rfl rfl (by simp [opened])
  | unlinked step =>
    refine attached.rephased rfl rfl ?_
    generalize system.phases _ = before at step
    cases step <;> simp
  | bound binding => exact attached.rephased rfl rfl (by simp [binding])
  | connected waiting reached =>
    rename_i process owner
    refine attached.moved process rfl ?_ (by simp)
    intro waiter connection isConnection
    by_cases same : waiter = process
    · exact .inl ⟨same, rfl⟩
    · simp only [Function.update_of_ne same] at isConnection
      exact .inr ⟨connection, isConnection⟩
  | closedLease step =>
    refine attached.rephased rfl rfl ?_
    generalize system.phases _ = before at step
    cases step <;> simp
  | readEnded reading => exact attached.rephased rfl rfl (by simp)
  | ended step =>
    refine attached.moved _ rfl ?_ ?_
    · intro waiter connection isConnection
      obtain ⟨before, isBefore, _⟩ := hangUp_connection isConnection
      exact .inr ⟨before, isBefore⟩
    · intro _
      generalize system.phases _ = before at step
      cases step with
      | failed => exact .inr (.inl ⟨_, rfl⟩)
      | crashed => exact .inr (.inr rfl)
  | hungUp =>
    refine attached.served rfl ?_
    intro waiter connection isConnection
    obtain ⟨before, isBefore, _⟩ := hangUp_connection isConnection
    exact ⟨before, isBefore⟩
  | activated owned => exact attached.rephased rfl rfl (by simp [owned])
  | joined stopping => exact attached.rephased rfl rfl (by simp [stopping])
  | tornDown running => exact attached.rephased rfl rfl (by simp [running])
  | accepted accepting =>
    simp only [accept]
    split
    · exact attached.served rfl fun _ _ => mapped_connection
    · split <;> exact attached.served rfl fun _ _ => mapped_connection
  | told serving => exact attached.served rfl fun _ _ => mapped_connection
  | _ => exact attached.served rfl fun _ connection isConnection => ⟨connection, isConnection⟩

end System

end Genkan.Coordination
