import Genkan.Coordination.System

/-! # Every step of the coordination

`Change` lists what one step can do, and `coordination_invariant` is the induction that the
statements about all runs use.
-/

namespace Genkan.Coordination

open Foundations

namespace Phase

/-- Steps that change nothing but the phase of the process. -/
inductive Quiet : Phase → Phase → Prop
  | owned : Quiet .bound .owned
  | unreachable : Quiet .waiting .probing
  | slept : Quiet .probing .sleeping
  | woke : Quiet .sleeping .waiting
  | abandoned : Quiet .owned (.abandoning true)
  | stopped : Quiet .tornDown .stopping

/-- Steps that take the lease. -/
inductive Taking : Phase → Phase → Prop
  | first : Taking .opened .removing
  | probed : Taking .probing .failing

/-- Steps that unlink the socket. -/
inductive Unlinking : Phase → Phase → Prop
  | stale : Unlinking .removing .binding
  | own : Unlinking .joined .removed

/-- Steps that close the lease file. -/
inductive Closing : Phase → Phase → Prop
  | gaveUp : Closing .failing (.returned .existingLockerFailed)
  | dropped : Closing (.abandoning true) (.abandoning false)
  | released : Closing .removed .finished

/-- Steps that end the process, or its call with an unexpected error. -/
inductive Ending : Phase → Phase → Prop
  | failed {phase : Phase} (calling : phase.calling = true) (settled : phase ≠ .failing) :
      Ending phase (.returned .error)
  | crashed {phase : Phase} (alive : phase.alive = true) : Ending phase .dead

/-- The process has not yet come to the point where it starts a coordinator. -/
def unstarted : Phase → Bool
  | .idle | .opened | .removing | .binding | .bound | .owned => true
  | _ => false

/-- The owner's coordinator may run. -/
def hosts : Phase → Bool
  | .running | .tornDown | .stopping => true
  | _ => false

end Phase

namespace System

inductive Change (system : System) : Label → System → Prop
  | moved {label : Label} {process : Nat} {phase : Phase} (step : (system.phases process).Quiet phase) :
      Change system label (system.moveTo process phase)
  | entered {label : Label} {process : Nat} (idle : system.phases process = .idle) :
      Change system label { system.moveTo process .opened with
        calls := system.calls + 1
        tickets := Function.update system.tickets process system.calls }
  | took {label : Label} {process : Nat} {phase : Phase} (step : (system.phases process).Taking phase)
      (free : system.lease = none) :
      Change system label { system.moveTo process phase with lease := some process }
  | refused {process holder : Nat} (opened : system.phases process = .opened)
      (held : system.lease = some holder) :
      Change system (.tryLock process) { system.moveTo process .waiting with
        refusals := Function.update system.refusals process (some holder) }
  | unlinked {label : Label} {process : Nat} {phase : Phase} (step : (system.phases process).Unlinking phase) :
      Change system label { system.moveTo process phase with socket := none }
  | bound {label : Label} {process : Nat} (binding : system.phases process = .binding) :
      Change system label { (system.moveTo process .bound).setListener process
          { system.listeners process with listening := true } with
        socket := some process }
  | connected {label : Label} {process owner : Nat} (waiting : system.phases process = .waiting)
      (reached : system.endpoint = some owner) :
      Change system label { (system.moveTo process .reading).setListener owner
          { system.listeners owner with backlog := (system.listeners owner).backlog ++ [process] } with
        connections := Function.update system.connections process
          (some { listener := owner, accepted := false, received := 0, closed := false }) }
  | closedLease {label : Label} {process : Nat} {phase : Phase} (step : (system.phases process).Closing phase) :
      Change system label ((system.moveTo process phase).closeLease process)
  | readEnded {label : Label} {process : Nat} {connection : Connection} (reading : system.phases process = .reading)
      (isConnection : system.connections process = some connection) (closed : connection.closed = true) :
      Change system label (system.moveTo process (.returned (outcome connection)))
  | ended {label : Label} {process : Nat} {phase : Phase} (step : (system.phases process).Ending phase)
      (isLabel : label = .fails process ∨ label = .crash process) :
      Change system label (((system.moveTo process phase).hangUp process).closeLease process)
  | hungUp {label : Label} {process : Nat} (dropping : (∃ leased, system.phases process = .abandoning leased) ∨
      (system.listeners process).activity.runs = true) : Change system label (system.hangUp process)
  | activated {label : Label} {process : Nat} (owned : system.phases process = .owned) :
      Change system label ((system.moveTo process .running).setListener process
        { system.listeners process with activity := .polling })
  | joined {label : Label} {process : Nat} (stopping : system.phases process = .stopping)
      (ended : (system.listeners process).activity = .ended) :
      Change system label (system.moveTo process .joined)
  | locked {label : Label} {process : Nat} {lock : Lock} (running : system.phases process = .running)
      (same : lock.unlockedAt = (system.locks process).unlockedAt) (isLocked : lock.locked = true)
      (piped : ((system.locks process).readyWritten = true → (system.locks process).readyClosed = true) →
        ((system.locks process).readyWritten = true → lock.readyWritten = true) ∧
          (lock.readyWritten = true → lock.readyClosed = true)) :
      Change system label (system.setLock process lock)
  | unlocked {label : Label} {process : Nat} (running : system.phases process = .running)
      (written : (system.locks process).readyWritten = true)
      (held : (system.locks process).unlockedAt = none) :
      Change system label (system.setLock process
        { system.locks process with unlockedAt := some system.calls })
  | tornDown {label : Label} {process : Nat} (running : system.phases process = .running) :
      Change system label ((system.moveTo process .tornDown).setLock process
        { system.locks process with readyClosed := true })
  | turned {label : Label} {process : Nat} {activity : Activity}
      (runs : (system.listeners process).activity.runs = true)
      (goesOn : activity.runs = true) (served : (system.listeners process).activity.serves = [])
      (serves : activity.serves = []) :
      Change system label (system.setListener process { system.listeners process with activity := activity })
  | confirmed {label : Label} {process : Nat} {accept : Bool}
      (woken : (system.listeners process).activity = .woken true accept)
      (written : (system.locks process).readyWritten = true) :
      Change system label (system.setListener process
        { system.listeners process with
          confirmed := true
          waiters := []
          activity := .flushing (system.listeners process).waiters accept })
  | accepted {label : Label} {process waiter : Nat} {rest : List Nat}
      (accepting : (system.listeners process).activity = .accepting)
      (isBacklog : (system.listeners process).backlog = waiter :: rest) :
      Change system label (system.accept process waiter rest)
  | told {process waiter : Nat} {activity : Activity} {fails : Bool}
      (serving : (system.listeners process).activity.serves = waiter :: activity.serves)
      (goesOn : activity.runs = true) :
      Change system (.coordinate process fails) ((system.setListener process
        { system.listeners process with activity := activity }).tell waiter)

theorem afterReady_runs (accept : Bool) :
    (Activity.afterReady accept).runs = true ∧ (Activity.afterReady accept).serves = [] := by
  cases accept <;> exact ⟨rfl, rfl⟩

theorem coordinate_change {system next : System} {process : Nat} {fails : Bool}
    (steps : system.coordinate process fails = some next) :
    system.Change (.coordinate process fails) next := by
  simp only [coordinate] at steps
  split at steps
  next => contradiction
  next => contradiction
  next polling =>
    have runs : (system.listeners process).activity.runs = true := by simp [polling, Activity.runs]
    split at steps
    next =>
      cases steps
      exact .hungUp (.inr runs)
    next =>
      simp only [poll] at steps
      split at steps
      next =>
        cases steps
        exact .hungUp (.inr runs)
      next =>
        split at steps
        next =>
          cases steps
          exact .turned runs rfl (by simp [polling, Activity.serves]) rfl
        next => contradiction
  next accept woken =>
    cases steps
    simp only [readReady]
    split
    next written => exact .confirmed woken written
    next => exact .hungUp (.inr (by simp [woken, Activity.runs]))
  next accept woken =>
    cases steps
    exact .turned (by simp [woken, Activity.runs]) (afterReady_runs accept).1
      (by simp [woken, Activity.serves]) (afterReady_runs accept).2
  next waiter rest accept flushing =>
    cases steps
    exact .told (by simp [flushing, Activity.serves]) rfl
  next accept flushing =>
    cases steps
    exact .turned (by simp [flushing, Activity.runs]) (afterReady_runs accept).1
      (by simp [flushing, Activity.serves]) (afterReady_runs accept).2
  next accepting =>
    have runs : (system.listeners process).activity.runs = true := by simp [accepting, Activity.runs]
    have served : (system.listeners process).activity.serves = [] := by simp [accepting, Activity.serves]
    split at steps
    next waiter rest isBacklog =>
      split at steps
      next =>
        cases steps
        exact .turned runs rfl served rfl
      next =>
        cases steps
        exact .accepted accepting isBacklog
    next =>
      cases steps
      exact .turned runs rfl served rfl
  next waiter answering =>
    cases steps
    exact .told (by simp [answering, Activity.serves]) rfl

theorem next_change {system next : System} {label : Label} (steps : system.next label = some next) :
    system.Change label next := by
  cases label with
  | enter process =>
    simp only [System.next, enter, Option.ite_none_right_eq_some, Option.some.injEq] at steps
    obtain ⟨idle, rfl⟩ := steps
    exact .entered idle
  | tryLock process =>
    simp only [System.next, tryLock, Option.ite_none_right_eq_some] at steps
    obtain ⟨opened, steps⟩ := steps
    split at steps
    next free =>
      cases steps
      exact .took (opened ▸ .first) free
    next holder held =>
      cases steps
      exact .refused opened held
  | removeFile process =>
    simp only [System.next, removeFile, Option.ite_none_right_eq_some, Option.some.injEq] at steps
    obtain ⟨removing, rfl⟩ := steps
    exact .unlinked (removing ▸ .stale)
  | bind process =>
    simp only [System.next, bind, Option.ite_none_right_eq_some, Option.some.injEq] at steps
    obtain ⟨binding, rfl⟩ := steps
    exact .bound binding.1
  | own process =>
    simp only [System.next, own, Option.ite_none_right_eq_some, Option.some.injEq] at steps
    obtain ⟨bound, rfl⟩ := steps
    exact .moved (bound ▸ .owned)
  | connect process =>
    simp only [System.next, connect, Option.ite_none_right_eq_some] at steps
    obtain ⟨waiting, steps⟩ := steps
    split at steps
    next owner reached =>
      cases steps
      exact .connected waiting reached
    next =>
      cases steps
      exact .moved (waiting ▸ .unreachable)
  | probe process =>
    simp only [System.next, probe, Option.ite_none_right_eq_some] at steps
    obtain ⟨probing, steps⟩ := steps
    split at steps
    next free =>
      cases steps
      exact .took (probing ▸ .probed) free
    next =>
      cases steps
      exact .moved (probing ▸ .slept)
  | wake process =>
    simp only [System.next, wake, Option.ite_none_right_eq_some, Option.some.injEq] at steps
    obtain ⟨sleeping, rfl⟩ := steps
    exact .moved (sleeping ▸ .woke)
  | giveUp process =>
    simp only [System.next, giveUp, Option.ite_none_right_eq_some, Option.some.injEq] at steps
    obtain ⟨failing, rfl⟩ := steps
    exact .closedLease (failing ▸ .gaveUp)
  | readEnd process =>
    simp only [System.next, readEnd, Option.ite_none_right_eq_some] at steps
    obtain ⟨reading, steps⟩ := steps
    split at steps
    next connection isConnection =>
      simp only [Option.ite_none_right_eq_some, Option.some.injEq] at steps
      obtain ⟨closed, rfl⟩ := steps
      exact .readEnded reading isConnection closed
    next => contradiction
  | fails process =>
    simp only [System.next, fails, Option.ite_none_right_eq_some, Option.some.injEq] at steps
    obtain ⟨⟨calling, settled⟩, rfl⟩ := steps
    exact .ended (.failed calling settled) (.inl rfl)
  | crash process =>
    simp only [System.next, crash, Option.ite_none_right_eq_some, Option.some.injEq] at steps
    obtain ⟨alive, rfl⟩ := steps
    exact .ended (.crashed alive) (.inr rfl)
  | abandon process =>
    simp only [System.next, abandon, Option.ite_none_right_eq_some, Option.some.injEq] at steps
    obtain ⟨owned, rfl⟩ := steps
    exact .moved (owned ▸ .abandoned)
  | dropLease process =>
    simp only [System.next, dropLease, Option.ite_none_right_eq_some, Option.some.injEq] at steps
    obtain ⟨abandoning, rfl⟩ := steps
    exact .closedLease (abandoning ▸ .dropped)
  | dropListener process =>
    simp only [System.next, dropListener] at steps
    split at steps
    next leased abandoning =>
      cases steps
      exact .hungUp (.inl ⟨leased, abandoning⟩)
    next => contradiction
  | activate process =>
    simp only [System.next, activate, Option.ite_none_right_eq_some, Option.some.injEq] at steps
    obtain ⟨owned, rfl⟩ := steps
    exact .activated owned
  | confirm process =>
    simp only [System.next, confirm, Option.ite_none_right_eq_some, Option.some.injEq] at steps
    obtain ⟨running, rfl⟩ := steps
    exact .locked running rfl rfl fun piped => ⟨id, piped⟩
  | report process succeeds =>
    simp only [System.next, report, Option.ite_none_right_eq_some, Option.some.injEq] at steps
    obtain ⟨⟨running, isLocked, unreported⟩, rfl⟩ := steps
    refine .locked running rfl isLocked fun piped => ⟨fun written => ?_, fun _ => rfl⟩
    simp [piped written] at unreported
  | unlock process =>
    simp only [System.next, unlock, Option.ite_none_right_eq_some, Option.some.injEq] at steps
    obtain ⟨⟨running, written, held⟩, rfl⟩ := steps
    exact .unlocked running written held
  | tearDown process =>
    simp only [System.next, tearDown, Option.ite_none_right_eq_some, Option.some.injEq] at steps
    obtain ⟨running, rfl⟩ := steps
    exact .tornDown running
  | stop process =>
    simp only [System.next, stop, Option.ite_none_right_eq_some, Option.some.injEq] at steps
    obtain ⟨tornDown, rfl⟩ := steps
    exact .moved (tornDown ▸ .stopped)
  | join process =>
    simp only [System.next, join, Option.ite_none_right_eq_some, Option.some.injEq] at steps
    obtain ⟨⟨stopping, ended⟩, rfl⟩ := steps
    exact .joined stopping ended
  | removeOwn process =>
    simp only [System.next, removeOwn, Option.ite_none_right_eq_some, Option.some.injEq] at steps
    obtain ⟨joined, rfl⟩ := steps
    exact .unlinked (joined ▸ .own)
  | release process =>
    simp only [System.next, release, Option.ite_none_right_eq_some, Option.some.injEq] at steps
    obtain ⟨removed, rfl⟩ := steps
    exact .closedLease (removed ▸ .released)
  | coordinate process fails => exact coordinate_change steps

end System

/-! ## One process -/

/-- What one step can do to the phase of a process. -/
inductive Advances (system next : System) (label : Label) (process : Nat) : Phase → Phase → Prop
  | same (phase : Phase) : Advances system next label process phase phase
  | moved {before after : Phase} (step : before.Quiet after) : Advances system next label process before after
  | entered (ticket : next.tickets process = system.calls) :
      Advances system next label process .idle .opened
  | took {before after : Phase} (step : before.Taking after) (free : system.lease = none) :
      Advances system next label process before after
  | refused {holder : Nat} (isLabel : label = .tryLock process) (held : system.lease = some holder)
      (refusal : next.refusals process = some holder) : Advances system next label process .opened .waiting
  | unlinked {before after : Phase} (step : before.Unlinking after) :
      Advances system next label process before after
  | bound : Advances system next label process .binding .bound
  | connected : Advances system next label process .waiting .reading
  | closedLease {before after : Phase} (step : before.Closing after) :
      Advances system next label process before after
  | readEnded {connection : Connection} (isConnection : system.connections process = some connection)
      (closed : connection.closed = true) :
      Advances system next label process .reading (.returned (System.outcome connection))
  | ended {before after : Phase} (step : before.Ending after)
      (isLabel : label = .fails process ∨ label = .crash process) :
      Advances system next label process before after
  | activated : Advances system next label process .owned .running
  | joined : Advances system next label process .stopping .joined
  | tornDown : Advances system next label process .running .tornDown

namespace System

theorem Change.advances {system next : System} {label : Label} (change : system.Change label next)
    (process : Nat) :
    Advances system next label process (system.phases process) (next.phases process) := by
  have updated : ∀ {other : Nat} {phase : Phase},
      (process = other → Advances system next label process (system.phases other) phase) →
      Advances system next label process (system.phases process)
        (Function.update system.phases other phase process) := by
    intro other phase advances
    by_cases same : process = other
    · subst same
      rw [Function.update_self]
      exact advances rfl
    · rw [Function.update_of_ne same]
      exact .same _
  cases change with
  | moved step => exact updated fun _ => .moved step
  | entered idle =>
    refine updated fun same => ?_
    rw [idle]
    exact .entered (by simp [same])
  | took step free => exact updated fun _ => .took step free
  | refused opened held =>
    refine updated fun same => ?_
    rw [opened]
    exact .refused (by rw [same]) held (by simp [same])
  | unlinked step => exact updated fun _ => .unlinked step
  | bound binding =>
    refine updated fun _ => ?_
    rw [binding]
    exact .bound
  | connected waiting reached =>
    refine updated fun _ => ?_
    rw [waiting]
    exact .connected
  | closedLease step => exact updated fun _ => .closedLease step
  | readEnded reading isConnection closed =>
    refine updated fun same => ?_
    rw [reading]
    exact .readEnded (same ▸ isConnection) closed
  | ended step isLabel => exact updated fun same => .ended step (same ▸ isLabel)
  | activated owned =>
    refine updated fun _ => ?_
    rw [owned]
    exact .activated
  | joined stopping ended =>
    refine updated fun _ => ?_
    rw [stopping]
    exact .joined
  | tornDown running =>
    refine updated fun _ => ?_
    rw [running]
    exact .tornDown
  | accepted =>
    simp only [accept]
    split
    · exact .same _
    · split <;> exact .same _
  | _ => exact .same _

end System

theorem coordination_invariant {property : System → Prop} (initially : property .start)
    (preserved : ∀ system label next, property system → system.Change label next → property next)
    {system : System} (reachable : coordination.Reachable system) : property system := by
  refine reachable.invariant property ?_ ?_
  · rintro system rfl
    exact initially
  · intro system label next holds steps
    exact preserved system label next holds (System.next_change steps)

end Genkan.Coordination
