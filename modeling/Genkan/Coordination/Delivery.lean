import Genkan.Coordination.Roster

/-! # One owner, and READY exactly once

What one step can do to a connection, what a coordinator does when it is left alone, and the safety
of the coordination over whole runs.
-/

namespace Genkan.Coordination

open Foundations

/-! ## The life of a connection -/

/-- What one step can do to the connection of a waiter. -/
inductive Evolves (system next : System) (label : Label) (waiter : Nat) : Option Connection → Option Connection → Prop
  | same (connection : Option Connection) : Evolves system next label waiter connection connection
  | connected {owner : Nat} : Evolves system next label waiter none
      (some { listener := owner, accepted := false, received := 0, closed := false })
  | hungUp {connection : Connection}
      (ended : (next.listeners connection.listener).activity = .ended) :
      Evolves system next label waiter (some connection) (some { connection with closed := true })
  | accepted {connection : Connection}
      (accepting : (system.listeners connection.listener).activity = .accepting) :
      Evolves system next label waiter (some connection)
        (some { connection with accepted := true, closed := false })
  | turnedAway {connection : Connection}
      (accepting : (system.listeners connection.listener).activity = .accepting)
      (unconfirmed : (system.listeners connection.listener).confirmed = false)
      (full : maxWaiters ≤ (system.listeners connection.listener).waiters.length) :
      Evolves system next label waiter (some connection)
        (some { connection with accepted := true, closed := true })
  | told {connection : Connection} {activity : Activity}
      (isLabel : ∃ fails, label = .coordinate connection.listener fails) (unread : connection.received = 0)
      (serving : (system.listeners connection.listener).activity.serves = waiter :: activity.serves)
      (confirmed : (system.listeners connection.listener).confirmed = true) :
      Evolves system next label waiter (some connection)
        (some { connection with received := connection.received + 1, closed := true })

namespace System

/-- Only the connection of one waiter is changed. -/
theorem evolves_mapped {system next : System} {label : Label} {process : Nat} {change : Connection → Connection}
    {current : Connection} (isCurrent : system.connections process = some current)
    (connections : next.connections =
      Function.update system.connections process ((system.connections process).map change))
    (evolves : Evolves system next label process (some current) (some (change current))) (waiter : Nat) :
    Evolves system next label waiter (system.connections waiter) (next.connections waiter) := by
  rw [connections]
  by_cases same : waiter = process
  · subst same
    rw [Function.update_self, isCurrent, Option.map_some]
    exact evolves
  · rw [Function.update_of_ne same]
    exact .same _

theorem evolves_hungUp {system next : System} {label : Label} (rostered : system.Rostered) (process : Nat)
    (connections : next.connections = (system.hangUp process).connections)
    (ended : (next.listeners process).activity = .ended) (waiter : Nat) :
    Evolves system next label waiter (system.connections waiter) (next.connections waiter) := by
  rw [connections]
  by_cases member : waiter ∈ (system.listeners process).connected
  · obtain ⟨current, isCurrent, isProcess, _⟩ := (rostered process).connected waiter member
    simp only [hangUp, member, if_true, isCurrent, Option.map_some]
    exact .hungUp (isProcess ▸ ended)
  · simp only [hangUp, member, if_false]
    exact .same _

theorem Coordinated.unknown {system : System} (coordinated : system.Coordinated) {process : Nat}
    (waiting : system.phases process = .waiting) : system.connections process = none := by
  cases isConnection : system.connections process with
  | none => rfl
  | some connection => simpa [waiting] using coordinated.attached process connection isConnection

theorem evolves_accepted {system : System} {label : Label} (rostered : system.Rostered) {process waiter : Nat}
    {rest : List Nat} (accepting : (system.listeners process).activity = .accepting)
    (isBacklog : (system.listeners process).backlog = waiter :: rest) (other : Nat) :
    Evolves system (system.accept process waiter rest) label other (system.connections other)
      ((system.accept process waiter rest).connections other) := by
  have member : waiter ∈ (system.listeners process).connected := by
    simp [Listener.connected, isBacklog]
  obtain ⟨current, isCurrent, isProcess, _⟩ := (rostered process).connected waiter member
  have accepts := isProcess ▸ accepting
  simp only [accept]
  split
  next => exact evolves_mapped isCurrent rfl (.accepted accepts) other
  next unconfirmed =>
    split
    next => exact evolves_mapped isCurrent rfl (.accepted accepts) other
    next full =>
      refine evolves_mapped isCurrent rfl (.turnedAway accepts ?_ ?_) other
      · rw [isProcess]
        simpa using unconfirmed
      · rw [isProcess]
        exact Nat.le_of_not_lt full

theorem Change.evolves {system next : System} (coordinated : system.Coordinated)
    {label : Label} (change : system.Change label next) (waiter : Nat) :
    Evolves system next label waiter (system.connections waiter) (next.connections waiter) := by
  cases change with
  | connected waiting reached =>
    rename_i process owner
    by_cases same : waiter = process
    · subst same
      simp only [Function.update_self, coordinated.unknown waiting]
      exact .connected
    · simp only [Function.update_of_ne same]
      exact .same _
  | ended step isLabel =>
    rename_i process phase
    exact evolves_hungUp coordinated.rostered process (by rfl) (by simp [hangUp, closeLease]) waiter
  | hungUp dropping => exact evolves_hungUp coordinated.rostered _ (by rfl) (by simp [hangUp]) waiter
  | accepted accepting isBacklog => exact evolves_accepted coordinated.rostered accepting isBacklog waiter
  | told serving goesOn =>
    rename_i process served activity fails
    have roster := coordinated.rostered process
    have confirmed := roster.serving (by simp [serving])
    have member : served ∈ (system.listeners process).connected := by
      simp [Listener.connected, Listener.accepted, serving]
    obtain ⟨current, isCurrent, isProcess, unread, _⟩ := roster.connected served member
    exact evolves_mapped isCurrent rfl
      (.told ⟨fails, by rw [isProcess]⟩ unread (isProcess ▸ serving) (isProcess ▸ confirmed)) waiter
  | _ => exact .same _

/-- A coordinator that has ended does not start again. -/
theorem Change.stays_ended {system next : System} (unstarted : system.Unstarted)
    {label : Label} (change : system.Change label next) {process : Nat}
    (ended : (system.listeners process).activity = .ended) :
    (next.listeners process).activity = .ended := by
  have kept : ∀ {other : Nat} {listener : Listener},
      ((system.listeners other).activity = .ended → listener.activity = .ended) →
      (Function.update system.listeners other listener process).activity = .ended := by
    intro other listener stays
    by_cases same : process = other
    · subst same
      rw [Function.update_self]
      exact stays ended
    · rw [Function.update_of_ne same]
      exact ended
  have running : ∀ {other : Nat} {listener : Listener},
      (system.listeners other).activity.runs = true →
      (Function.update system.listeners other listener process).activity = .ended := by
    intro other listener runs
    refine kept fun isEnded => ?_
    simp [isEnded, Activity.runs] at runs
  cases change with
  | bound => exact kept id
  | connected => exact kept id
  | ended => exact kept fun _ => rfl
  | hungUp => exact kept fun _ => rfl
  | activated owned =>
    refine kept fun isEnded => ?_
    have off := unstarted _ (by rw [owned]; rfl)
    exact absurd (off.symm.trans isEnded) (by simp)
  | turned runs => exact running runs
  | confirmed woken => exact running (by simp [woken, Activity.runs])
  | accepted accepting =>
    simp only [accept]
    split
    · exact running (by simp [accepting, Activity.runs])
    · split <;> exact running (by simp [accepting, Activity.runs])
  | told serving =>
    refine running ?_
    revert serving
    cases (system.listeners _).activity <;> simp [Activity.serves, Activity.runs]
  | _ => exact ended

/-! ## A coordinator left alone -/

/-- The coordinator of the process takes this many steps, none of which fails. -/
def coordinates (system : System) (process count : Nat) : Option System :=
  (List.replicate count process).foldlM (fun system process => system.coordinate process false) system

theorem coordinates_succ {system next final : System} {process count : Nat}
    (steps : system.coordinate process false = some next)
    (continues : next.coordinates process count = some final) :
    system.coordinates process (count + 1) = some final := by
  simp only [coordinates, List.replicate_succ, List.foldlM_cons, steps]
  exact continues

/-- The waiter has been told READY once. -/
def Told (system : System) (waiter : Nat) : Prop :=
  ∃ connection, system.connections waiter = some connection ∧ connection.received = 1

/-- The coordinator is about to tell READY to the waiter, and does so on its own. -/
theorem served_of_serves {system : System} (coordinated : system.Coordinated) (process waiter : Nat)
    (member : waiter ∈ (system.listeners process).activity.serves) :
    ∃ count final, system.coordinates process count = some final ∧ final.Told waiter := by
  have tells : ∀ {system : System} {activity : Activity}, system.Coordinated →
      (system.listeners process).activity.serves = waiter :: activity.serves →
      ((system.setListener process { system.listeners process with activity := activity }).tell
        waiter).Told waiter := by
    intro system activity coordinated serving
    have isMember : waiter ∈ (system.listeners process).connected := by
      simp [Listener.connected, Listener.accepted, serving]
    obtain ⟨current, isCurrent, _, unread, _⟩ :=
      (coordinated.rostered process).connected waiter isMember
    refine ⟨{ current with received := current.received + 1, closed := true }, ?_, by simp [unread]⟩
    simp [tell, setListener, isCurrent]
  cases activity : (system.listeners process).activity with
  | answering answered =>
    obtain rfl : waiter = answered := by simpa [activity, Activity.serves] using member
    have steps : system.coordinate process false = some ((system.setListener process
        { system.listeners process with activity := .accepting }).tell waiter) := by
      simp [coordinate, activity]
    exact ⟨1, _, coordinates_succ steps rfl, tells coordinated (by simp [activity, Activity.serves])⟩
  | flushing waiters accept =>
    have isWaiting : waiter ∈ waiters := by simpa [activity, Activity.serves] using member
    clear member
    induction waiters generalizing system with
    | nil => contradiction
    | cons first rest inductionHypothesis =>
      have serving : (system.listeners process).activity.serves = first :: rest := by
        simp [activity, Activity.serves]
      have steps : system.coordinate process false = some ((system.setListener process
          { system.listeners process with activity := .flushing rest accept }).tell first) := by
        simp [coordinate, activity]
      rcases List.mem_cons.mp isWaiting with rfl | later
      · exact ⟨1, _, coordinates_succ steps rfl,
          tells coordinated serving⟩
      · obtain ⟨count, final, continues, told⟩ := inductionHypothesis
          (coordinated.changed (coordinate_change steps))
          (by simp [tell, setListener]) later
        exact ⟨count + 1, final, coordinates_succ steps continues, told⟩
  | off | polling | woken | accepting | ended => simp [activity, Activity.serves] at member

/-- The waiter waits for the confirmation, which the owner has reported. -/
structure Awaits (system : System) (process waiter : Nat) : Prop where
  coordinated : system.Coordinated
  unconfirmed : (system.listeners process).confirmed = false
  written : (system.locks process).readyWritten = true
  goesOn : system.phases process ≠ .stopping
  member : waiter ∈ (system.listeners process).waiters

theorem Awaits.turned {system : System} {process waiter : Nat} (awaits : system.Awaits process waiter)
    {activity : Activity} (steps : system.coordinate process false = some (system.setListener process
      { system.listeners process with activity := activity })) :
    (system.setListener process
      { system.listeners process with activity := activity }).Awaits process waiter where
  coordinated := awaits.coordinated.changed (coordinate_change steps)
  unconfirmed := by simpa [setListener] using awaits.unconfirmed
  written := awaits.written
  goesOn := awaits.goesOn
  member := by simpa [setListener] using awaits.member

theorem Awaits.served_of_woken {system : System} {process waiter : Nat}
    (awaits : system.Awaits process waiter) (accept : Bool)
    (woken : (system.listeners process).activity = .woken true accept) :
    ∃ count final, system.coordinates process count = some final ∧ final.Told waiter := by
  have steps : system.coordinate process false = some (system.readReady process accept) := by
    simp [coordinate, woken]
  obtain ⟨count, final, continues, told⟩ := served_of_serves
    (awaits.coordinated.changed (coordinate_change steps)) process waiter
    (by simp [readReady, awaits.written, setListener, Activity.serves, awaits.member])
  exact ⟨count + 1, final, coordinates_succ steps continues, told⟩

theorem Awaits.served_of_polling {system : System} {process waiter : Nat}
    (awaits : system.Awaits process waiter)
    (polling : (system.listeners process).activity = .polling) :
    ∃ count final, system.coordinates process count = some final ∧ final.Told waiter := by
  let accept := !(system.listeners process).backlog.isEmpty
  have closed := awaits.coordinated.isSealed.closed process awaits.written
  have steps : system.coordinate process false = some (system.setListener process
      { system.listeners process with activity := .woken true accept }) := by
    simp [coordinate, polling, poll, awaits.goesOn, awaits.unconfirmed, closed, accept]
  have next : (system.setListener process
      { system.listeners process with activity := .woken true accept }).Awaits process waiter :=
    awaits.turned steps
  obtain ⟨count, final, continues, told⟩ := next.served_of_woken accept (by simp [setListener])
  exact ⟨count + 1, final, coordinates_succ steps continues, told⟩

theorem Awaits.accepted {system : System} {process waiter first : Nat} {rest : List Nat}
    (awaits : system.Awaits process waiter)
    (accepting : (system.listeners process).activity = .accepting)
    (isBacklog : (system.listeners process).backlog = first :: rest) :
    (system.accept process first rest).Awaits process waiter ∧
      ((system.accept process first rest).listeners process).activity = .accepting ∧
      ((system.accept process first rest).listeners process).backlog = rest := by
  have steps : system.coordinate process false = some (system.accept process first rest) := by
    simp [coordinate, accepting, isBacklog]
  have coordinated := awaits.coordinated.changed (coordinate_change steps)
  have unconfirmed := awaits.unconfirmed
  simp only [accept, unconfirmed, Bool.false_eq_true, if_false] at coordinated ⊢
  split at coordinated
  next room =>
    rw [if_pos room]
    refine ⟨⟨coordinated, by simp [setListener], awaits.written, awaits.goesOn, ?_⟩,
      by simp [setListener, accepting], by simp [setListener]⟩
    simp [setListener, awaits.member]
  next full =>
    rw [if_neg full]
    refine ⟨⟨coordinated, by simp [setListener], awaits.written, awaits.goesOn, ?_⟩,
      by simp [setListener, accepting], by simp [setListener]⟩
    simpa [setListener] using awaits.member

theorem Awaits.served_of_accepting {system : System} {process waiter : Nat} (backlog : List Nat)
    (awaits : system.Awaits process waiter)
    (accepting : (system.listeners process).activity = .accepting)
    (isBacklog : (system.listeners process).backlog = backlog) :
    ∃ count final, system.coordinates process count = some final ∧ final.Told waiter := by
  induction backlog generalizing system with
  | nil =>
    have steps : system.coordinate process false = some (system.setListener process
        { system.listeners process with activity := .polling }) := by
      simp [coordinate, accepting, isBacklog]
    have next : (system.setListener process
        { system.listeners process with activity := .polling }).Awaits process waiter :=
      awaits.turned steps
    obtain ⟨count, final, continues, told⟩ := next.served_of_polling (by simp [setListener])
    exact ⟨count + 1, final, coordinates_succ steps continues, told⟩
  | cons first rest inductionHypothesis =>
    have steps : system.coordinate process false = some (system.accept process first rest) := by
      simp [coordinate, accepting, isBacklog]
    obtain ⟨next, stillAccepting, isRest⟩ := awaits.accepted accepting isBacklog
    obtain ⟨count, final, continues, told⟩ := inductionHypothesis next stillAccepting isRest
    exact ⟨count + 1, final, coordinates_succ steps continues, told⟩

/-- Whatever it does now, the coordinator comes to tell READY to all that wait for it. -/
theorem Awaits.served {system : System} {process waiter : Nat} (awaits : system.Awaits process waiter)
    (runs : (system.listeners process).activity.runs = true) :
    ∃ count final, system.coordinates process count = some final ∧ final.Told waiter := by
  -- One step leads to a place from which the waiter is served.
  have afterReady : ∀ accept : Bool, system.coordinate process false = some (system.setListener process
        { system.listeners process with activity := Activity.afterReady accept }) →
      ∃ count final, system.coordinates process count = some final ∧ final.Told waiter := by
    intro accept steps
    have next := awaits.turned steps
    have serves : ∃ count final, (system.setListener process
        { system.listeners process with activity := Activity.afterReady accept }).coordinates process
          count = some final ∧ final.Told waiter := by
      cases accept with
      | true => exact next.served_of_accepting _ (by simp [setListener, Activity.afterReady]) rfl
      | false => exact next.served_of_polling (by simp [setListener, Activity.afterReady])
    obtain ⟨count, final, continues, told⟩ := serves
    exact ⟨count + 1, final, coordinates_succ steps continues, told⟩
  have serving := (awaits.coordinated.rostered process).serving
  rw [awaits.unconfirmed] at serving
  cases activity : (system.listeners process).activity with
  | off | ended => simp [activity, Activity.runs] at runs
  | polling => exact awaits.served_of_polling activity
  | woken ready accept =>
    cases ready with
    | true => exact awaits.served_of_woken _ activity
    | false =>
      exact afterReady accept (by simp [coordinate, activity])
  | flushing waiters accept =>
    cases waiters with
    | nil => exact afterReady accept (by simp [coordinate, activity])
    | cons first rest => simp [activity, Activity.serves] at serving
  | accepting => exact awaits.served_of_accepting _ activity rfl
  | answering answered => simp [activity, Activity.serves] at serving

end System

/-! ## Whole runs -/

/-- The waiter was turned away, for want of room among those that waited unconfirmed. -/
def TurnedAway (run : coordination.Run) (index process : Nat) : Prop :=
  ∃ moment, moment < index ∧ ((run.state moment).listeners process).confirmed = false ∧
    maxWaiters ≤ ((run.state moment).listeners process).waiters.length

theorem closed_unread (run : coordination.Run) (index : Nat) (bound : index ≤ run.length) :
    ∀ waiter connection, (run.state index).connections waiter = some connection →
      connection.closed = true → connection.received = 0 →
      ((run.state index).listeners connection.listener).activity = .ended ∨
        TurnedAway run index connection.listener := by
  refine run.indexed_invariant (fun index => ∀ waiter connection,
      (run.state index).connections waiter = some connection →
      connection.closed = true → connection.received = 0 →
      ((run.state index).listeners connection.listener).activity = .ended ∨
        TurnedAway run index connection.listener) ?_ ?_ index bound
  · intro waiter connection isConnection
    have starts : run.state 0 = .start := run.starts
    rw [starts] at isConnection
    contradiction
  · intro index bound before waiter connection isConnection closed unread
    have coordinated := coordination_coordinated (run.reachable index (Nat.le_of_lt bound))
    have change := System.next_change (run.steps index bound)
    have evolves := change.evolves coordinated waiter
    rw [isConnection] at evolves
    generalize isBefore : (run.state index).connections waiter = previous at evolves
    cases evolves with
    | same =>
      rcases before waiter connection isBefore closed unread with ended | ⟨moment, order, full⟩
      · exact .inl (change.stays_ended coordinated.unstarted ended)
      · exact .inr ⟨moment, Nat.lt_succ_of_lt order, full⟩
    | connected => contradiction
    | hungUp ended => exact .inl ended
    | accepted => contradiction
    | turnedAway accepting unconfirmed full =>
      exact .inr ⟨index, Nat.lt_succ_self index, unconfirmed, full⟩
    | told => contradiction

/-- At an earlier index READY was written and confirmed, and the waiter had not been told of it. -/
def ReadyBefore (run : coordination.Run) (index waiter listener : Nat) : Prop :=
  ∃ earlier, earlier < index ∧ ((run.state earlier).listeners listener).confirmed = true ∧
    ((run.state earlier).locks listener).readyWritten = true ∧
    ∀ before, (run.state earlier).connections waiter = some before → before.received = 0

/-- Before READY is told to a waiter, the coordinator has read it from its owner. -/
theorem told_after_ready (run : coordination.Run) (index : Nat) (bound : index ≤ run.length) :
    ∀ waiter connection, (run.state index).connections waiter = some connection →
      0 < connection.received → ReadyBefore run index waiter connection.listener := by
  refine run.indexed_invariant (fun index => ∀ waiter connection,
    (run.state index).connections waiter = some connection → 0 < connection.received →
      ReadyBefore run index waiter connection.listener) ?_ ?_ index bound
  · intro waiter connection isConnection
    have starts : run.state 0 = .start := run.starts
    rw [starts] at isConnection
    contradiction
  · intro index bound before waiter connection isConnection received
    have coordinated := coordination_coordinated (run.reachable index (Nat.le_of_lt bound))
    have evolves := (System.next_change (run.steps index bound)).evolves coordinated waiter
    rw [isConnection] at evolves
    generalize isBefore : (run.state index).connections waiter = previous at evolves
    have earlier : ∀ old, (run.state index).connections waiter = some old →
        old.listener = connection.listener → 0 < old.received →
        ReadyBefore run (index + 1) waiter connection.listener := by
      intro old isOld sameListener oldReceived
      obtain ⟨earlier, order, read⟩ := before waiter old isOld oldReceived
      exact ⟨earlier, Nat.lt_succ_of_lt order, sameListener ▸ read⟩
    cases evolves with
    | same => exact earlier connection isBefore rfl received
    | connected => contradiction
    | hungUp => exact earlier _ isBefore rfl received
    | accepted => exact earlier _ isBefore rfl received
    | turnedAway => exact earlier _ isBefore rfl received
    | told isLabel unread serving confirmed =>
      refine ⟨index, Nat.lt_succ_self index, confirmed, coordinated.confirmed _ confirmed, ?_⟩
      intro old isOld
      rw [isBefore] at isOld
      cases isOld
      exact unread

/-- Once the first attempt at the lease has failed, a process is neither owner nor on its way to it. -/
def Phase.gone : Phase → Bool
  | .waiting | .reading | .probing | .failing | .sleeping | .returned _ | .dead => true
  | _ => false

theorem gone_stays {system next : System} {label : Label} {process : Nat} {before after : Phase}
    (advances : Advances system next label process before after) (gone : before.gone = true) :
    after.gone = true := by
  cases advances with
  | same => exact gone
  | moved step => cases step <;> first | rfl | contradiction
  | took step =>
    cases step with
    | first => contradiction
    | probed => rfl
  | unlinked step => cases step <;> contradiction
  | closedLease step =>
    cases step with
    | gaveUp => rfl
    | dropped => contradiction
    | released => contradiction
  | ended step => cases step <;> rfl
  | connected => rfl
  | readEnded => rfl
  | refused => rfl
  | entered => contradiction
  | bound => contradiction
  | activated => contradiction
  | joined => contradiction
  | tornDown => contradiction

theorem not_owns_of_gone {phase : Phase} (gone : phase.gone = true) :
    phase.owns = false ∧ phase.prepares = false := by
  cases phase <;> first | contradiction | exact ⟨rfl, rfl⟩

/-- In every run there is one owner at most; READY is told only after the owner's READY was read; the
coordinator, as long as it runs, tells it once and only once to everyone it has accepted, unless 64
were waiting unconfirmed; and who has failed to get the lease first never owns it. -/
theorem coordination_safe (run : coordination.Run) {index : Nat} (bound : index ≤ run.length) :
    (∀ first second, ((run.state index).phases first).owns = true →
      ((run.state index).phases second).owns = true → first = second) ∧
    (∀ waiter connection, (run.state index).connections waiter = some connection →
      0 < connection.received → ∃ earlier, earlier < index ∧
        ((run.state earlier).listeners connection.listener).confirmed = true ∧
        ((run.state earlier).locks connection.listener).readyWritten = true ∧
        ∀ before, (run.state earlier).connections waiter = some before → before.received = 0) ∧
    (∀ waiter connection, (run.state index).connections waiter = some connection →
      connection.accepted = true →
      ((run.state index).listeners connection.listener).activity.runs = true →
      connection.received ≤ 1 ∧
      (connection.received = 1 ∨ TurnedAway run index connection.listener ∨
        (connection.closed = false ∧
          (((run.state index).locks connection.listener).readyWritten = true →
            (run.state index).phases connection.listener ≠ .stopping →
            ∃ count final, (run.state index).coordinates connection.listener count = some final ∧
              final.Told waiter)))) ∧
    (∀ process, (run.state index).phases process = .waiting → ∀ later, index ≤ later →
      later ≤ run.length → ((run.state later).phases process).owns = false) := by
  have coordinated := coordination_coordinated (run.reachable index bound)
  refine ⟨?_, told_after_ready run index bound, ?_, ?_⟩
  · intro first second isFirst isSecond
    -- Every phase that owns the screen is one that holds the lock, and the lock has one holder.
    have holds : ∀ {phase : Phase}, phase.owns = true → phase.holds = true := by
      intro phase owns
      cases phase with
      | abandoning leased => cases leased <;> first | rfl | contradiction
      | _ => first | rfl | contradiction
    have held := (coordinated.exclusive first).mpr (holds isFirst)
    have alsoHeld := (coordinated.exclusive second).mpr (holds isSecond)
    exact Option.some.inj (held.symm.trans alsoHeld)
  · intro waiter connection isConnection accepted runs
    have roster := coordinated.rostered connection.listener
    have once : connection.received = 0 ∨ connection.received = 1 := by
      by_cases received : 0 < connection.received
      · exact .inr (roster.told waiter connection isConnection rfl received).1
      · exact .inl (by omega)
    refine ⟨by omega, ?_⟩
    rcases once with unread | once
    case inr => exact .inl once
    cases closed : connection.closed with
    | true =>
      rcases closed_unread run index bound waiter connection isConnection closed unread with
        ended | full
      · simp [ended, Activity.runs] at runs
      · exact .inr (.inl full)
    | false =>
      refine .inr (.inr ⟨rfl, fun written goesOn => ?_⟩)
      obtain ⟨same, isSame, _, _, _, isAccepted⟩ := roster.connected waiter
        (roster.isOpen waiter connection isConnection rfl closed)
      obtain rfl : connection = same := Option.some.inj (isConnection.symm.trans isSame)
      cases List.mem_append.mp (isAccepted.mp accepted) with
      | inl waits =>
        have unconfirmed : ((run.state index).listeners connection.listener).confirmed = false := by
          by_contra confirmed
          rw [roster.waiters (by simpa using confirmed)] at waits
          contradiction
        exact System.Awaits.served ⟨coordinated, unconfirmed, written, goesOn, waits⟩ runs
      | inr serves => exact System.served_of_serves coordinated _ _ serves
  · intro process waiting later order laterBound
    have gone : ((run.state later).phases process).gone = true := by
      refine run.stays (fun system => (system.phases process).gone = true) order laterBound
        ?_ (by simp [waiting, Phase.gone])
      intro moment _ before isGone
      exact gone_stays ((System.next_change (run.steps moment (by omega))).advances process) isGone
    exact (not_owns_of_gone gone).1

/-- An owner, its confirmation, and a second caller that waits for it. -/
def joinLabels : List Label :=
  [.enter 0, .tryLock 0, .removeFile 0, .bind 0, .own 0, .activate 0, .enter 1, .tryLock 1, .connect 1,
    .coordinate 0 false, .coordinate 0 false, .coordinate 0 false, .coordinate 0 false, .confirm 0,
    .report 0 true, .coordinate 0 false, .coordinate 0 false, .coordinate 0 false, .readEnd 1]

instance : Inhabited Label := ⟨.enter 0⟩

def joinRun : coordination.Run :=
  TransitionSystem.runOfLabels System.start rfl joinLabels rfl

theorem coordination_safe_sample :
    ∃ connection, (joinRun.state 18).connections 1 = some connection ∧ 0 < connection.received ∧
      ∃ earlier, earlier < 18 ∧
        ((joinRun.state earlier).listeners connection.listener).confirmed = true ∧
        ((joinRun.state earlier).locks connection.listener).readyWritten = true ∧
        ∀ before, (joinRun.state earlier).connections 1 = some before → before.received = 0 := by
  obtain ⟨_, told, _, _⟩ := coordination_safe joinRun (show 18 ≤ joinRun.length by decide)
  exact ⟨_, rfl, by decide, told 1 _ rfl (by decide)⟩

end Genkan.Coordination
