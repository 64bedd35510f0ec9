import Mathlib.Data.List.Nodup
import Genkan.Coordination.Ownership

/-! # The waiters of a listener

Every open connection is in one place of its listener's roster: in the backlog, among those that
wait for the confirmation, or about to be told READY.  A closed one was told READY at most once.
-/

namespace Genkan.Coordination

open Foundations

/-- The connections of a listener agree with its lists. -/
structure Roster (connections : Nat → Option Connection) (process : Nat) (listener : Listener) : Prop where
  distinct : listener.connected.Nodup
  connected : ∀ waiter ∈ listener.connected, ∃ connection, connections waiter = some connection ∧
    connection.listener = process ∧ connection.received = 0 ∧ connection.closed = false ∧
    (connection.accepted = true ↔ waiter ∈ listener.accepted)
  waiters : listener.confirmed = true → listener.waiters = []
  serving : listener.activity.serves ≠ [] → listener.confirmed = true
  isOpen : ∀ waiter connection, connections waiter = some connection → connection.listener = process →
    connection.closed = false → waiter ∈ listener.connected
  told : ∀ waiter connection, connections waiter = some connection → connection.listener = process →
    0 < connection.received → connection.received = 1 ∧ connection.accepted = true ∧
      connection.closed = true ∧ listener.confirmed = true

namespace System

def Rostered (system : System) : Prop :=
  ∀ process, Roster system.connections process (system.listeners process)

/-- A coordinator is confirmed only by its owner's READY. -/
def Confirmed (system : System) : Prop :=
  ∀ process, (system.listeners process).confirmed = true → (system.locks process).readyWritten = true

end System

namespace Roster

/-! ## What a step does to a roster -/

/-- A roster does not depend on the connections of other listeners. -/
theorem congr {connections next : Nat → Option Connection} {process : Nat} {listener : Listener}
    (roster : Roster connections process listener)
    (same : ∀ waiter connection, connection.listener = process →
      (next waiter = some connection ↔ connections waiter = some connection)) :
    Roster next process listener := by
  obtain ⟨distinct, connected, waiters, serving, isOpen, told⟩ := roster
  refine ⟨distinct, ?_, waiters, serving, ?_, ?_⟩
  · intro waiter member
    obtain ⟨connection, isConnection, isProcess, rest⟩ := connected waiter member
    exact ⟨connection, (same waiter connection isProcess).mpr isConnection, isProcess, rest⟩
  · intro waiter connection isConnection isProcess
    exact isOpen waiter connection ((same waiter connection isProcess).mp isConnection) isProcess
  · intro waiter connection isConnection isProcess
    exact told waiter connection ((same waiter connection isProcess).mp isConnection) isProcess

/-- The coordinator turns to something else without touching its waiters. -/
theorem retuned {connections : Nat → Option Connection} {process : Nat} {listener after : Listener}
    (roster : Roster connections process listener) (backlog : after.backlog = listener.backlog)
    (waiters : after.waiters = listener.waiters) (confirmed : after.confirmed = listener.confirmed)
    (serves : after.activity.serves = listener.activity.serves) :
    Roster connections process after := by
  have accepted : after.accepted = listener.accepted := by
    simp only [Listener.accepted, waiters, serves]
  have connected : after.connected = listener.connected := by
    simp only [Listener.connected, backlog, accepted]
  obtain ⟨distinct, members, none, serving, isOpen, told⟩ := roster
  exact ⟨connected ▸ distinct, connected ▸ accepted ▸ members, confirmed ▸ waiters ▸ none,
    serves ▸ confirmed ▸ serving, connected ▸ isOpen, confirmed ▸ told⟩

theorem connects {connections : Nat → Option Connection} {process : Nat} {listener : Listener}
    (roster : Roster connections process listener) {waiter : Nat} (unknown : connections waiter = none) :
    Roster (Function.update connections waiter
        (some { listener := process, accepted := false, received := 0, closed := false })) process
      { listener with backlog := listener.backlog ++ [waiter] } := by
  obtain ⟨distinct, connected, waiters, serving, isOpen, told⟩ := roster
  have absent : waiter ∉ listener.connected := by
    intro member
    obtain ⟨connection, isConnection, _⟩ := connected waiter member
    simp [unknown] at isConnection
  have members : ∀ other, other ∈ ({ listener with
      backlog := listener.backlog ++ [waiter] } : Listener).connected ↔
      other ∈ listener.connected ∨ other = waiter := by
    intro other
    simp only [Listener.connected, List.mem_append, List.mem_singleton]
    change (_ ∨ other ∈ listener.accepted) ↔ _
    tauto
  refine ⟨?_, ?_, waiters, serving, ?_, ?_⟩
  · simp only [Listener.connected, List.append_assoc, List.singleton_append]
    exact List.nodup_middle.mpr (List.nodup_cons.mpr ⟨absent, distinct⟩)
  · intro other member
    rcases (members other).mp member with old | rfl
    · have different : other ≠ waiter := fun same => absent (same ▸ old)
      rw [Function.update_of_ne different]
      exact connected other old
    · rw [Function.update_self]
      refine ⟨_, rfl, rfl, rfl, rfl, ?_⟩
      simp only [Bool.false_eq_true, false_iff]
      exact fun accepted => absent (List.mem_append_right _ accepted)
  · intro other connection isConnection isProcess closed
    by_cases same : other = waiter
    · exact (members other).mpr (.inr same)
    · rw [Function.update_of_ne same] at isConnection
      exact (members other).mpr (.inl (isOpen other connection isConnection isProcess closed))
  · intro other connection isConnection isProcess received
    by_cases same : other = waiter
    · subst same
      rw [Function.update_self] at isConnection
      cases isConnection
      contradiction
    · rw [Function.update_of_ne same] at isConnection
      exact told other connection isConnection isProcess received

theorem confirms {connections : Nat → Option Connection} {process : Nat} {listener : Listener}
    (roster : Roster connections process listener) {ready accept : Bool}
    (woken : listener.activity = .woken ready accept) :
    Roster connections process
      { listener with
        confirmed := true
        waiters := []
        activity := .flushing listener.waiters accept } := by
  have accepted : ({ listener with
      confirmed := true
      waiters := []
      activity := .flushing listener.waiters accept } : Listener).accepted = listener.accepted := by
    simp [Listener.accepted, Activity.serves, woken]
  obtain ⟨distinct, connected, waiters, serving, isOpen, told⟩ := roster
  refine ⟨?_, ?_, fun _ => rfl, fun _ => rfl, ?_, ?_⟩
  · rw [Listener.connected, accepted]
    exact distinct
  · intro waiter member
    rw [Listener.connected, accepted] at member
    rw [accepted]
    exact connected waiter member
  · intro waiter connection isConnection isProcess closed
    rw [Listener.connected, accepted]
    exact isOpen waiter connection isConnection isProcess closed
  · intro waiter connection isConnection isProcess received
    obtain ⟨once, isAccepted, closed, _⟩ := told waiter connection isConnection isProcess received
    exact ⟨once, isAccepted, closed, rfl⟩

/-- One waiter leaves the roster; its connection is closed, with READY or without. -/
theorem dismisses {connections : Nat → Option Connection} {process : Nat} {listener after : Listener}
    (roster : Roster connections process listener) {waiter : Nat} {change : Connection → Connection}
    (split : listener.connected.Perm (waiter :: after.connected))
    (accepted : ∀ other, other ∈ after.connected →
      (other ∈ after.accepted ↔ other ∈ listener.accepted))
    (confirmed : after.confirmed = listener.confirmed)
    (waiters : after.confirmed = true → after.waiters = [])
    (serving : after.activity.serves ≠ [] → after.confirmed = true)
    (closes : ∀ connection, (change connection).closed = true)
    (tells : ∀ connection, connection.received = 0 → 0 < (change connection).received →
      (change connection).received = 1 ∧ (listener.confirmed = true) ∧
        (waiter ∈ listener.accepted) ∧ (change connection).accepted = connection.accepted) :
    Roster (Function.update connections waiter ((connections waiter).map change)) process after := by
  obtain ⟨distinct, connected, _, _, isOpen, told⟩ := roster
  have unique := List.nodup_cons.mp (split.nodup_iff.mp distinct)
  have was : ∀ other, other ∈ after.connected → other ∈ listener.connected ∧ other ≠ waiter := by
    intro other member
    exact ⟨split.mem_iff.mpr (.tail _ member), fun same => unique.1 (same ▸ member)⟩
  obtain ⟨current, isCurrent, currentProcess, unread, _, isAccepted⟩ :=
    connected waiter (split.mem_iff.mpr (.head _))
  refine ⟨unique.2, ?_, waiters, serving, ?_, ?_⟩
  · intro other member
    obtain ⟨old, different⟩ := was other member
    rw [Function.update_of_ne different, accepted other member]
    exact connected other old
  · intro other connection isConnection isProcess closed
    by_cases same : other = waiter
    · subst same
      rw [Function.update_self, isCurrent, Option.map_some] at isConnection
      cases isConnection
      exact absurd (closes current) (by simp [closed])
    · rw [Function.update_of_ne same] at isConnection
      have member := isOpen other connection isConnection isProcess closed
      cases List.mem_cons.mp (split.mem_iff.mp member) with
      | inl isWaiter => exact absurd isWaiter same
      | inr rest => exact rest
  · intro other connection isConnection isProcess received
    by_cases same : other = waiter
    · subst same
      rw [Function.update_self, isCurrent, Option.map_some] at isConnection
      cases isConnection
      obtain ⟨once, isConfirmed, member, kept⟩ := tells current unread received
      exact ⟨once, kept.trans (isAccepted.mpr member), closes current, confirmed.trans isConfirmed⟩
    · rw [Function.update_of_ne same] at isConnection
      obtain ⟨once, isAccepted, closed, isConfirmed⟩ :=
        told other connection isConnection isProcess received
      exact ⟨once, isAccepted, closed, confirmed.trans isConfirmed⟩

/-- The first waiter of the backlog is accepted and kept. -/
theorem admits {connections : Nat → Option Connection} {process : Nat} {listener after : Listener}
    (roster : Roster connections process listener) {waiter : Nat}
    (same : after.connected.Perm listener.connected)
    (accepted : ∀ other, other ∈ after.accepted ↔ other ∈ listener.accepted ∨ other = waiter)
    (member : waiter ∈ listener.connected) (confirmed : after.confirmed = listener.confirmed)
    (waiters : after.confirmed = true → after.waiters = [])
    (serving : after.activity.serves ≠ [] → after.confirmed = true) :
    Roster (Function.update connections waiter ((connections waiter).map fun connection =>
      { connection with accepted := true, closed := false })) process after := by
  obtain ⟨distinct, connected, _, _, isOpen, told⟩ := roster
  obtain ⟨current, isCurrent, currentProcess, unread, openCurrent, _⟩ := connected waiter member
  refine ⟨same.nodup_iff.mpr distinct, ?_, waiters, serving, ?_, ?_⟩
  · intro other isMember
    by_cases isWaiter : other = waiter
    · subst isWaiter
      rw [Function.update_self, isCurrent]
      exact ⟨_, rfl, currentProcess, unread, rfl, by simp [accepted]⟩
    · rw [Function.update_of_ne isWaiter]
      obtain ⟨connection, isConnection, isProcess, zero, isOpen, isAccepted⟩ :=
        connected other (same.mem_iff.mp isMember)
      exact ⟨connection, isConnection, isProcess, zero, isOpen, by simp [isAccepted, accepted, isWaiter]⟩
  · intro other connection isConnection isProcess closed
    by_cases isWaiter : other = waiter
    · exact same.mem_iff.mpr (isWaiter ▸ member)
    · rw [Function.update_of_ne isWaiter] at isConnection
      exact same.mem_iff.mpr (isOpen other connection isConnection isProcess closed)
  · intro other connection isConnection isProcess received
    by_cases isWaiter : other = waiter
    · subst isWaiter
      rw [Function.update_self, isCurrent, Option.map_some] at isConnection
      cases isConnection
      simp [unread] at received
    · rw [Function.update_of_ne isWaiter] at isConnection
      obtain ⟨once, isAccepted, closed, isConfirmed⟩ :=
        told other connection isConnection isProcess received
      exact ⟨once, isAccepted, closed, confirmed.trans isConfirmed⟩

theorem hangsUp {system : System} {process : Nat}
    (roster : Roster system.connections process (system.listeners process)) :
    Roster (system.hangUp process).connections process
      { system.listeners process with listening := false, backlog := [], activity := .ended, waiters := [] } := by
  obtain ⟨_, _, _, _, isOpen, told⟩ := roster
  refine ⟨List.nodup_nil, nofun, fun _ => rfl, fun serves => absurd rfl serves, ?_, ?_⟩
  · intro waiter connection isConnection isProcess closed
    obtain ⟨before, isBefore, result⟩ := System.hangUp_connection isConnection
    by_cases member : waiter ∈ (system.listeners process).connected
    · simp [result, member] at closed
    · simp only [member, if_false] at result
      subst result
      exact absurd (isOpen waiter connection isBefore isProcess closed) member
  · intro waiter connection isConnection isProcess received
    obtain ⟨before, isBefore, result⟩ := System.hangUp_connection isConnection
    by_cases member : waiter ∈ (system.listeners process).connected
    · simp only [member, if_true] at result
      subst result
      obtain ⟨once, isAccepted, _, isConfirmed⟩ := told waiter before isBefore isProcess received
      exact ⟨once, isAccepted, rfl, isConfirmed⟩
    · simp only [member, if_false] at result
      subst result
      exact told waiter connection isBefore isProcess received

end Roster

namespace System

theorem Rostered.updated {system next : System} (rostered : system.Rostered) (process : Nat)
    {after : Listener} (listeners : next.listeners = Function.update system.listeners process after)
    (own : Roster next.connections process after)
    (foreign : ∀ other, other ≠ process → ∀ waiter connection, connection.listener = other →
      (next.connections waiter = some connection ↔ system.connections waiter = some connection)) :
    next.Rostered := by
  intro other
  by_cases same : other = process
  · subst same
    rw [listeners, Function.update_self]
    exact own
  · rw [listeners, Function.update_of_ne same]
    exact (rostered other).congr (foreign other same)

theorem foreign_mapped {table : Nat → Option Connection} {process waiter : Nat}
    {change : Connection → Connection} {current : Connection} (isCurrent : table waiter = some current)
    (own : current.listener = process) (keeps : (change current).listener = current.listener) :
    ∀ other, other ≠ process → ∀ reader connection, connection.listener = other →
      (Function.update table waiter ((table waiter).map change) reader = some connection ↔
        table reader = some connection) := by
  intro other different reader connection isOther
  by_cases same : reader = waiter
  · subst same
    rw [Function.update_self, isCurrent, Option.map_some]
    constructor
    · rintro ⟨⟩
      exact absurd (isOther.symm.trans (keeps.trans own)) different
    · rintro ⟨⟩
      exact absurd (isOther.symm.trans own) different
  · rw [Function.update_of_ne same]

theorem Rostered.hungUp {system : System} (rostered : system.Rostered) (process : Nat) :
    (system.hangUp process).Rostered := by
  refine rostered.updated process rfl (rostered process).hangsUp ?_
  intro other different waiter connection isOther
  by_cases member : waiter ∈ (system.listeners process).connected
  · obtain ⟨current, isCurrent, isProcess, _⟩ := (rostered process).connected waiter member
    simp only [hangUp, member, if_true, isCurrent, Option.map_some]
    constructor
    · rintro ⟨⟩
      exact absurd (isOther.symm.trans isProcess) different
    · rintro ⟨⟩
      exact absurd (isOther.symm.trans isProcess) different
  · simp only [hangUp, member, if_false]

theorem Rostered.accepted {system : System} (rostered : system.Rostered) {process waiter : Nat}
    {rest : List Nat} (accepting : (system.listeners process).activity = .accepting)
    (isBacklog : (system.listeners process).backlog = waiter :: rest) :
    (system.accept process waiter rest).Rostered := by
  have roster := rostered process
  have connected : (system.listeners process).connected =
      waiter :: (rest ++ (system.listeners process).waiters) := by
    simp [Listener.connected, Listener.accepted, isBacklog, accepting, Activity.serves]
  have member : waiter ∈ (system.listeners process).connected := connected ▸ List.mem_cons_self
  obtain ⟨current, isCurrent, isProcess, _⟩ := roster.connected waiter member
  simp only [accept]
  split
  next confirmed =>
    have none : (system.listeners process).waiters = [] := roster.waiters confirmed
    refine rostered.updated _ rfl ?_ (foreign_mapped isCurrent isProcess rfl)
    refine roster.admits ?_ ?_ member rfl (fun _ => none) (fun _ => confirmed)
    · rw [connected]
      simp only [Listener.connected, Listener.accepted, none, Activity.serves, List.nil_append,
        List.append_nil]
      exact List.perm_append_singleton waiter rest
    · simp [Listener.accepted, none, accepting, Activity.serves]
  next unconfirmed =>
    split
    next room =>
      refine rostered.updated _ rfl ?_ (foreign_mapped isCurrent isProcess rfl)
      refine roster.admits ?_ ?_ member rfl (fun confirmed => absurd confirmed unconfirmed)
        (fun serves => absurd (by simp [accepting, Activity.serves]) serves)
      · rw [connected]
        simp only [Listener.connected, Listener.accepted, accepting, Activity.serves, List.append_nil]
        rw [← List.append_assoc]
        exact List.perm_append_singleton waiter (rest ++ (system.listeners process).waiters)
      · simp [Listener.accepted, accepting, Activity.serves]
    next full =>
      refine rostered.updated _ rfl ?_ (foreign_mapped isCurrent isProcess rfl)
      refine roster.dismisses ?_ (fun _ _ => Iff.rfl) rfl roster.waiters roster.serving (fun _ => rfl) ?_
      · rw [connected]
        simp [Listener.connected, Listener.accepted, accepting, Activity.serves]
      · intro connection unread received
        simp [unread] at received

theorem Rostered.told {system : System} (rostered : system.Rostered) {process waiter : Nat}
    {activity : Activity}
    (serving : (system.listeners process).activity.serves = waiter :: activity.serves) :
    ((system.setListener process { system.listeners process with activity := activity }).tell
      waiter).Rostered := by
  have roster := rostered process
  have confirmed := roster.serving (by simp [serving])
  have none := roster.waiters confirmed
  have accepted : (system.listeners process).accepted = waiter :: activity.serves := by
    simp [Listener.accepted, none, serving]
  have connected : (system.listeners process).connected =
      (system.listeners process).backlog ++ waiter :: activity.serves := by
    rw [Listener.connected, accepted]
  have after : ({ system.listeners process with activity := activity } : Listener).accepted =
      activity.serves := by
    simp [Listener.accepted, none]
  have member : waiter ∈ (system.listeners process).connected := by simp [connected]
  obtain ⟨current, isCurrent, isProcess, _⟩ := roster.connected waiter member
  have distinct := roster.distinct
  refine rostered.updated _ rfl ?_ (foreign_mapped isCurrent isProcess rfl)
  refine roster.dismisses ?_ ?_ rfl (fun _ => none) (fun _ => confirmed) (fun _ => rfl) ?_
  · rw [connected, Listener.connected, after]
    exact List.perm_middle
  · intro other isMember
    rw [after, accepted, List.mem_cons]
    refine ⟨.inr, ?_⟩
    rintro (rfl | rest)
    · rw [connected] at distinct
      rw [Listener.connected, after] at isMember
      exact absurd isMember (List.nodup_cons.mp (List.nodup_middle.mp distinct)).1
    · exact rest
  · intro connection unread _
    exact ⟨by simp [unread], confirmed, by simp [accepted], rfl⟩

theorem Rostered.changed {system next : System} (rostered : system.Rostered)
    (attached : system.Attached) (hosted : system.Hosted) {label : Label} (change : system.Change label next) :
    next.Rostered := by
  cases change with
  | bound =>
    exact rostered.updated _ rfl ((rostered _).retuned rfl rfl rfl rfl) fun _ _ _ _ _ => Iff.rfl
  | connected waiting reached =>
    rename_i process owner
    have unknown : system.connections process = none := by
      cases isConnection : system.connections process with
      | none => rfl
      | some connection => simpa [waiting] using attached process connection isConnection
    refine rostered.updated _ rfl ((rostered owner).connects unknown) ?_
    intro other different waiter connection isOther
    by_cases same : waiter = process
    · subst same
      simp only [Function.update_self, unknown, reduceCtorEq, iff_false]
      rintro ⟨⟩
      exact different isOther.symm
    · simp only [Function.update_of_ne same]
  | ended => exact rostered.hungUp _
  | hungUp => exact rostered.hungUp _
  | activated owned =>
    rename_i process
    have idle : (system.listeners process).activity.serves = [] := by
      have stopped := hosted process
      simp only [owned, Phase.hosts, Bool.false_eq_true, imp_false, Bool.not_eq_true] at stopped
      revert stopped
      cases (system.listeners process).activity <;> simp [Activity.runs, Activity.serves]
    exact rostered.updated _ rfl ((rostered process).retuned rfl rfl rfl idle.symm) fun _ _ _ _ _ => Iff.rfl
  | turned runs goesOn served serves =>
    exact rostered.updated _ rfl ((rostered _).retuned rfl rfl rfl (serves.trans served.symm))
      fun _ _ _ _ _ => Iff.rfl
  | confirmed woken written =>
    exact rostered.updated _ rfl ((rostered _).confirms woken) fun _ _ _ _ _ => Iff.rfl
  | accepted accepting isBacklog => exact rostered.accepted accepting isBacklog
  | told serving goesOn => exact rostered.told serving
  | _ => exact rostered

/-! ## READY -/

theorem Confirmed.updated {system next : System} (confirmed : system.Confirmed) {process : Nat}
    {after : Listener} (listeners : next.listeners = Function.update system.listeners process after)
    (locks : next.locks = system.locks)
    (own : after.confirmed = true → (system.listeners process).confirmed = true ∨
      (system.locks process).readyWritten = true) : next.Confirmed := by
  intro other isConfirmed
  rw [listeners] at isConfirmed
  rw [locks]
  by_cases same : other = process
  · subst same
    rw [Function.update_self] at isConfirmed
    cases own isConfirmed with
    | inl before => exact confirmed other before
    | inr written => exact written
  · rw [Function.update_of_ne same] at isConfirmed
    exact confirmed other isConfirmed

theorem Confirmed.changed {system next : System} (confirmed : system.Confirmed)
    (isSealed : system.Sealed) {label : Label} (change : system.Change label next) : next.Confirmed := by
  have written := change.written isSealed
  cases change with
  | bound => exact confirmed.updated rfl rfl .inl
  | connected => exact confirmed.updated rfl rfl .inl
  | ended => exact confirmed.updated rfl rfl .inl
  | hungUp => exact confirmed.updated rfl rfl .inl
  | activated => exact confirmed.updated rfl rfl .inl
  | turned => exact confirmed.updated rfl rfl .inl
  | confirmed woken isWritten => exact confirmed.updated rfl rfl fun _ => .inr isWritten
  | accepted =>
    simp only [accept]
    split
    · exact confirmed.updated rfl rfl .inl
    · split <;> exact confirmed.updated rfl rfl .inl
  | told => exact confirmed.updated rfl rfl .inl
  | _ => exact fun process isConfirmed => written process (confirmed process isConfirmed)

/-! ## Every reachable state -/

structure Coordinated (system : System) : Prop where
  exclusive : system.Exclusive
  hosted : system.Hosted
  unstarted : system.Unstarted
  isSealed : system.Sealed
  attached : system.Attached
  rostered : system.Rostered
  confirmed : system.Confirmed

theorem Coordinated.changed {system next : System} (coordinated : system.Coordinated)
    {label : Label} (change : system.Change label next) : next.Coordinated where
  exclusive := coordinated.exclusive.changed change
  hosted := coordinated.hosted.changed change
  unstarted := coordinated.unstarted.changed coordinated.hosted change
  isSealed := coordinated.isSealed.changed change
  attached := coordinated.attached.changed change
  rostered := coordinated.rostered.changed coordinated.attached coordinated.hosted change
  confirmed := coordinated.confirmed.changed coordinated.isSealed change

theorem start_coordinated : start.Coordinated where
  exclusive _ := ⟨nofun, nofun⟩
  hosted _ := nofun
  unstarted _ _ := rfl
  isSealed := ⟨fun _ => nofun, fun _ => nofun, fun _ _ => nofun⟩
  attached _ _ := nofun
  rostered _ := ⟨List.nodup_nil, nofun, fun _ => rfl, fun serves => absurd rfl serves, fun _ _ => nofun,
    fun _ _ => nofun⟩
  confirmed _ := nofun

end System

theorem coordination_coordinated {system : System} (reachable : coordination.Reachable system) :
    system.Coordinated :=
  coordination_invariant System.start_coordinated
    (fun _ _ _ coordinated change => coordinated.changed change) reachable

end Genkan.Coordination
