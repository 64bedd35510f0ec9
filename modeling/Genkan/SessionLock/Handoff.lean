import Genkan.Foundations.Lists
import Genkan.SessionLock.Surface
import Mathlib.Logic.Relation

/-! # Handing the authentication role from one output to another

The abstract protocol behind the authentication output.  At any time the role has an owner: the
output that shows it, or the output that is retiring from it.  `Selects` are the moves by which
outputs appear and the role is assigned or taken away, `Continues` are the moves of a pending
retirement.  Neither changes the owner; only a release does.
-/

namespace Genkan.SessionLock

open Foundations

structure Role where
  output : Nat
  configured : Bool
  authentication : Bool
  rolePending : Bool
  deriving DecidableEq, Repr

structure Handoff where
  roles : List Role
  retiring : Option Nat
  retirement : Option AuthenticationRetirement
  feedback : Option Nat
  /-- The commits for which presentation feedback was requested, newest first. -/
  removals : List Commit
  nextObject : Nat

namespace Handoff

/-! ## Moves -/

def setRole (handoff : Handoff) (index : Nat) (role : Role) : Handoff :=
  { handoff with roles := handoff.roles.set index role }

@[simp] theorem setRole_retiring (handoff : Handoff) (index : Nat) (role : Role) :
    (handoff.setRole index role).retiring = handoff.retiring := rfl

def release (handoff : Handoff) : Handoff :=
  { handoff with retiring := .none, retirement := .none, feedback := .none }

def remove (handoff : Handoff) (output : Nat) : Handoff :=
  { handoff with roles := handoff.roles.filter (·.output != output) }

inductive Selects : Handoff → Handoff → Prop
  | configured (handoff : Handoff) {index : Nat} {role : Role}
      (found : handoff.roles[index]? = some role) :
      Selects handoff (handoff.setRole index { role with configured := true })
  | added (handoff : Handoff) {output : Nat}
      (absent : ∀ role ∈ handoff.roles, role.output ≠ output) :
      Selects handoff { handoff with
        roles := handoff.roles ++ [⟨output, false, false, false⟩]
        nextObject := handoff.nextObject + 1 }
  | begun (handoff : Handoff) {index : Nat} {role : Role} (now : Nat)
      (found : handoff.roles[index]? = some role) (shows : role.authentication = true)
      (settled : handoff.retiring = .none) :
      Selects handoff { handoff.setRole index
          { role with authentication := false, rolePending := true } with
        retiring := some role.output
        retirement := some (.begin now)
        feedback := .none }
  | assigned (handoff : Handoff) {index : Nat} {role : Role}
      (found : handoff.roles[index]? = some role) (configured : role.configured = true)
      (vacant : ∀ other ∈ handoff.roles, other.authentication = false)
      (settled : handoff.retiring = .none) :
      Selects handoff
        (handoff.setRole index { role with authentication := true, rolePending := true })

inductive Continues : Handoff → Handoff → Prop
  | requested (handoff : Handoff) {role : Role} (member : role ∈ handoff.roles)
      (pending : role.rolePending = true) (retires : handoff.retiring = some role.output) :
      Continues handoff { handoff with
        feedback := some handoff.nextObject
        nextObject := handoff.nextObject + 1 }
  | committed (handoff : Handoff) {index : Nat} {role : Role}
      (found : handoff.roles[index]? = some role) :
      Continues handoff (handoff.setRole index { role with rolePending := false })
  | retired (handoff : Handoff) {index : Nat} {role : Role} {commit : Commit} {feedback : Nat}
      (found : handoff.roles[index]? = some role) (retires : handoff.retiring = some role.output)
      (output : commit.output = role.output) (removes : commit.authentication = false)
      (roleChange : commit.roleChange = true) (carries : commit.feedback = some feedback)
      (requested : handoff.feedback = some feedback) (older : feedback < handoff.nextObject) :
      Continues handoff { handoff.setRole index { role with rolePending := false } with
        retirement := handoff.retirement.map AuthenticationRetirement.committed
        removals := commit :: handoff.removals }
  | restored (handoff : Handoff) {index : Nat} {role : Role}
      (found : handoff.roles[index]? = some role) (retires : handoff.retiring = some role.output)
      (configured : role.configured = true) :
      Continues handoff
        (handoff.setRole index { role with authentication := true, rolePending := true }).release
  | discarded (handoff : Handoff) :
      Continues handoff { handoff with
        feedback := .none
        retirement := handoff.retirement.map AuthenticationRetirement.discarded }
  | rescheduled (handoff : Handoff) {index : Nat} {role : Role}
      (found : handoff.roles[index]? = some role)
      (waiting : handoff.retirement.any (·.acceptsPresentation) = false) :
      Continues handoff (handoff.setRole index { role with rolePending := true })

/-! ## The invariant -/

/-- The output shows the role or is retiring from it. -/
def Owner (handoff : Handoff) (output : Nat) : Prop :=
  (∃ role ∈ handoff.roles, role.authentication = true ∧ role.output = output) ∨
    handoff.retiring = some output

structure Coupled (handoff : Handoff) : Prop where
  outputs : (handoff.roles.map (·.output)).Nodup
  unique : ∀ first second, handoff.Owner first → handoff.Owner second → first = second
  exclusive : handoff.retiring.isSome = true → ∀ role ∈ handoff.roles, role.authentication = false
  configured : ∀ role ∈ handoff.roles, role.authentication = true → role.configured = true
  paired : handoff.retiring.isSome = handoff.retirement.isSome
  asked : handoff.feedback.isSome = true → handoff.retiring.isSome = true
  present : ∀ output, handoff.retiring = some output →
    ∃ role ∈ handoff.roles, role.output = output ∧ role.configured = true
  /-- A pending role change of the retiring output has not been committed yet. -/
  pending : ∀ role ∈ handoff.roles, handoff.retiring = some role.output → role.rolePending = true →
    handoff.retirement.any (·.acceptsPresentation) = false
  /-- A presentation that would be accepted is that of the retiring output's own removal. -/
  presentable : ∀ feedback output, handoff.feedback = some feedback →
    handoff.retirement.any (·.acceptsPresentation) = true → handoff.retiring = some output →
    ∃ commit ∈ handoff.removals, commit.feedback = some feedback ∧ commit.output = output ∧
      commit.authentication = false ∧ commit.roleChange = true
  older : ∀ commit ∈ handoff.removals, ∀ feedback, commit.feedback = some feedback →
    feedback < handoff.nextObject

/-- Somebody shows the role or is about to give it up, once an output could show it. -/
def Held (handoff : Handoff) : Prop :=
  (∃ role ∈ handoff.roles, role.configured = true) →
    (∃ role ∈ handoff.roles, role.authentication = true) ∨ handoff.retiring.isSome = true

theorem setRole_outputs {handoff : Handoff} {index : Nat} {role : Role}
    (found : handoff.roles[index]? = some role) (next : Role) (same : next.output = role.output) :
    (handoff.setRole index next).roles.map (·.output) = handoff.roles.map (·.output) :=
  Lists.map_set_of_eq found same

/-- The old roles at other positions belong to other outputs. -/
theorem Coupled.mem_setRole {handoff : Handoff} (coupled : handoff.Coupled) {index : Nat}
    {role next other : Role} (found : handoff.roles[index]? = some role)
    (member : other ∈ (handoff.setRole index next).roles) :
    other = next ∨ (other ∈ handoff.roles ∧ other.output ≠ role.output) := by
  rcases Lists.mem_set_cases member with same | ⟨position, elsewhere, isOther⟩
  · exact .inl same
  · exact .inr ⟨List.mem_of_getElem? isOther,
      Lists.key_ne_of_nodup coupled.outputs found isOther elsewhere⟩

/-- Replacing a role by one of the same output keeps every output present. -/
theorem present_setRole {handoff : Handoff} {index : Nat} {role : Role}
    (found : handoff.roles[index]? = some role) (next : Role) (output : next.output = role.output)
    (configured : role.configured = true → next.configured = true) {retiring : Nat}
    (present : ∃ other ∈ handoff.roles, other.output = retiring ∧ other.configured = true) :
    ∃ other ∈ (handoff.setRole index next).roles, other.output = retiring ∧ other.configured = true := by
  obtain ⟨other, member, isOutput, isConfigured⟩ := present
  obtain ⟨position, isOther⟩ := List.mem_iff_getElem?.mp member
  by_cases here : position = index
  · subst here
    cases found.symm.trans isOther
    exact ⟨next, Lists.mem_set_of_found found next, output.trans isOutput, configured isConfigured⟩
  · exact ⟨other, Lists.mem_set_of_ne isOther here, isOutput, isConfigured⟩

/-! ## Selecting an output keeps the invariant and the owner -/

theorem Coupled.release {handoff : Handoff} (coupled : handoff.Coupled)
    (retires : handoff.retiring.isSome = true) : handoff.release.Coupled where
  outputs := coupled.outputs
  unique := by
    rintro first second (⟨role, member, shows, _⟩ | absurdity)
    · exact absurd shows (by simp [coupled.exclusive retires role member])
    · simp [Handoff.release] at absurdity
  exclusive := by simp [Handoff.release]
  configured := coupled.configured
  paired := rfl
  asked := by simp [Handoff.release]
  present := by simp [Handoff.release]
  pending := by simp [Handoff.release]
  presentable := by simp [Handoff.release]
  older := coupled.older

theorem Coupled.remove {handoff : Handoff} (coupled : handoff.Coupled) (output : Nat)
    (other : handoff.retiring ≠ some output) : (handoff.remove output).Coupled where
  outputs := coupled.outputs.sublist (List.filter_sublist.map _)
  unique := by
    have kept : ∀ owner, (handoff.remove output).Owner owner → handoff.Owner owner := by
      rintro owner (⟨role, member, shows⟩ | retires)
      · exact .inl ⟨role, (List.mem_filter.mp member).1, shows⟩
      · exact .inr retires
    intro first second isFirst isSecond
    exact coupled.unique first second (kept first isFirst) (kept second isSecond)
  exclusive retires role member := coupled.exclusive retires role (List.mem_filter.mp member).1
  configured role member := coupled.configured role (List.mem_filter.mp member).1
  paired := coupled.paired
  asked := coupled.asked
  present := by
    intro retiring retires
    obtain ⟨role, member, isOutput, isConfigured⟩ := coupled.present retiring retires
    refine ⟨role, List.mem_filter.mpr ⟨member, ?_⟩, isOutput, isConfigured⟩
    have differs : role.output ≠ output := by
      rintro rfl
      exact other (isOutput ▸ retires)
    simpa using differs
  pending role member := coupled.pending role (List.mem_filter.mp member).1
  presentable := coupled.presentable
  older := coupled.older

/-- Owners are kept by a new role that shows authentication like the old one. -/
theorem owner_setRole {handoff : Handoff} {index : Nat} {role : Role}
    (found : handoff.roles[index]? = some role) (next : Role) (output : next.output = role.output)
    (shows : next.authentication = role.authentication) (owner : Nat) :
    (handoff.setRole index next).Owner owner ↔ handoff.Owner owner := by
  constructor
  · rintro (⟨other, member, isShown, isOwner⟩ | retires)
    · rcases List.mem_or_eq_of_mem_set member with old | rfl
      · exact .inl ⟨other, old, isShown, isOwner⟩
      · exact .inl ⟨role, List.mem_of_getElem? found, shows ▸ isShown, output ▸ isOwner⟩
    · exact .inr retires
  · rintro (⟨other, member, isShown, isOwner⟩ | retires)
    · obtain ⟨position, isOther⟩ := List.mem_iff_getElem?.mp member
      by_cases here : position = index
      · subst here
        cases found.symm.trans isOther
        exact .inl ⟨next, Lists.mem_set_of_found found next, shows ▸ isShown, output ▸ isOwner⟩
      · exact .inl ⟨other, Lists.mem_set_of_ne isOther here, isShown, isOwner⟩
    · exact .inr retires

theorem Coupled.setRole {handoff : Handoff} (coupled : handoff.Coupled) {index : Nat}
    {role : Role} (found : handoff.roles[index]? = some role) (next : Role)
    (output : next.output = role.output) (shows : next.authentication = role.authentication)
    (configured : role.configured = true → next.configured = true)
    (pending : handoff.retiring = some role.output → next.rolePending = true →
      handoff.retirement.any (·.acceptsPresentation) = false) :
    (handoff.setRole index next).Coupled where
  outputs := setRole_outputs found next output ▸ coupled.outputs
  unique first second isFirst isSecond :=
    coupled.unique first second ((owner_setRole found next output shows first).mp isFirst)
      ((owner_setRole found next output shows second).mp isSecond)
  exclusive := by
    intro retires other member
    rcases coupled.mem_setRole found member with rfl | ⟨old, _⟩
    · exact shows.trans (coupled.exclusive retires role (List.mem_of_getElem? found))
    · exact coupled.exclusive retires other old
  configured := by
    intro other member isShown
    rcases coupled.mem_setRole found member with rfl | ⟨old, _⟩
    · exact configured (coupled.configured role (List.mem_of_getElem? found) (shows ▸ isShown))
    · exact coupled.configured other old isShown
  paired := coupled.paired
  asked := coupled.asked
  present retiring retires :=
    present_setRole found next output configured (coupled.present retiring retires)
  pending := by
    intro other member retires isPending
    rcases coupled.mem_setRole found member with rfl | ⟨old, _⟩
    · exact pending (output ▸ retires) isPending
    · exact coupled.pending other old retires isPending
  presentable := coupled.presentable
  older := coupled.older

theorem Coupled.added {handoff : Handoff} (coupled : handoff.Coupled) {output : Nat}
    (absent : ∀ role ∈ handoff.roles, role.output ≠ output) :
    Coupled { handoff with
      roles := handoff.roles ++ [⟨output, false, false, false⟩]
      nextObject := handoff.nextObject + 1 } where
  outputs := by
    simp only [List.map_append, List.nodup_append, coupled.outputs, true_and]
    refine ⟨by simp, ?_⟩
    intro old isOld new isNew
    obtain ⟨role, member, rfl⟩ := List.mem_map.mp isOld
    have isOutput : new = output := by simpa using isNew
    exact isOutput ▸ absent role member
  unique := by
    have kept : ∀ owner, Owner { handoff with
        roles := handoff.roles ++ [⟨output, false, false, false⟩]
        nextObject := handoff.nextObject + 1 } owner → handoff.Owner owner := by
      rintro owner (⟨role, member, shows, isOwner⟩ | retires)
      · cases List.mem_append.mp member with
        | inl old => exact .inl ⟨role, old, shows, isOwner⟩
        | inr isNew =>
          rw [List.mem_singleton.mp isNew] at shows
          contradiction
      · exact .inr retires
    intro first second isFirst isSecond
    exact coupled.unique first second (kept first isFirst) (kept second isSecond)
  exclusive := by
    intro retires role member
    cases List.mem_append.mp member with
    | inl old => exact coupled.exclusive retires role old
    | inr isNew => rw [List.mem_singleton.mp isNew]
  configured := by
    intro role member shows
    cases List.mem_append.mp member with
    | inl old => exact coupled.configured role old shows
    | inr isNew =>
      rw [List.mem_singleton.mp isNew] at shows
      contradiction
  paired := coupled.paired
  asked := coupled.asked
  present := by
    intro retiring retires
    obtain ⟨role, member, facts⟩ := coupled.present retiring retires
    exact ⟨role, List.mem_append_left _ member, facts⟩
  pending := by
    intro role member retires isPending
    cases List.mem_append.mp member with
    | inl old => exact coupled.pending role old retires isPending
    | inr isNew =>
      rw [List.mem_singleton.mp isNew] at isPending
      contradiction
  presentable := coupled.presentable
  older commit member feedback carries :=
    Nat.lt_succ_of_lt (coupled.older commit member feedback carries)

theorem Coupled.begun {handoff : Handoff} (coupled : handoff.Coupled) {index : Nat} {role : Role}
    (now : Nat) (found : handoff.roles[index]? = some role) (shows : role.authentication = true) :
    Coupled { handoff.setRole index { role with authentication := false, rolePending := true } with
      retiring := some role.output
      retirement := some (.begin now)
      feedback := .none } := by
  have isMember := List.mem_of_getElem? found
  have silent : ∀ other ∈ (handoff.setRole index
      { role with authentication := false, rolePending := true }).roles,
      other.authentication = false := by
    intro other member
    rcases coupled.mem_setRole found member with rfl | ⟨old, differs⟩
    · rfl
    · by_contra isShown
      exact differs (coupled.unique _ _ (.inl ⟨other, old, by simpa using isShown, rfl⟩)
        (.inl ⟨role, isMember, shows, rfl⟩))
  exact {
    outputs := setRole_outputs found { role with authentication := false, rolePending := true } rfl ▸ coupled.outputs
    unique := by
      have owned : ∀ owner, Owner { handoff.setRole index
          { role with authentication := false, rolePending := true } with
          retiring := some role.output
          retirement := some (.begin now)
          feedback := .none } owner → role.output = owner := by
        rintro owner (⟨other, member, isShown, _⟩ | retires)
        · simp [silent other member] at isShown
        · exact Option.some.inj retires
      intro first second isFirst isSecond
      exact (owned first isFirst).symm.trans (owned second isSecond)
    exclusive := fun _ => silent
    configured := fun other member isShown => by simp [silent other member] at isShown
    paired := rfl
    asked := by simp
    present := by
      rintro output ⟨⟩
      exact present_setRole found { role with authentication := false, rolePending := true } rfl
        (fun configured => configured) ⟨role, isMember, rfl, coupled.configured role isMember shows⟩
    pending := fun _ _ _ _ => rfl
    presentable := by simp
    older := coupled.older }

/-- Giving the role to a configured output when nobody shows it. -/
theorem Coupled.assigned {handoff : Handoff} (coupled : handoff.Coupled) {index : Nat} {role : Role}
    (found : handoff.roles[index]? = some role) (configured : role.configured = true)
    (vacant : ∀ other ∈ handoff.roles, other.authentication = false)
    (settled : handoff.retiring = .none) :
    (handoff.setRole index { role with authentication := true, rolePending := true }).Coupled := by
  have owned : ∀ owner, (handoff.setRole index
      { role with authentication := true, rolePending := true }).Owner owner → role.output = owner := by
    rintro owner (⟨other, member, isShown, isOwner⟩ | retires)
    · rcases coupled.mem_setRole found member with rfl | ⟨old, _⟩
      · exact isOwner
      · simp [vacant other old] at isShown
    · simp [settled] at retires
  exact {
    outputs := setRole_outputs found { role with authentication := true, rolePending := true } rfl ▸ coupled.outputs
    unique := fun first second isFirst isSecond =>
      (owned first isFirst).symm.trans (owned second isSecond)
    exclusive := fun retires => by simp [settled] at retires
    configured := by
      intro other member isShown
      rcases coupled.mem_setRole found member with rfl | ⟨old, _⟩
      · exact configured
      · exact coupled.configured other old isShown
    paired := coupled.paired
    asked := coupled.asked
    present := fun output retires => by simp [settled] at retires
    pending := fun other _ retires => by simp [settled] at retires
    presentable := fun feedback output _ _ retires => by simp [settled] at retires
    older := coupled.older }

theorem Coupled.selects {handoff next : Handoff} (coupled : handoff.Coupled)
    (selects : Selects handoff next) : next.Coupled := by
  cases selects with
  | @configured index role found =>
    exact coupled.setRole found _ rfl rfl (fun _ => rfl)
      (fun retires => coupled.pending role (List.mem_of_getElem? found) retires)
  | added absent => exact coupled.added absent
  | begun now found shows settled => exact coupled.begun now found shows
  | assigned found configured vacant settled => exact coupled.assigned found configured vacant settled

theorem Selects.owner {handoff next : Handoff} (selects : Selects handoff next)
    (coupled : handoff.Coupled) {output : Nat} (owner : handoff.Owner output) : next.Owner output := by
  cases selects with
  | @configured index role found =>
    exact (owner_setRole found { role with configured := true } rfl rfl output).mpr owner
  | added absent =>
    rcases owner with ⟨role, member, facts⟩ | retires
    · exact .inl ⟨role, List.mem_append_left _ member, facts⟩
    · exact .inr retires
  | begun now found shows settled =>
    exact .inr (congrArg some
      (coupled.unique _ _ (.inl ⟨_, List.mem_of_getElem? found, shows, rfl⟩) owner))
  | assigned found configured vacant settled =>
    rcases owner with ⟨role, member, isShown, _⟩ | retires
    · simp [vacant role member] at isShown
    · simp [settled] at retires

/-! ## A pending retirement keeps the invariant and the owner -/

theorem Coupled.continues {handoff next : Handoff} (coupled : handoff.Coupled)
    (continues : Continues handoff next) : next.Coupled := by
  cases continues with
  | requested member pending retires =>
    have waiting := coupled.pending _ member retires pending
    exact { coupled with
      asked := fun _ => by simp [retires]
      presentable := by
        intro feedback output _ accepts
        simp [waiting] at accepts
      older := fun commit member feedback carries =>
        Nat.lt_succ_of_lt (coupled.older commit member feedback carries) }
  | committed found => exact coupled.setRole found _ rfl rfl (fun configured => configured) (by simp)
  | @retired index role commit feedback found retires output removes roleChange carries requested older =>
    have cleared := coupled.setRole found { role with rolePending := false } rfl rfl
      (fun configured => configured) (by simp)
    exact { cleared with
      paired := by simpa using coupled.paired
      pending := by
        intro other member isRetiring isPending
        rcases coupled.mem_setRole found member with rfl | ⟨_, differs⟩
        · simp at isPending
        · exact absurd (Option.some.inj (isRetiring.symm.trans retires)) differs
      presentable := by
        intro shown retiring isShown _ isRetiring
        refine ⟨commit, .head _, ?_, ?_, removes, roleChange⟩
        · exact carries.trans (requested.symm.trans isShown)
        · exact output.trans (Option.some.inj (retires.symm.trans isRetiring))
      older := by
        intro other member shown isShown
        rcases List.mem_cons.mp member with rfl | old
        · cases carries.symm.trans isShown
          exact older
        · exact coupled.older other old shown isShown }
  | @restored index role found retires configured =>
    have isRetiring : handoff.retiring.isSome = true := by simp [retires]
    -- While one surface retires no other shows the prompt, so the role can go back.
    have vacant := coupled.exclusive isRetiring
    have released : handoff.release.roles[index]? = some role := found
    exact (coupled.release isRetiring).assigned released configured vacant rfl
  | discarded =>
    have waiting := AuthenticationRetirement.discarded_waits handoff.retirement
    exact { coupled with
      paired := by simpa using coupled.paired
      asked := by simp
      pending := fun _ _ _ _ => waiting
      presentable := by simp }
  | rescheduled found waiting =>
    exact coupled.setRole found _ rfl rfl (fun configured => configured) (fun _ _ => waiting)

theorem Continues.owner {handoff next : Handoff} (continues : Continues handoff next) {output : Nat}
    (owner : handoff.Owner output) (coupled : handoff.Coupled) : next.Owner output := by
  cases continues with
  | requested => exact owner
  | @committed index role found =>
    exact (owner_setRole found { role with rolePending := false } rfl rfl output).mpr owner
  | @retired index role commit feedback found =>
    exact (owner_setRole found { role with rolePending := false } rfl rfl output).mpr owner
  | @restored index role found retires configured =>
    have same := coupled.unique _ _ (.inr retires) owner
    exact .inl ⟨_, Lists.mem_set_of_found found _, rfl, same⟩
  | discarded => exact owner
  | @rescheduled index role found =>
    exact (owner_setRole found { role with rolePending := true } rfl rfl output).mpr owner

theorem Continues.held {handoff next : Handoff} (continues : Continues handoff next)
    (held : handoff.Held) : next.Held := by
  have replaced : ∀ {index : Nat} {role : Role}, handoff.roles[index]? = some role → ∀ other : Role,
      other.configured = role.configured → other.authentication = role.authentication →
      (handoff.setRole index other).Held := by
    rintro index role found other configured shows ⟨some, member, isConfigured⟩
    have before : ∃ role ∈ handoff.roles, role.configured = true := by
      rcases List.mem_or_eq_of_mem_set member with old | rfl
      · exact ⟨some, old, isConfigured⟩
      · exact ⟨role, List.mem_of_getElem? found, configured ▸ isConfigured⟩
    refine (held before).imp ?_ (fun retires => retires)
    rintro ⟨shown, isShownMember, isShown⟩
    obtain ⟨position, isRole⟩ := List.mem_iff_getElem?.mp isShownMember
    by_cases here : position = index
    · subst here
      cases found.symm.trans isRole
      exact ⟨other, Lists.mem_set_of_found found other, shows ▸ isShown⟩
    · exact ⟨shown, Lists.mem_set_of_ne isRole here, isShown⟩
  cases continues with
  | requested => exact held
  | @committed index role found =>
    exact replaced found { role with rolePending := false } rfl rfl
  | @retired index role commit feedback found =>
    exact replaced found { role with rolePending := false } rfl rfl
  | restored found retires configured =>
    exact fun _ => .inl ⟨_, Lists.mem_set_of_found found _, rfl⟩
  | discarded => exact held
  | @rescheduled index role found =>
    exact replaced found { role with rolePending := true } rfl rfl

/-! ## What stays the same during one retirement -/

/-- Nothing older than the given object is waited for. -/
def Newer (handoff : Handoff) (base : Nat) : Prop :=
  base ≤ handoff.nextObject ∧ ∀ feedback, handoff.feedback = some feedback → base ≤ feedback

theorem Selects.newer {handoff next : Handoff} (selects : Selects handoff next) {base : Nat}
    (newer : handoff.Newer base) : next.Newer base := by
  cases selects with
  | configured => exact newer
  | added => exact ⟨Nat.le_succ_of_le newer.1, newer.2⟩
  | begun => exact ⟨newer.1, by simp⟩
  | assigned => exact newer

theorem Continues.newer {handoff next : Handoff} (continues : Continues handoff next) {base : Nat}
    (newer : handoff.Newer base) : next.Newer base := by
  cases continues with
  | requested =>
    refine ⟨Nat.le_succ_of_le newer.1, ?_⟩
    rintro feedback ⟨⟩
    exact newer.1
  | committed => exact newer
  | retired => exact newer
  | restored => exact ⟨newer.1, by simp [release]⟩
  | discarded => exact ⟨newer.1, by simp⟩
  | rescheduled => exact newer

/-- Every retirement of the state ends at this deadline. -/
def Deadline (handoff : Handoff) (deadline : Nat) : Prop :=
  ∀ retirement, handoff.retirement = some retirement → retirement.deadline = deadline

theorem Continues.deadline {handoff next : Handoff} (continues : Continues handoff next)
    {deadline : Nat} (same : handoff.Deadline deadline) : next.Deadline deadline := by
  cases continues with
  | retired =>
    intro retirement isRetirement
    obtain ⟨old, isOld, rfl⟩ := Option.map_eq_some_iff.mp isRetirement
    exact old.committed_deadline.trans (same old isOld)
  | discarded =>
    intro retirement isRetirement
    obtain ⟨old, isOld, rfl⟩ := Option.map_eq_some_iff.mp isRetirement
    exact old.discarded_deadline.trans (same old isOld)
  | restored => simp [Deadline, release]
  | requested => exact same
  | committed => exact same
  | rescheduled => exact same

/-- While an output retires, selecting does not touch its retirement. -/
theorem Selects.retirement {handoff next : Handoff} (selects : Selects handoff next)
    (coupled : handoff.Coupled) (retires : handoff.retirement.isSome = true) :
    next.retirement = handoff.retirement := by
  cases selects with
  | configured => rfl
  | added => rfl
  | begun now found shows settled => simp [← coupled.paired, settled] at retires
  | assigned => rfl

/-- With nobody to retire, selecting starts no retirement. -/
theorem Selects.settled {handoff next : Handoff} (selects : Selects handoff next)
    (vacant : ∀ role ∈ handoff.roles, role.authentication = false) :
    next.retirement = handoff.retirement := by
  cases selects with
  | configured => rfl
  | added => rfl
  | begun now found shows settled => simp [vacant _ (List.mem_of_getElem? found)] at shows
  | assigned => rfl

end Handoff

end Genkan.SessionLock
