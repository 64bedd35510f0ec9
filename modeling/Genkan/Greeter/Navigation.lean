import Genkan.Greeter.Progress
import Mathlib.Data.Nat.ModEq
import Mathlib.Logic.Function.Iterate

/-! # Moving about with the keyboard

The focus stands on a target of the order, or on one whose activation does nothing, and while the dialog of
a power action is open it stays inside the dialog.  Stepping through the order visits every target once
before it comes back.
-/

namespace Genkan.Greeter

open Foundations App

/-! ## The order -/

namespace App

variable {app next : App}

/-- The order is decided by few of the fields. -/
theorem focusOrder_congr (accounts : next.accounts = app.accounts) (username : next.username = app.username)
    (phase : next.phase = app.phase) (selected : next.selectedSession.isSome = app.selectedSession.isSome)
    (power : next.powerState = app.powerState) (closing : next.closing = app.closing) :
    next.focusOrder = app.focusOrder := by
  obtain ⟨_, _, _, _, _, _, _, _, _, phase, _, _, selectedSession, _, powerState, _, closing⟩ := app
  obtain ⟨_, _, _, _, _, _, _, _, _, _, _, _, other, _, _, _, _⟩ := next
  subst accounts username phase power closing
  cases selectedSession <;> cases other <;> first | rfl | contradiction

theorem focusOrder_of_core (same : next.core = app.core) : next.focusOrder = app.focusOrder :=
  focusOrder_congr (congrArg Core.accounts same) (congrArg Core.username same) (congrArg Core.phase same)
    (congrArg (fun core => core.selectedSession.isSome) same) (congrArg Core.powerState same)
    (congrArg Core.closing same)

/-- No target stands twice in the order. -/
theorem focusOrder_nodup (app : App) : app.focusOrder.Nodup := by
  have listed (length : Nat) : ((List.range length).map Target.account).Nodup :=
    List.nodup_range.map fun _ _ same => Target.account.inj same
  simp only [focusOrder]
  split
  next => decide
  next => exact List.nodup_nil
  next =>
    split
    next => exact List.nodup_nil
    next =>
      simp only [List.append_assoc]
      generalize app.canChangeUser = change, (app.canSelectSession && app.selectedSession.isSome) = select,
        (app.phase == .failed && app.selectedSession.isNone) = retry, app.canRequestPower = power
      refine List.nodup_append.mpr ⟨?_, ?_, ?_⟩
      · repeat' split
        all_goals first | exact listed _ | decide
      · cases change <;> cases select <;> cases retry <;> cases power <;> decide
      · -- What depends on the phase alone is none of the targets that follow.
        intro target isFirst other isOther same
        subst same
        simp only [List.mem_append, List.mem_ite_nil_right, List.mem_cons, List.not_mem_nil, or_false] at isOther
        repeat' split at isFirst
        all_goals simp at isFirst
        all_goals grind

/-! ## Stepping through it -/

theorem around_lt {length : Nat} (nonempty : 0 < length) (index : Nat) (delta : Int) :
    around index delta length < length := by
  have nonzero : (length : Int) ≠ 0 := by omega
  have lower := Int.emod_nonneg ((index : Int) + delta) nonzero
  have upper := Int.emod_lt_of_pos ((index : Int) + delta) (b := length) (by omega)
  simp only [around]
  omega

theorem around_around (index : Nat) (first second : Int) (length : Nat) (nonempty : 0 < length) :
    around (around index first length) second length = around index (first + second) length := by
  have nonzero : (length : Int) ≠ 0 := by omega
  have lower := Int.emod_nonneg ((index : Int) + first) nonzero
  simp only [around, Int.toNat_of_nonneg lower, Int.emod_add_emod, Int.add_assoc]

theorem around_of_lt {index length : Nat} (within : index < length) : around index 0 length = index := by
  simp [around, Int.emod_eq_of_lt (show (0 : Int) ≤ index by omega) (show (index : Int) < length by omega)]

theorem around_natCast (index steps length : Nat) : around index steps length = (index + steps) % length := by
  simp only [around, ← Int.natCast_add, ← Int.natCast_emod, Int.toNat_natCast]

/-- As many steps as it takes from one index to another. -/
theorem around_reaches {index other length : Nat} (within : index < length) (inside : other < length) :
    around index (((other + (length - index)) % length : Nat) : Int) length = other := by
  have whole : index + (other + (length - index)) = other + length := by omega
  rw [around_natCast, Nat.add_mod_mod, whole, Nat.add_mod_right, Nat.mod_eq_of_lt inside]

theorem around_eq_self {index length : Nat} (within : index < length) (steps : Nat) :
    around index steps length = index ↔ length ∣ steps := by
  rw [around_natCast]
  constructor
  · intro same
    have congruent : index + steps ≡ index + 0 [MOD length] := by
      rw [Nat.ModEq, same, Nat.add_zero, Nat.mod_eq_of_lt within]
    exact Nat.modEq_zero_iff_dvd.mp (Nat.ModEq.add_left_cancel' index congruent)
  · rintro ⟨rounds, rfl⟩
    rw [Nat.add_mul_mod_self_left, Nat.mod_eq_of_lt within]

/-- The focus stands on the target at the position of the order. -/
def Stands (app : App) (position : Nat) : Prop :=
  position < app.focusOrder.length ∧ app.focusTarget = app.focusOrder[position]?

@[simp] theorem moveFocus_focusOrder (delta : Int) : (app.moveFocus delta).focusOrder = app.focusOrder :=
  focusOrder_of_core (app.moveFocus_core delta)

@[simp] theorem setFocus_focusTarget (target : Target) : (app.setFocus target).focusTarget = some target := by
  simp only [setFocus]

theorem Stands.moveFocus {position : Nat} (stands : app.Stands position) (delta : Int) :
    (app.moveFocus delta).Stands (around position delta app.focusOrder.length) := by
  obtain ⟨within, focused⟩ := stands
  have nonempty : 0 < app.focusOrder.length := by omega
  have lands := around_lt nonempty position delta
  rw [List.getElem?_eq_getElem within] at focused
  have found : app.focusOrder.findIdx? (fun candidate => candidate == app.focusOrder[position]) = some position := by
    refine List.findIdx?_eq_some_iff_getElem.mpr ⟨within, by simp, ?_⟩
    intro earlier before same
    have equal := (List.Nodup.getElem_inj_iff app.focusOrder_nodup).mp (by simpa using same)
    omega
  refine ⟨by simpa using lands, ?_⟩
  simp only [moveFocus_focusOrder]
  simp only [App.moveFocus, focused, Option.bind_some, found, List.getElem?_eq_getElem lands, setFocus_focusTarget]

theorem Stands.unique {first second : Nat} (stands : app.Stands first) (standsToo : app.Stands second) :
    first = second := by
  have same := stands.2.symm.trans standsToo.2
  rw [List.getElem?_eq_getElem stands.1, List.getElem?_eq_getElem standsToo.1, Option.some.injEq] at same
  exact (List.Nodup.getElem_inj_iff app.focusOrder_nodup).mp same

/-- What a key of the navigation does; the dialog of a power action takes the keys for itself. -/
def pressed (navigation : Navigation) (app : App) : App :=
  (app.update [] (if app.isConfirming then .navigateModal navigation else .navigateFocus navigation)).1

theorem Stands.closeSessionMenu {position : Nat} (stands : app.Stands position) :
    app.closeSessionMenu.Stands position := by
  rw [Stands, focusOrder_of_core app.closeSessionMenu_core]
  exact stands

theorem Stands.unexecuting {position : Nat} (stands : app.Stands position) (action : PowerAction) :
    app.powerState ≠ .executing action := by
  intro executing
  have within := stands.1
  simp [focusOrder, executing] at within

theorem Stands.pressed {position : Nat} (stands : app.Stands position) (unclosed : app.closing = none)
    {navigation : Navigation} {delta : Int}
    (steps : navigation = .next ∧ delta = 1 ∨ navigation = .previous ∧ delta = -1) :
    (app.pressed navigation).Stands (around position delta app.focusOrder.length) ∧
      (app.pressed navigation).core = app.core := by
  have moved (other : App) (same : other.core = app.core) (stands : other.Stands position) :
      (other.navigateFocus [] navigation).1.Stands (around position delta app.focusOrder.length) ∧
        (other.navigateFocus [] navigation).1.core = app.core := by
    rw [← focusOrder_of_core same]
    rcases steps with ⟨isNavigation, isDelta⟩ | ⟨isNavigation, isDelta⟩ <;> subst isNavigation isDelta
    · exact ⟨stands.moveFocus 1, (other.moveFocus_core 1).trans same⟩
    · exact ⟨stands.moveFocus (-1), (other.moveFocus_core (-1)).trans same⟩
  cases isPower : app.powerState with
  | executing action => exact absurd isPower (stands.unexecuting action)
  | confirming action =>
    have isConfirming : app.isConfirming = true := by simp [App.isConfirming, isPower]
    have pressed : app.pressed navigation = (app.navigateFocus [] navigation).1 := by
      simp [App.pressed, update, allows, closingAllows, powerAllows, unclosed, isConfirming]
    rw [pressed]
    exact moved app rfl stands
  | idle =>
    have isConfirming : app.isConfirming = false := by simp [App.isConfirming, isPower]
    have pressed : app.pressed navigation = (app.closeSessionMenu.navigateFocus [] navigation).1 := by
      simp [App.pressed, update, allows, closingAllows, powerAllows, unclosed, isPower, isConfirming]
    rw [pressed]
    exact moved app.closeSessionMenu rfl stands.closeSessionMenu

/-- Pressing a key again and again. -/
theorem Stands.iterate {position : Nat} (stands : app.Stands position) (unclosed : app.closing = none)
    {navigation : Navigation} {delta : Int}
    (steps : navigation = .next ∧ delta = 1 ∨ navigation = .previous ∧ delta = -1) (presses : Nat) :
    ((App.pressed navigation)^[presses] app).Stands (around position (delta * presses) app.focusOrder.length) ∧
      ((App.pressed navigation)^[presses] app).core = app.core := by
  induction presses with
  | zero => simpa [around_of_lt stands.1] using stands
  | succ presses inductionHypothesis =>
    obtain ⟨stood, same⟩ := inductionHypothesis
    have open_ : ((App.pressed navigation)^[presses] app).closing = none :=
      (congrArg Core.closing same).trans unclosed
    obtain ⟨stands', kept⟩ := stood.pressed open_ steps
    have nonempty : 0 < app.focusOrder.length := Nat.lt_of_le_of_lt (Nat.zero_le _) stands.1
    rw [focusOrder_of_core same, around_around _ _ _ _ nonempty] at stands'
    rw [Function.iterate_succ_apply']
    refine ⟨?_, kept.trans same⟩
    rw [Int.natCast_succ, Int.mul_add, Int.mul_one]
    exact stands'

end App

/-- Stepping on visits every target of the order before it comes back, it comes back after as many steps as
the order is long, and stepping back undoes it. -/
theorem tab_visits {app : App} (unclosed : app.closing = none) {target : Target}
    (focused : app.focusTarget = some target) (listed : target ∈ app.focusOrder) :
    (∀ other ∈ app.focusOrder, ∃ presses < app.focusOrder.length,
      ((App.pressed .next)^[presses] app).focusTarget = some other) ∧
    (∀ presses, ((App.pressed .next)^[presses] app).focusTarget = some target ↔
      app.focusOrder.length ∣ presses) ∧
    ∀ presses, ((App.pressed .previous)^[presses] ((App.pressed .next)^[presses] app)).focusTarget =
      some target := by
  obtain ⟨position, within, isTarget⟩ := List.mem_iff_getElem.mp listed
  have stands : app.Stands position := ⟨within, by rw [focused, List.getElem?_eq_getElem within, isTarget]⟩
  have nonempty : 0 < app.focusOrder.length := Nat.lt_of_le_of_lt (Nat.zero_le _) within
  have forward (presses : Nat) :
      ((App.pressed .next)^[presses] app).Stands (around position presses app.focusOrder.length) ∧
        ((App.pressed .next)^[presses] app).core = app.core := by
    simpa using stands.iterate unclosed (.inl ⟨rfl, rfl⟩) presses
  refine ⟨?_, ?_, ?_⟩
  · intro other isOther
    obtain ⟨place, inside, isPlace⟩ := List.mem_iff_getElem.mp isOther
    refine ⟨(place + (app.focusOrder.length - position)) % app.focusOrder.length, Nat.mod_lt _ nonempty, ?_⟩
    obtain ⟨stood, same⟩ := forward ((place + (app.focusOrder.length - position)) % app.focusOrder.length)
    rw [stood.2, around_reaches within inside, focusOrder_of_core same, List.getElem?_eq_getElem inside, isPlace]
  · intro presses
    obtain ⟨stood, same⟩ := forward presses
    rw [← around_eq_self within]
    constructor
    · intro back
      have standsToo : ((App.pressed .next)^[presses] app).Stands position := by
        rw [App.Stands, focusOrder_of_core same, back, List.getElem?_eq_getElem within, isTarget]
        exact ⟨within, rfl⟩
      exact stood.unique standsToo
    · intro back
      rw [stood.2, back, focusOrder_of_core same, List.getElem?_eq_getElem within, isTarget]
  · intro presses
    obtain ⟨stood, same⟩ := forward presses
    have open_ : ((App.pressed .next)^[presses] app).closing = none := (congrArg Core.closing same).trans unclosed
    obtain ⟨returned, kept⟩ := stood.iterate open_ (.inr ⟨rfl, rfl⟩) presses
    rw [focusOrder_of_core same, around_around _ _ _ _ nonempty, Int.neg_one_mul, Int.add_right_neg,
      around_of_lt within] at returned
    rw [returned.2, focusOrder_of_core (kept.trans same), List.getElem?_eq_getElem within, isTarget]

theorem tab_visits_sample :
    (App.new none []).1.focusOrder = [.retrySession, .power .suspend, .power .reboot, .power .powerOff] ∧
      ∀ other ∈ (App.new none []).1.focusOrder, ∃ presses < (App.new none []).1.focusOrder.length,
        ((App.pressed .next)^[presses] (App.new none []).1).focusTarget = some other :=
  ⟨rfl, (tab_visits rfl (show _ = some Target.retrySession from rfl) (by decide)).1⟩

/-! ## What the focus stands on -/

/-- The messages that are not for the dialog of a power action. -/
def Message.isHeld : Message → Bool
  | .inputChanged _ | .submit | .retry | .retrySession | .changeUser | .userSelectionCancelled _ _
  | .userSelectionCancellationSlow _ | .retryUserSelectionCancellation | .selectAccount _ | .syncWidgetFocus
  | .widgetFocused _ | .navigatePage | .selectSession _ | .sessionMenuOpened | .sessionMenuClosed
  | .windowResized | .askPower _ => true
  | _ => false

namespace App

variable {app next : App}

def Listed (app : App) : Prop := ∀ target, app.focusTarget = some target → target ∈ app.focusOrder

theorem listed_of_unfocused (unfocused : app.focusTarget = none) : app.Listed := by
  intro target focused
  rw [unfocused] at focused
  contradiction

theorem Listed.of_core (listed : app.Listed) (same : next.core = app.core)
    (focus : next.focusTarget = app.focusTarget) : next.Listed := by
  intro target focused
  rw [focusOrder_of_core same]
  exact listed target (focus.symm.trans focused)

theorem setFocus_listed {target : Target} (offered : target ∈ app.focusOrder) : (app.setFocus target).Listed := by
  intro other focused
  rw [setFocus_focusTarget] at focused
  cases focused
  rw [focusOrder_of_core (app.setFocus_core target)]
  exact offered

theorem focusFirst_listed : app.focusFirst.Listed := by
  simp only [focusFirst]
  split
  next target first => exact setFocus_listed (List.mem_of_head? first)
  next => exact listed_of_unfocused rfl

theorem moveFocus_listed (delta : Int) : (app.moveFocus delta).Listed := by
  simp only [moveFocus]
  split
  next target found => exact setFocus_listed (List.mem_of_getElem? found)
  next => exact listed_of_unfocused rfl

theorem leavePowerDialog_listed : app.leavePowerDialog.Listed := by
  simp only [leavePowerDialog]
  split
  next target chosen =>
    apply setFocus_listed
    change target ∈ app.focusOrder
    rcases Option.or_eq_some_iff.mp chosen with kept | ⟨_, first⟩
    · have contained := (Option.filter_eq_some_iff.mp kept).2
      simpa using contained
    · exact List.mem_of_head? first
  next => exact listed_of_unfocused rfl

/-- While a task is under way the focus may be left behind on a target that is offered no more; otherwise it
stands on one that is, and it does not leave the dialog of a power action. -/
structure Navigable (app : App) : Prop where
  listed : app.closing = none → app.powerState ≠ .idle ∨ app.phase.isRestful = true → app.Listed
  trapped : app.closing = none → app.isConfirming = true → app.focusTarget.isSome = true

theorem Navigable.of_closing (closing : app.closing ≠ none) : app.Navigable :=
  ⟨fun unclosed => absurd unclosed closing, fun unclosed => absurd unclosed closing⟩

theorem unconfirming (idle : app.powerState = .idle) : app.isConfirming ≠ true := by
  simp [isConfirming, idle]

theorem Navigable.of_busy (idle : app.powerState = .idle) (busy : app.phase.isRestful = false) : app.Navigable := by
  refine ⟨?_, fun _ confirming => absurd confirming (unconfirming idle)⟩
  intro _ waits
  simp [idle, busy] at waits

theorem Navigable.of_listed (idle : app.powerState = .idle) (listed : app.Listed) : app.Navigable :=
  ⟨fun _ _ => listed, fun _ confirming => absurd confirming (unconfirming idle)⟩

theorem Navigable.kept (navigable : app.Navigable) (order : next.focusOrder = app.focusOrder)
    (focus : next.focusTarget = app.focusTarget) (phase : next.phase = app.phase)
    (power : next.powerState = app.powerState) (closing : next.closing = app.closing) : next.Navigable := by
  constructor
  · intro unclosed waits target focused
    rw [order]
    exact navigable.listed (closing ▸ unclosed) (power ▸ phase ▸ waits) target (focus ▸ focused)
  · intro unclosed confirming
    have same : next.isConfirming = app.isConfirming := by simp [isConfirming, power]
    exact focus ▸ navigable.trapped (closing ▸ unclosed) (same ▸ confirming)

theorem Navigable.of_core (navigable : app.Navigable) (same : next.core = app.core)
    (focus : next.focusTarget = app.focusTarget) : next.Navigable :=
  navigable.kept (focusOrder_of_core same) focus (phase_of_core same) (congrArg Core.powerState same)
    (congrArg Core.closing same)

/-! ### Messages -/

theorem fail_navigable (message : String) (idle : app.powerState = .idle) : (app.fail message).1.Navigable :=
  .of_listed (by simp [fail, idle]) focusFirst_listed

theorem exchange_navigable (request : Auth.Request) (idle : app.powerState = .idle)
    (busy : app.phase.isRestful = false) : (app.exchange request).1.Navigable := by
  simp only [exchange]
  split
  next => exact fail_navigable _ idle
  next => exact .of_busy idle busy

theorem selectAccount_navigable (account : Account) (idle : app.powerState = .idle) :
    (app.selectAccount account).1.Navigable := by
  simp only [selectAccount]
  split <;> exact .of_busy idle rfl

theorem account_mem_focusOrder {index : Nat} (within : index < app.accounts.length)
    (selectable : app.canSelectAccount = true) : .account index ∈ app.focusOrder := by
  have allowed := selectable
  simp only [canSelectAccount, Bool.and_eq_true, Option.isNone_iff_eq_none, beq_iff_eq] at allowed
  obtain ⟨⟨unclosed, idle⟩, selecting⟩ := allowed
  simp [focusOrder, idle, unclosed, selecting, selectable, within]

theorem session_mem_focusOrder (selectable : app.canSelectSession = true) : .session ∈ app.focusOrder := by
  have allowed := selectable
  simp only [canSelectSession, Bool.and_eq_true, Option.isNone_iff_eq_none, beq_iff_eq] at allowed
  obtain ⟨⟨⟨unclosed, idle⟩, selected⟩, _⟩ := allowed
  simp [focusOrder, idle, unclosed, selectable, selected]

theorem input_mem_focusOrder (unclosed : app.closing = none) (idle : app.powerState = .idle)
    (waits : app.phase = .waitingForInput) : .authenticationInput ∈ app.focusOrder := by
  simp [focusOrder, idle, unclosed, waits]

theorem handleAuthResponse_navigable (response : Auth.Response) (unclosed : app.closing = none)
    (idle : app.powerState = .idle) (busy : app.phase.isRestful = false) :
    (app.handleAuthResponse response).1.Navigable := by
  obtain ⟨received, next, effect, transitions, _, outcome⟩ :=
    transition_cases app.conversation app.phase response app.selectedSession
  simp only [handleAuthResponse, transitions]
  rcases outcome with ⟨_, isNext, isEffect, _, _⟩ | ⟨secret, text, isNext, isEffect, _⟩ |
    ⟨isError, text, isNext, isEffect, _⟩ | ⟨session, _, isNext, isEffect, _, _, _⟩ | ⟨text, isNext, isEffect⟩ <;>
    subst isNext isEffect
  · exact .of_busy idle busy
  · exact .of_listed (by simp [idle]) (setFocus_listed (input_mem_focusOrder unclosed idle rfl))
  · exact exchange_navigable _ idle busy
  · exact exchange_navigable _ idle rfl
  · exact fail_navigable _ idle

theorem accountsResult_navigable (result : Except String (List Account)) (unclosed : app.closing = none)
    (idle : app.powerState = .idle) : (app.accountsResult result).1.Navigable := by
  cases result with
  | error error => exact fail_navigable error idle
  | ok accounts =>
    simp only [accountsResult]
    split
    next => exact fail_navigable _ idle
    next someone =>
      split
      next account _ => exact @selectAccount_navigable { app with accounts } account idle
      next =>
        refine .of_listed (by simp [idle]) (setFocus_listed (account_mem_focusOrder ?_ ?_))
        · exact List.length_pos_iff.mpr (by simpa using someone)
        · simp [canSelectAccount, unclosed, idle]

theorem userSelectionCancelled_navigable (attempt : Attempt) (result : Except String Unit)
    (navigable : app.Navigable) (unclosed : app.closing = none) (idle : app.powerState = .idle)
    (someone : app.phase = .cancellingForUserSelection → app.accounts ≠ []) :
    (app.userSelectionCancelled attempt result).1.Navigable := by
  simp only [userSelectionCancelled]
  split
  next =>
    split
    next => exact .of_closing (by simp)
    next =>
      split
      next before =>
        cases result with
        | ok =>
          refine .of_listed (by simp [idle]) (setFocus_listed (account_mem_focusOrder ?_ ?_))
          · exact List.length_pos_iff.mpr (someone before)
          · simp [canSelectAccount, unclosed, idle]
        | error => exact .of_listed (by simp [idle]) (setFocus_listed (by simp [focusOrder, idle, unclosed]))
      next => exact navigable
  next => exact navigable

theorem retryAuthentication_navigable (idle : app.powerState = .idle) : app.retryAuthentication.1.Navigable :=
  .of_busy idle rfl

theorem discoverAccounts_navigable (idle : app.powerState = .idle) : app.discoverAccounts.1.Navigable :=
  .of_busy idle rfl

theorem retry_navigable (navigable : app.Navigable) (idle : app.powerState = .idle) : app.retry.1.Navigable := by
  simp only [retry]
  split
  next =>
    split
    next => exact discoverAccounts_navigable idle
    next => exact retryAuthentication_navigable idle
  next => exact navigable

theorem retrySession_navigable (discovered : List Session) (navigable : app.Navigable)
    (idle : app.powerState = .idle) : (app.retrySession discovered).1.Navigable := by
  simp only [retrySession]
  split
  next missing =>
    split
    next still =>
      refine navigable.kept (focusOrder_congr rfl rfl rfl ?_ rfl rfl) rfl rfl rfl rfl
      rw [missing.2]
      simpa using still
    next =>
      split
      next => exact discoverAccounts_navigable idle
      next => exact retryAuthentication_navigable idle
  next => exact navigable

theorem submit_navigable (navigable : app.Navigable) (idle : app.powerState = .idle) : app.submit.1.Navigable := by
  simp only [submit]
  split
  next =>
    split
    next => exact fail_navigable _ idle
    next =>
      split
      next kept => exact navigable.kept (focusOrder_congr rfl rfl rfl rfl rfl rfl) rfl rfl rfl rfl
      next => exact .of_busy idle rfl
  next => exact navigable

theorem askPower_navigable (action : PowerAction) (navigable : app.Navigable) :
    (app.askPower action).1.Navigable := by
  simp only [askPower]
  split
  next =>
    constructor
    · intro _ _
      exact setFocus_listed (by simp [focusOrder])
    · intro _ _
      simp [enterPowerDialog]
  next => exact navigable

theorem leavePowerDialog_navigable (idle : app.powerState = .idle) : app.leavePowerDialog.Navigable :=
  .of_listed ((congrArg Core.powerState app.leavePowerDialog_core).trans idle) leavePowerDialog_listed

theorem cancelPower_navigable (navigable : app.Navigable) : app.cancelPower.1.Navigable := by
  simp only [cancelPower]
  split
  next => exact leavePowerDialog_navigable rfl
  next => exact navigable

theorem confirmPower_navigable (action : PowerAction) (navigable : app.Navigable) :
    (app.confirmPower action).1.Navigable := by
  simp only [confirmPower]
  split
  next => exact ⟨fun _ _ => listed_of_unfocused rfl, by simp [isConfirming]⟩
  next => exact navigable

theorem powerResult_navigable (result : Except String Unit) (navigable : app.Navigable) :
    (app.powerResult result).1.Navigable := by
  cases result with
  | ok =>
    simp only [powerResult]
    split
    next => exact leavePowerDialog_navigable rfl
    next => exact navigable
  | error error => exact leavePowerDialog_navigable rfl

theorem closeRequested_navigable (window : Nat) : (app.closeRequested window).1.Navigable := by
  apply Navigable.of_closing
  simp only [closeRequested]
  repeat' split
  all_goals simp

/-- What the greeter knows of itself before an update, as long as its window stays. -/
structure Attentive (app : App) (input : Input) : Prop where
  unclosed : app.closing = none
  settled : app.core.Settled
  usable : app.core.Usable
  restful : app.powerState ≠ .idle → app.phase.isRestful = true
  delivered : Delivered app.core input

/-- Whoever waits for a task has no dialog open. -/
theorem Attentive.idle {input : Input} (attentive : app.Attentive input) (counts : input.kind ≠ .other) :
    app.powerState = .idle := by
  by_contra busy
  have resting : app.core.phase.isRestful = true := attentive.restful busy
  have awaited := attentive.delivered.awaited attentive.unclosed
  cases isKind : input.kind <;> simp only [isKind, Kind.Awaited] at awaited counts
  · cases isPhase : app.core.phase <;> simp [isPhase, Phase.isActive, Phase.isRestful] at awaited resting
  · simp [awaited, Phase.isRestful] at resting
  · simp [awaited, Phase.isRestful] at resting
  · contradiction

/-- The messages that the dialog of a power action holds back. -/
theorem idle_of_held {message : Message} (allowed : app.powerAllows (.message message) = true)
    (held : message.isHeld = true) : app.powerState = .idle := by
  cases isPower : app.powerState with
  | idle => rfl
  | confirming | executing => cases message <;> simp [powerAllows, isPower, Message.isHeld] at allowed held

theorem handle_navigable {message : Message} (discovered : List Session) (navigable : app.Navigable)
    (attentive : app.Attentive (.message message)) (allowed : app.powerAllows (.message message) = true) :
    (app.handle discovered message).1.Navigable := by
  have unclosed := attentive.unclosed
  have delivered := attentive.delivered
  cases message with
  | authResult attempt result =>
    have idle : app.powerState = .idle := attentive.idle (by simp [Input.kind])
    have active : app.phase.isActive = true := delivered.awaited unclosed
    have busy : app.phase.isRestful = false := by
      cases isPhase : app.phase <;> simp [isPhase, Phase.isActive] at active <;> rfl
    simp only [handle, handleAuthResult]
    split
    next => exact navigable
    next =>
      split
      next => exact .of_closing (by simp)
      next =>
        cases result with
        | error error => exact fail_navigable error idle
        | ok answer => exact handleAuthResponse_navigable answer.2 unclosed idle busy
  | accountsResult result => exact accountsResult_navigable result unclosed (attentive.idle (by simp [Input.kind]))
  | userSelectionCancelled attempt result =>
    refine userSelectionCancelled_navigable attempt result navigable unclosed
      (attentive.idle (by simp [Input.kind])) ?_
    intro before
    exact attentive.usable.choosable (by simp [core, before, Phase.isChoosing])
  | askPower action => exact askPower_navigable action navigable
  | cancelPower => exact cancelPower_navigable navigable
  | confirmPower action => exact confirmPower_navigable action navigable
  | powerResult result => exact powerResult_navigable result navigable
  | closeRequested window => exact closeRequested_navigable window
  | sessionCancelled window =>
    simp only [handle, sessionCancelled]
    split
    next => exact .of_closing (by simp)
    next => exact navigable
  | closeTimeout window =>
    simp only [handle, closeTimeout]
    split
    next => exact .of_closing (by simp)
    next => exact navigable
  | tick | wallpaperFrameReady | wallpaperAllocated | rendererInformation | navigatePage | windowResized =>
    exact navigable
  | sessionMenuClosed | outputLayoutChanged => exact navigable.of_core rfl rfl
  | inputChanged value =>
    have idle := idle_of_held allowed rfl
    simp only [handle, Conversation.updateInput]
    split
    next conversation changed =>
      refine .of_listed idle fun target focused => ?_
      cases focused
      refine input_mem_focusOrder unclosed idle (attentive.settled.waiting ?_)
      by_contra other
      have other : app.conversation.status ≠ .waiting := other
      simp [other] at changed
    next => exact navigable.kept (focusOrder_congr rfl rfl rfl rfl rfl rfl) rfl rfl rfl rfl
  | submit => exact submit_navigable navigable (idle_of_held allowed rfl)
  | retry => exact retry_navigable navigable (idle_of_held allowed rfl)
  | retrySession => exact retrySession_navigable discovered navigable (idle_of_held allowed rfl)
  | changeUser =>
    have idle := idle_of_held allowed rfl
    simp only [handle]
    split
    next => exact .of_listed (by simp [changeUser, idle]) focusFirst_listed
    next => exact navigable
  | userSelectionCancellationSlow attempt =>
    simp only [handle, userSelectionCancellationSlow]
    split
    next => exact navigable.kept (focusOrder_congr rfl rfl rfl rfl rfl rfl) rfl rfl rfl rfl
    next => exact navigable
  | retryUserSelectionCancellation =>
    have idle := idle_of_held allowed rfl
    simp only [handle, retryUserSelectionCancellation]
    split
    next => exact .of_listed (by simp [idle]) focusFirst_listed
    next => exact navigable
  | selectAccount account =>
    simp only [handle]
    split
    next => exact selectAccount_navigable account (idle_of_held allowed rfl)
    next => exact navigable
  | syncWidgetFocus =>
    have idle := idle_of_held allowed rfl
    simp only [handle, syncWidgetFocus]
    split
    next => exact .of_listed idle (listed_of_unfocused rfl)
    next => exact navigable
  | widgetFocused input =>
    have idle := idle_of_held allowed rfl
    simp only [handle, applyWidgetFocus]
    split
    next waits =>
      refine .of_listed idle fun target focused => ?_
      cases focused
      simp only [Bool.and_eq_true, beq_iff_eq] at waits
      exact input_mem_focusOrder unclosed idle waits.2
    next => exact navigable
  | selectSession session =>
    have idle := idle_of_held allowed rfl
    simp only [handle]
    split
    next selectable =>
      refine .of_listed (by simp [idle, closeSessionMenu]) (setFocus_listed (session_mem_focusOrder ?_))
      simp only [canSelectSession, Bool.and_eq_true] at selectable ⊢
      exact ⟨⟨selectable.1.1, rfl⟩, selectable.2⟩
    next => exact navigable
  | sessionMenuOpened =>
    have idle := idle_of_held allowed rfl
    simp only [handle]
    split
    next selectable =>
      exact .of_listed (by simp [idle]) (setFocus_listed (session_mem_focusOrder selectable))
    next => exact navigable

theorem send_navigable {message : Message} (discovered : List Session) (navigable : app.Navigable)
    (attentive : app.Attentive (.message message)) : (app.send discovered message).1.Navigable := by
  simp only [send]
  split
  next allowed =>
    simp only [allows, Bool.and_eq_true] at allowed
    exact handle_navigable discovered navigable attentive allowed.2
  next => exact navigable

theorem cycleSession_navigable (delta : Int) (navigable : app.Navigable) (selectable : app.canSelectSession = true) :
    (app.cycleSession delta).Navigable := by
  simp only [cycleSession]
  split
  next =>
    refine navigable.kept (focusOrder_congr rfl rfl rfl ?_ rfl rfl) rfl rfl rfl rfl
    simp only [canSelectSession, Bool.and_eq_true] at selectable
    exact selectable.1.2.symm
  next => exact navigable

/-! ### Keys -/

theorem moveFocus_isSome (delta : Int) (offers : app.focusOrder ≠ []) :
    (app.moveFocus delta).focusTarget.isSome = true := by
  have nonempty : 0 < app.focusOrder.length := List.length_pos_iff.mpr offers
  simp only [moveFocus]
  split
  next => simp
  next missing =>
    have outside := List.getElem?_eq_none_iff.mp missing
    split at outside
    next index _ =>
      have within := around_lt nonempty index delta
      omega
    next =>
      split at outside
      next => exact absurd (Nat.sub_lt nonempty Nat.one_pos) (Nat.not_lt.mpr outside)
      next => omega

theorem moveFocus_navigable (delta : Int) : (app.moveFocus delta).Navigable := by
  refine ⟨fun _ _ => moveFocus_listed delta, ?_⟩
  intro _ confirming
  apply moveFocus_isSome
  intro none
  have power : (app.moveFocus delta).powerState = app.powerState := congrArg Core.powerState (app.moveFocus_core delta)
  cases isPower : app.powerState <;> simp_all [isConfirming, focusOrder]

theorem moveDirectional_navigable (delta : Int) (navigable : app.Navigable) :
    (app.moveDirectional delta).Navigable := by
  simp only [moveDirectional]
  split
  next index focused =>
    split
    next allowed =>
      simp only [Bool.and_eq_true, Bool.not_eq_true', List.isEmpty_eq_false_iff] at allowed
      obtain ⟨selectable, someone⟩ := allowed
      refine .of_listed ?_ (setFocus_listed (account_mem_focusOrder ?_ selectable))
      · simp only [canSelectAccount, Bool.and_eq_true, beq_iff_eq] at selectable
        simp [selectable.1.2]
      · exact around_lt (List.length_pos_iff.mpr someone) index delta
    next => exact navigable
  next =>
    split
    next selectable => exact cycleSession_navigable delta navigable selectable
    next => exact navigable
  next => exact moveFocus_navigable delta
  next => exact moveFocus_navigable delta
  next => exact navigable

theorem Attentive.sends {input : Input} {message : Message} (attentive : app.Attentive input)
    (outside : (Input.message message).isOutside = true) : app.Attentive (.message message) :=
  { attentive with delivered := fun counts => absurd (Input.kind_of_outside outside) counts }

theorem navigateFocus_navigable {input : Input} (navigation : Navigation) (discovered : List Session)
    (navigable : app.Navigable) (attentive : app.Attentive input) :
    (app.navigateFocus discovered navigation).1.Navigable := by
  cases navigation with
  | next => exact moveFocus_navigable 1
  | previous => exact moveFocus_navigable (-1)
  | directionNext => exact moveDirectional_navigable 1 navigable
  | directionPrevious => exact moveDirectional_navigable (-1) navigable
  | activate =>
    simp only [navigateFocus]
    split
    next message activates =>
      exact send_navigable discovered navigable (attentive.sends (activation_outside activates))
    next cycles =>
      apply cycleSession_navigable 1 navigable
      simp only [activation] at cycles
      repeat' split at cycles
      all_goals first
        | contradiction
        | assumption
    next => exact navigable

theorem update_navigable {input : Input} (discovered : List Session) (navigable : app.Navigable)
    (attentive : app.Attentive input) : (app.update discovered input).1.Navigable := by
  simp only [update]
  split
  next => exact navigable
  next passed =>
    have allowed : app.allows input = true := by simpa using passed
    simp only [allows, Bool.and_eq_true] at allowed
    cases input with
    | message message => exact handle_navigable discovered navigable attentive allowed.2
    | navigateFocus navigation =>
      exact @navigateFocus_navigable app.closeSessionMenu _ navigation discovered
        (navigable.of_core rfl rfl) ⟨attentive.unclosed, attentive.settled, attentive.usable, attentive.restful,
          attentive.delivered⟩
    | navigateModal navigation =>
      simp only
      split
      next => exact navigateFocus_navigable navigation discovered navigable attentive
      next => exact navigable
    | escape =>
      simp only
      split
      next => exact send_navigable discovered navigable (attentive.sends rfl)
      next unconfirmed =>
        split
        next => exact navigable.of_core rfl rfl
        next =>
          split
          next =>
            have idle : app.powerState = .idle := by simpa [powerAllows, unconfirmed] using allowed.2
            simp only [blurInput]
            split
            next => exact .of_listed idle (listed_of_unfocused rfl)
            next => exact navigable.of_core rfl rfl
          next => exact navigable

/-! ## What is left behind -/

theorem send_eq_of_handle {message : Message} {discovered : List Session}
    (inert : app.handle discovered message = (app, [])) : app.send discovered message = (app, []) := by
  simp only [send, inert, ite_self]

/-- While a task is under way, a target that is offered no more does nothing. -/
theorem activate_inert (settled : app.core.Settled) (idle : app.powerState = .idle)
    (busy : app.phase.isRestful = false) {target : Target} (focused : app.focusTarget = some target)
    (unlisted : target ∉ app.focusOrder) (discovered : List Session) :
    app.navigateFocus discovered .activate = (app, []) := by
  have unfailed : app.phase ≠ .failed := by
    intro failed
    simp [failed, Phase.isRestful] at busy
  have unselecting : app.canSelectAccount = false := by
    cases isPhase : app.phase <;> simp_all [canSelectAccount, Phase.isRestful]
  simp only [navigateFocus, activation, focused]
  cases target with
  | account index => simp [unselecting]
  | authenticationInput => rfl
  | retryAccountSelection =>
    have tried : app.phase ≠ .userSelectionCancellationFailed := by
      intro failed
      simp [failed, Phase.isRestful] at busy
    simp only [if_neg tried]
    exact send_eq_of_handle (by simp [handle, retry, unfailed])
  | retryAuthentication => exact send_eq_of_handle (by simp [handle, retry, unfailed])
  | submit =>
    have unwaiting : app.conversation.status ≠ .waiting := by
      intro waits
      have waits : app.phase = .waitingForInput := settled.waiting waits
      simp [waits, Phase.isRestful] at busy
    exact send_eq_of_handle (by simp [handle, submit, unwaiting])
  | changeUser =>
    have kept : app.canChangeUser = false := by
      cases isPhase : app.phase <;> simp_all [canChangeUser, Phase.isRestful]
    exact send_eq_of_handle (by simp [handle, kept])
  | session =>
    have unselectable : app.canSelectSession ≠ true := fun selectable => unlisted (session_mem_focusOrder selectable)
    simp [unselectable]
  | retrySession => exact send_eq_of_handle (by simp [handle, retrySession, unfailed])
  | power action =>
    have refused : app.canRequestPower = false := by
      by_contra allowed
      have resting := restful_of_canRequestPower (by simpa using allowed)
      simp [busy] at resting
    exact send_eq_of_handle (by simp [handle, askPower, refused])
  | dialogCancel => exact send_eq_of_handle (by simp [handle, cancelPower, isConfirming, idle])
  | dialogConfirm => simp [idle]

theorem new_navigable (account : Option Account) (sessions : List Session) :
    (App.new account sessions).1.Navigable := by
  cases sessions with
  | nil => exact .of_listed (by simp [App.new]) focusFirst_listed
  | cons session sessions =>
    cases account with
    | none => exact .of_listed rfl (listed_of_unfocused rfl)
    | some account => exact .of_listed rfl (listed_of_unfocused rfl)

end App

theorem navigable_of_run (run : greeterSystem.Run) {index : Nat} (bound : index ≤ run.length)
    (goesOn : ∀ earlier < index, ¬ (run.state earlier).Asks (run.label earlier) .exit) :
    (run.state index).app.Navigable := by
  have initially : (run.state 0).app.Navigable := by
    obtain ⟨account, sessions, isStart⟩ := run.starts
    rw [isStart]
    exact new_navigable account sessions
  refine run.stays (fun world => world.app.Navigable) (Nat.zero_le index) bound ?_ initially
  intro earlier _ before navigable
  have consistent := World.consistent_of_reachable (run.reachable earlier (by omega))
  have progressing := progressing_of_run run (show earlier ≤ run.length by omega)
    fun first isFirst => goesOn first (by omega)
  obtain ⟨actions, acts⟩ := acts_of_run run (show earlier < run.length by omega)
  obtain ⟨input, rest, _, takes, ⟨discovered, updates⟩, _⟩ := World.act_takes acts
  by_cases closing : (run.state (earlier + 1)).app.closing = none
  · have move := update_moves (run.state earlier).app discovered input
    rw [updates] at move
    have unclosed : (run.state earlier).app.closing = none := move.unclosed closing
    have attentive : (run.state earlier).app.Attentive input :=
      ⟨unclosed, consistent.settled, progressing.usable, progressing.restful unclosed, (consistent.takes takes).1⟩
    have updated := update_navigable discovered navigable attentive
    rw [updates] at updated
    exact updated
  · exact .of_closing closing

/-- Before the window is to close, a dialog of a power action keeps the focus to itself, and what the key of
activation does is offered: a target that stands in the order, or nothing at all. -/
theorem focus_offered (run : greeterSystem.Run) {index : Nat} (bound : index ≤ run.length)
    (goesOn : ∀ earlier < index, ¬ (run.state earlier).Asks (run.label earlier) .exit)
    (unclosed : (run.state index).app.closing = none) :
    ((run.state index).app.isConfirming = true →
      (run.state index).app.focusTarget = some .dialogCancel ∨
        (run.state index).app.focusTarget = some .dialogConfirm) ∧
    (∀ action, (run.state index).app.powerState = .executing action → (run.state index).app.focusTarget = none) ∧
    ∀ target, (run.state index).app.focusTarget = some target → target ∈ (run.state index).app.focusOrder ∨
      ∀ discovered, (run.state index).app.update discovered (.navigateFocus .activate) =
        ((run.state index).app.closeSessionMenu, []) := by
  have navigable := navigable_of_run run bound goesOn
  have settled := (World.consistent_of_reachable (run.reachable index bound)).settled
  generalize (run.state index).app = app at *
  refine ⟨?_, ?_, ?_⟩
  · intro confirming
    obtain ⟨target, focused⟩ := Option.isSome_iff_exists.mp (navigable.trapped unclosed confirming)
    cases isPower : app.powerState with
    | idle | executing => simp [App.isConfirming, isPower] at confirming
    | confirming action =>
      have listed := navigable.listed unclosed (.inl (by simp [isPower])) target focused
      simp only [App.focusOrder, isPower, List.mem_cons, List.not_mem_nil, or_false] at listed
      rw [focused]
      exact listed.imp (congrArg some) (congrArg some)
  · intro action executing
    by_contra focused
    obtain ⟨target, focused⟩ := Option.ne_none_iff_exists'.mp focused
    have listed := navigable.listed unclosed (.inl (by simp [executing])) target focused
    simp [App.focusOrder, executing] at listed
  · intro target focused
    by_cases listed : target ∈ app.focusOrder
    · exact .inl listed
    · right
      intro discovered
      have left : ¬ (app.powerState ≠ .idle ∨ app.phase.isRestful = true) :=
        fun waits => listed (navigable.listed unclosed waits target focused)
      simp only [not_or, ne_eq, not_not, Bool.not_eq_true] at left
      obtain ⟨idle, busy⟩ := left
      have passes : app.allows (.navigateFocus .activate) = true := by
        simp [App.allows, App.closingAllows, App.powerAllows, unclosed, idle]
      simp only [App.update, passes, Bool.not_true, Bool.false_eq_true, if_false]
      exact @App.activate_inert app.closeSessionMenu settled idle busy _ focused listed discovered

/-- The dialog of a suspension, which the user then means to leave with a key. -/
def dialogRun : greeterSystem.Run :=
  TransitionSystem.runOfLabels (startWorld none []) ⟨_, _, rfl⟩
    [.input (.message (.askPower .suspend)) [], .input (.navigateModal .next) []] (by decide +kernel)

theorem focus_offered_sample : (dialogRun.state 2).app.isConfirming = true ∧
    ((dialogRun.state 2).app.focusTarget = some .dialogCancel ∨
      (dialogRun.state 2).app.focusTarget = some .dialogConfirm) := by
  have confirming : (dialogRun.state 2).app.isConfirming = true := by decide +kernel
  have goesOn : ∀ earlier < 2, ¬ (dialogRun.state earlier).Asks (dialogRun.label earlier) .exit := by
    simp only [World.asks_iff]
    decide +kernel
  exact ⟨confirming, (focus_offered dialogRun (show 2 ≤ 2 by decide) goesOn (by decide +kernel)).1 confirming⟩

end Genkan.Greeter
