import Genkan.DesktopWallpaper.SolarWorker
import Genkan.DesktopWallpaper.Passes

/-! # What a pass does about the location

As the worker has at most one thing to do or to say, a pass finds at most one result.  From this
follows what holds between two passes.
-/

namespace Genkan.DesktopWallpaper

open Foundations DynamicWallpaper

variable {Location : Type} {geography : Geography Location}

/-! ## The stages of a pass -/

/-- The schedules that a pass installs. -/
def Runtime.Installs (before after : Runtime) : Prop :=
  ∃ installs, List.foldlM Runtime.installSolarMapping before installs = .ok after

theorem Runtime.Installs.refl (runtime : Runtime) : runtime.Installs runtime := ⟨[], rfl⟩

theorem Runtime.Installs.of_install {before after : Runtime} {install : Moment × Option TimePoints}
    (installs : before.installSolarMapping install = .ok after) : before.Installs after :=
  ⟨[install], Results.bind_eq_ok.mpr ⟨after, installs, rfl⟩⟩

theorem Runtime.Installs.trans {first second third : Runtime} (installs : first.Installs second)
    (further : second.Installs third) : first.Installs third := by
  obtain ⟨earlier, isSecond⟩ := installs
  obtain ⟨later, isThird⟩ := further
  refine ⟨earlier ++ later, ?_⟩
  rw [List.foldlM_append, isSecond]
  exact isThird

theorem Runtime.Installs.prepares {before after : Runtime} (installs : before.Installs after) :
    before.Prepares after := by
  obtain ⟨installs, isAfter⟩ := installs
  exact Results.foldlM_related Runtime.Prepares .refl (fun _ _ _ => .trans)
    (fun _ _ _ => Runtime.installSolarMapping_prepares) installs isAfter

namespace SolarRuntime

theorem installSolarMapping_ok {state after : SolarRuntime Location} {moment : Moment}
    (installs : state.installSolarMapping geography moment = .ok after) :
    ∃ runtime mapped, state.runtime.Installs runtime ∧ after = { state with runtime, mapped } := by
  simp only [installSolarMapping] at installs
  split at installs
  next =>
    cases installs
    exact ⟨_, _, .refl _, rfl⟩
  next =>
    split at installs
    next =>
      obtain ⟨clock, _, continues⟩ := Results.bind_eq_ok.mp installs
      obtain ⟨runtime, isRuntime, isAfter⟩ := Results.bind_eq_ok.mp continues
      cases isAfter
      exact ⟨_, _, .of_install isRuntime, rfl⟩
    next =>
      cases installs
      exact ⟨_, _, .refl _, rfl⟩

/-- What a result changes besides the schedule. -/
def settle (state : SolarRuntime Location) (received : Nat) : SolarResult Location → SolarRuntime Location
  | .located location =>
    { state with location := some location, nextLocationRefresh := some (received + locationRefresh) }
  | .failed error =>
    if error.isRetryable then
      { state with solarRequested := false, nextLocationRefresh := some (received + locationRetry) }
    else { state with solarTerminal := true }

theorem handleResult_ok {state after : SolarRuntime Location} {input : SolarInput} {received : Nat}
    {result : SolarResult Location} (handles : state.handleResult geography input received result = .ok after) :
    ∃ runtime mapped, state.runtime.Installs runtime ∧ (∀ error, result = .failed error → mapped = state.mapped) ∧
      after = { state.settle received result with runtime, mapped } := by
  cases result with
  | located location =>
    simp only [handleResult] at handles
    split at handles
    next =>
      obtain ⟨runtime, mapped, installs, isAfter⟩ := installSolarMapping_ok handles
      exact ⟨runtime, mapped, installs, fun _ isFailed => by contradiction, isAfter⟩
    next =>
      cases handles
      exact ⟨_, _, .refl _, fun _ isFailed => by contradiction, rfl⟩
  | failed error =>
    simp only [handleResult] at handles
    simp only [settle]
    split at handles
    next retryable =>
      cases handles
      exact ⟨_, _, .refl _, fun _ _ => rfl, by rw [if_pos retryable]⟩
    next terminal =>
      cases handles
      exact ⟨_, _, .refl _, fun _ _ => rfl, by rw [if_neg terminal]⟩

theorem startResolver_cases (state : SolarRuntime Location) (spawned : Spawned) :
    (∃ resolver, state.solarResolver = none ∧ state.hasSolarSchedule = true ∧ state.frameAvailable = true ∧
      SolarResolver.spawn spawned = some resolver ∧
      state.startResolver spawned = ({ state with solarResolver := some resolver }, true)) ∨
    (state.solarResolver = none ∧ state.startResolver spawned = ({ state with solarTerminal := true }, false)) ∨
    ((state.solarResolver = none → state.hasSolarSchedule = true → state.frameAvailable = false) ∧
      state.startResolver spawned = (state, true)) := by
  simp only [startResolver]
  split
  next missing =>
    simp only [Bool.and_eq_true, Option.isNone_iff_eq_none] at missing
    obtain ⟨⟨isNone, solar⟩, frame⟩ := missing
    cases isSpawned : (SolarResolver.spawn spawned : Option (SolarResolver Location)) with
    | some resolver => exact .inl ⟨resolver, isNone, solar, frame, rfl, rfl⟩
    | none => exact .inr (.inl ⟨isNone, rfl⟩)
  next present =>
    refine .inr (.inr ⟨?_, rfl⟩)
    intro isNone solar
    simpa [isNone, solar] using present

theorem requestLocation_frame (gate : SolarRuntime Location) (requested : Nat) :
    ∃ solarResolver solarRequested solarTerminal, (gate.solarTerminal = true → solarTerminal = true) ∧
      gate.requestLocation requested = { gate with solarResolver, solarRequested, solarTerminal } := by
  simp only [SolarRuntime.requestLocation]
  split
  next =>
    simp only [dispatchSolar]
    split
    next => exact ⟨_, _, _, id, rfl⟩
    next =>
      split
      next => exact ⟨_, _, _, id, rfl⟩
      next => exact ⟨_, _, _, fun _ => rfl, rfl⟩
  next => exact ⟨_, _, _, id, rfl⟩

theorem checkMapping_ok {state after : SolarRuntime Location} {input : SolarInput} {checked settled : Nat}
    (checks : state.checkMapping geography input checked settled = .ok after) :
    ∃ runtime mapped nextSolarCheck, state.runtime.Installs runtime ∧
      after = { state with runtime, mapped, nextSolarCheck } := by
  simp only [checkMapping] at checks
  split at checks
  next =>
    obtain ⟨clock, _, continues⟩ := Results.bind_eq_ok.mp checks
    split at continues
    next =>
      obtain ⟨runtime, mapped, installs, isAfter⟩ := installSolarMapping_ok continues
      exact ⟨runtime, mapped, some (settled + solarCheckInterval), installs, isAfter⟩
    next =>
      cases continues
      exact ⟨_, _, _, .refl _, rfl⟩
  next =>
    cases checks
    exact ⟨_, _, _, .refl _, rfl⟩

/-- Metadata that is known stays as it is. -/
theorem decoded_ok {state after : SolarRuntime Location} {input : SolarInput} (admitted : state.admits input = true)
    (decodes : state.decoded input = .ok after) :
    ∃ runtime metadata, after = { state with runtime, metadata } ∧
      ∀ known, state.metadata = some known → metadata = some known := by
  simp only [decoded] at decodes
  obtain ⟨synchronized, _, continues⟩ := Results.bind_eq_ok.mp decodes
  obtain ⟨runtime, _, isAfter⟩ := Results.bind_eq_ok.mp continues
  cases isAfter
  refine ⟨runtime, _, rfl, ?_⟩
  intro known isKnown
  simp only [admits] at admitted
  split
  next learned _ isWorker =>
    simp [isWorker, isKnown] at admitted
  next => exact isKnown

theorem decoded_prepares {state decoded : SolarRuntime Location} {input : SolarInput}
    (decodes : state.decoded input = .ok decoded) : state.runtime.Prepares decoded.runtime := by
  simp only [SolarRuntime.decoded] at decodes
  obtain ⟨synchronized, synchronizes, continues⟩ := Results.bind_eq_ok.mp decodes
  obtain ⟨received, receives, isDecoded⟩ := Results.bind_eq_ok.mp continues
  cases isDecoded
  exact (Runtime.synchronize_prepares synchronizes).trans (Runtime.receive_prepares receives)

theorem maintain_ok {state next : SolarRuntime Location} {input : SolarInput} {drawn : List Nat}
    (maintains : state.maintain geography input = .ok (next, drawn)) :
    ∃ decoded solar runtime, state.decoded input = .ok decoded ∧
      decoded.maintainSolar geography input = .ok solar ∧
      next = { solar with runtime, now := state.settledAt input } := by
  simp only [maintain] at maintains
  obtain ⟨decoded, decodes, continues⟩ := Results.bind_eq_ok.mp maintains
  obtain ⟨solar, isSolar, continues⟩ := Results.bind_eq_ok.mp continues
  obtain ⟨prepared, _, isNext⟩ := Results.bind_eq_ok.mp continues
  cases isNext
  exact ⟨decoded, solar, _, decodes, isSolar, rfl⟩

/-! ## What holds between two passes -/

structure SoundAt (now : Nat) (state : SolarRuntime Location) : Prop where
  resolver : ∀ resolver, state.solarResolver = some resolver → resolver.Sound
  terminal : state.solarTerminal = true → ∀ resolver, state.solarResolver = some resolver →
    resolver.inFlight = false
  /-- Whoever still has something to do or to say was asked when the last deadline had passed. -/
  due : ∀ resolver, state.solarResolver = some resolver → 0 < resolver.load →
    ∀ deadline, state.nextLocationRefresh = some deadline → deadline ≤ now
  unstarted : state.solarResolver = none →
    state.nextLocationRefresh = none ∧ state.location = none ∧ state.solarRequested = false
  started : ∀ resolver, state.solarResolver = some resolver →
    state.solarEnabled = true ∧ state.hasSolarSchedule = true

theorem SoundAt.later {now later : Nat} {state : SolarRuntime Location} (sound : state.SoundAt now)
    (order : now ≤ later) : state.SoundAt later where
  resolver := sound.resolver
  terminal := sound.terminal
  due resolver isResolver loaded deadline isDeadline :=
    Nat.le_trans (sound.due resolver isResolver loaded deadline isDeadline) order
  unstarted := sound.unstarted
  started := sound.started

/-- Where there is a worker, it is all that the state is judged by. -/
theorem SoundAt.of_resolver {now : Nat} {state : SolarRuntime Location} {resolver : SolarResolver Location}
    (isResolver : state.solarResolver = some resolver) (sound : resolver.Sound)
    (terminal : state.solarTerminal = true → resolver.inFlight = false)
    (due : 0 < resolver.load → ∀ deadline, state.nextLocationRefresh = some deadline → deadline ≤ now)
    (started : state.solarEnabled = true ∧ state.hasSolarSchedule = true) : state.SoundAt now where
  resolver _ isOther := Option.some.inj (isResolver.symm.trans isOther) ▸ sound
  terminal isTerminal _ isOther := Option.some.inj (isResolver.symm.trans isOther) ▸ terminal isTerminal
  due _ isOther loaded := due (Option.some.inj (isResolver.symm.trans isOther) ▸ loaded)
  unstarted isNone := by
    rw [isResolver] at isNone
    contradiction
  started _ _ := started

theorem settle_resolver (state : SolarRuntime Location) (resolver : Option (SolarResolver Location))
    (received : Nat) (result : SolarResult Location) :
    ({ state with solarResolver := resolver } : SolarRuntime Location).settle received result =
      { state.settle received result with solarResolver := resolver } := by
  cases result with
  | located location => rfl
  | failed error =>
    simp only [settle]
    split <;> rfl

/-- One result is found and taken off the queue, or none. -/
theorem receiveResults_cases {now received : Nat} {state after : SolarRuntime Location} {input : SolarInput}
    (sound : state.SoundAt now)
    (receives : receiveResults geography input received state state.waiting = .ok after) :
    state.waiting = [] ∧ after = state.receive ∨
    ∃ resolver result runtime mapped, state.solarResolver = some resolver ∧ resolver.results = [result] ∧
      state.runtime.Installs runtime ∧ (∀ error, result = .failed error → mapped = state.mapped) ∧
      after = { state.settle received result with
        runtime, mapped, solarResolver := some { resolver with inFlight := false, results := [] } } := by
  cases isResolver : state.solarResolver with
  | none =>
    have empty : state.waiting = [] := by simp [waiting, isResolver]
    rw [empty] at receives
    cases receives
    exact .inl ⟨empty, rfl⟩
  | some resolver =>
    have isWaiting : state.waiting = resolver.results := by simp [waiting, isResolver]
    rw [isWaiting] at receives ⊢
    have single := (sound.resolver resolver isResolver).single
    cases holds : resolver.results with
    | nil =>
      rw [holds] at receives
      cases receives
      exact .inl ⟨rfl, rfl⟩
    | cons result results =>
      have last : results = [] := by
        rw [← List.length_eq_zero_iff]
        simp only [SolarResolver.load, holds, List.length_cons] at single
        omega
      subst last
      rw [holds] at receives
      simp only [receiveResults] at receives
      obtain ⟨handled, handles, isAfter⟩ := Results.bind_eq_ok.mp receives
      obtain ⟨runtime, mapped, installs, keeps, isHandled⟩ := handleResult_ok handles
      cases isAfter
      refine .inr ⟨resolver, result, runtime, mapped, rfl, holds, installs, keeps, ?_⟩
      have first : state.receive = { state with
          solarResolver := some { resolver with inFlight := false, results := [] } } := by
        simp [receive, isResolver, SolarResolver.receive_of_cons holds]
      rw [isHandled, first, settle_resolver, receive]
      simp [SolarResolver.receive_of_nil]

theorem settle_kept (state : SolarRuntime Location) (received : Nat) (result : SolarResult Location) :
    (state.settle received result).solarEnabled = state.solarEnabled ∧
      (state.settle received result).metadata = state.metadata ∧
      (state.settle received result).nextSolarCheck = state.nextSolarCheck := by
  cases result with
  | located location => exact ⟨rfl, rfl, rfl⟩
  | failed error =>
    simp only [settle]
    split <;> exact ⟨rfl, rfl, rfl⟩

theorem SoundAt.receiveResults {now received : Nat} {state after : SolarRuntime Location} {input : SolarInput}
    (sound : state.SoundAt now)
    (receives : receiveResults geography input received state state.waiting = .ok after) :
    after.SoundAt now := by
  rcases receiveResults_cases sound receives with
    ⟨empty, rfl⟩ | ⟨resolver, result, runtime, mapped, isResolver, holds, _, _, rfl⟩
  · cases isResolver : state.solarResolver with
    | none =>
      have same : state.receive = state := by
        cases state
        cases isResolver
        rfl
      rw [same]
      exact sound
    | some resolver =>
      have nothing : resolver.results = [] := by simpa [waiting, isResolver] using empty
      have resolved : state.receive.solarResolver =
          some { resolver with inFlight := resolver.inFlight && !resolver.thread.isStopped } := by
        simp [receive, isResolver, SolarResolver.receive_of_nil nothing]
      apply SoundAt.of_resolver resolved
      · exact (sound.resolver resolver isResolver).receive_nil nothing
      · intro isTerminal
        simp [sound.terminal isTerminal resolver isResolver]
      · exact sound.due resolver isResolver
      · exact sound.started resolver isResolver
  · -- The one result that waits is taken, and the worker has nothing to do.
    obtain ⟨enabled, solar⟩ := sound.started resolver isResolver
    obtain ⟨keptEnabled, keptMetadata, _⟩ := settle_kept state received result
    obtain ⟨resolverSound, idle⟩ := (sound.resolver resolver isResolver).receive_one holds
    apply SoundAt.of_resolver rfl resolverSound
    · exact fun _ => rfl
    · intro loaded
      omega
    · refine ⟨keptEnabled.trans enabled, ?_⟩
      rw [← solar]
      simp only [hasSolarSchedule, keptMetadata]

/-! ## The gate -/

/-- Up to the gate the results are received, and a worker may be started. -/
theorem approach_ok {state gate : SolarRuntime Location} {input : SolarInput} {received : Nat} {opened : Bool}
    (approaches : state.approach geography input received = .ok (gate, opened)) :
    ∃ after, receiveResults geography input received state state.waiting = .ok after ∧
      ((after.solarTerminal = true ∨ after.runtime.appearance.permitsSolar = false) ∧
          gate = after ∧ opened = false ∨
        after.solarTerminal = false ∧ after.runtime.appearance.permitsSolar = true ∧
          (gate, opened) = after.startResolver input.spawned) := by
  simp only [approach] at approaches
  obtain ⟨after, receives, continues⟩ := Results.bind_eq_ok.mp approaches
  refine ⟨after, receives, ?_⟩
  split at continues
  next closed =>
    cases continues
    exact .inl ⟨by simpa using closed, rfl, rfl⟩
  next isOpen =>
    have isGate := Results.pure_eq_ok.mp continues
    simp only [Bool.or_eq_true, Bool.not_eq_true', not_or, Bool.not_eq_true, Bool.not_eq_false] at isOpen
    exact .inr ⟨isOpen.1, isOpen.2, isGate.symm⟩

/-- A worker has just been started, and nothing is known yet. -/
structure Fresh (gate : SolarRuntime Location) : Prop where
  resolver : ∃ spawned resolver, SolarResolver.spawn spawned = some resolver ∧
    gate.solarResolver = some resolver
  refresh : gate.nextLocationRefresh = none
  requested : gate.solarRequested = false
  enabled : gate.solarEnabled = true
  solar : gate.hasSolarSchedule = true
  frame : gate.frameAvailable = true

/-- What the gate finds when it is open. -/
structure Opened (now : Nat) (gate : SolarRuntime Location) : Prop where
  terminal : gate.solarTerminal = false
  permits : gate.runtime.appearance.permitsSolar = true
  worker : gate.Fresh ∨ gate.SoundAt now ∧
    (gate.solarResolver = none → gate.hasSolarSchedule = true → gate.frameAvailable = false)

theorem approach_opened {now received : Nat} {state gate : SolarRuntime Location} {input : SolarInput}
    (sound : state.SoundAt now) (enabled : state.solarEnabled = true)
    (approaches : state.approach geography input received = .ok (gate, true)) : gate.Opened now := by
  obtain ⟨after, receives, ⟨_, _, closed⟩ | ⟨terminal, permits, isGate⟩⟩ := approach_ok approaches
  · contradiction
  · have afterSound := sound.receiveResults receives
    have afterEnabled : after.solarEnabled = true := by
      rcases receiveResults_cases sound receives with ⟨_, rfl⟩ | ⟨_, result, _, _, _, _, _, _, rfl⟩
      · exact enabled
      · exact (settle_kept state received result).1.trans enabled
    rcases after.startResolver_cases input.spawned with
      ⟨resolver, isNone, solar, frame, isSpawned, starts⟩ | ⟨_, starts⟩ | ⟨unneeded, starts⟩
    · cases isGate.trans starts
      obtain ⟨refresh, _, requested⟩ := afterSound.unstarted isNone
      exact ⟨terminal, permits, .inl ⟨⟨_, resolver, isSpawned, rfl⟩, refresh, requested, afterEnabled, solar, frame⟩⟩
    · cases isGate.trans starts
    · cases isGate.trans starts
      exact ⟨terminal, permits, .inr ⟨afterSound, unneeded⟩⟩

/-- A request is dispatched to a worker that is not at work. -/
structure Gated (gate : SolarRuntime Location) : Prop where
  automatic : gate.runtime.appearance = .automatic
  solar : gate.hasSolarSchedule = true
  known : gate.frameAvailable = true ∨ gate.location.isSome = true
  terminal : gate.solarTerminal = false
  idle : ∃ resolver, gate.solarResolver = some resolver ∧ resolver.inFlight = false ∧
    resolver.requesting = false ∧ (resolver.thread.isStopped = false → resolver.results = [])

theorem requests_ready {gate : SolarRuntime Location} {now : Nat} (requests : gate.requests now = true) :
    (∀ resolver, gate.solarResolver = some resolver → resolver.inFlight = false) ∧
    (∀ deadline, gate.nextLocationRefresh = some deadline → deadline ≤ now) ∧
    gate.hasSolarSchedule = true ∧ (gate.location.isSome = true ∨ gate.frameAvailable = true) := by
  simp only [SolarRuntime.requests, solarRequestReady, Bool.and_eq_true, Bool.or_eq_true] at requests
  obtain ⟨⟨idle, due⟩, ⟨_, solar⟩, known⟩ := requests
  refine ⟨?_, ?_, solar, known.imp_right And.right⟩
  · intro resolver isResolver
    simpa [isResolver] using idle
  · intro deadline isDeadline
    simpa [isDeadline] using due

theorem Opened.gated {now requested : Nat} {gate : SolarRuntime Location} (opened : gate.Opened now)
    (requests : gate.requests requested = true) : gate.Gated := by
  obtain ⟨idle, _, solar, known⟩ := requests_ready requests
  obtain ⟨terminal, permits, worker⟩ := opened
  have automatic : gate.runtime.appearance = .automatic := by
    simpa [AppearancePreference.permitsSolar] using permits
  refine ⟨automatic, solar, known.symm, terminal, ?_⟩
  rcases worker with fresh | ⟨sound, unneeded⟩
  · obtain ⟨spawned, resolver, spawns, isResolver⟩ := fresh.resolver
    obtain ⟨grounded, silent, empty, _⟩ := SolarResolver.spawn_idle spawns
    exact ⟨resolver, isResolver, grounded, silent, empty⟩
  · cases isResolver : gate.solarResolver with
    | none =>
      obtain ⟨_, unknown, _⟩ := sound.unstarted isResolver
      have frame := unneeded isResolver solar
      simp [unknown, frame] at known
    | some resolver =>
      obtain ⟨silent, empty | ⟨_, stopped⟩⟩ :=
        (sound.resolver resolver isResolver).idle (idle resolver isResolver)
      · exact ⟨resolver, rfl, idle resolver isResolver, silent, fun _ => empty⟩
      · refine ⟨resolver, rfl, idle resolver isResolver, silent, fun running => ?_⟩
        rw [stopped] at running
        contradiction

/-- A worker that has just been started is asked in the same pass. -/
theorem Fresh.requests {gate : SolarRuntime Location} (fresh : gate.Fresh)
    (permits : gate.runtime.appearance.permitsSolar = true) (now : Nat) : gate.requests now = true := by
  obtain ⟨spawned, resolver, spawns, isResolver⟩ := fresh.resolver
  simp [SolarRuntime.requests, solarRequestReady, isResolver, (SolarResolver.spawn_idle spawns).1, fresh.refresh,
    permits,
    fresh.solar, fresh.requested, fresh.frame]

theorem Opened.requestLocation {now requested : Nat} {gate : SolarRuntime Location} (opened : gate.Opened now)
    (order : now ≤ requested) : (gate.requestLocation requested).SoundAt requested := by
  by_cases requests : gate.requests requested = true
  · obtain ⟨_, due, _, _⟩ := requests_ready requests
    obtain ⟨_, _, _, terminal, resolver, isResolver, grounded, silent, empty⟩ := opened.gated requests
    have started : gate.solarEnabled = true ∧ gate.hasSolarSchedule = true := by
      rcases opened.worker with fresh | ⟨sound, _⟩
      · exact ⟨fresh.enabled, fresh.solar⟩
      · exact sound.started resolver isResolver
    simp only [SolarRuntime.requestLocation, if_pos requests, dispatchSolar, isResolver]
    rcases resolver.dispatch_cases silent with ⟨stopped, dispatches⟩ | ⟨running, dispatches⟩
    · -- The request finds nobody, and there will be no other.
      have resolverSound : resolver.Sound := by
        rcases opened.worker with fresh | ⟨sound, _⟩
        · obtain ⟨spawned, other, spawns, isOther⟩ := fresh.resolver
          cases isResolver.symm.trans isOther
          exact (SolarResolver.spawn_idle spawns).2.2.2 stopped
        · exact sound.resolver resolver isResolver
      simp only [dispatches]
      exact .of_resolver rfl resolverSound (fun _ => grounded) (fun _ => due) started
    · simp only [dispatches]
      have resolverSound := SolarResolver.Sound.of_dispatch silent (empty running) running
      refine .of_resolver rfl resolverSound ?_ (fun _ => due) started
      intro isTerminal
      rw [terminal] at isTerminal
      contradiction
  · rw [SolarRuntime.requestLocation, if_neg requests]
    rcases opened.worker with fresh | ⟨sound, _⟩
    · exact absurd (fresh.requests opened.permits requested) requests
    · exact sound.later order

/-! ## Every step -/

theorem SoundAt.checked {now : Nat} {state after : SolarRuntime Location} {input : SolarInput}
    {checked settled : Nat} (sound : state.SoundAt now)
    (checks : state.checkMapping geography input checked settled = .ok after) : after.SoundAt now := by
  obtain ⟨runtime, mapped, nextSolarCheck, _, rfl⟩ := checkMapping_ok checks
  exact ⟨sound.resolver, sound.terminal, sound.due, sound.unstarted, sound.started⟩

theorem SoundAt.decoded {now : Nat} {state after : SolarRuntime Location} {input : SolarInput}
    (sound : state.SoundAt now) (admitted : state.admits input = true)
    (decodes : state.decoded input = .ok after) : after.SoundAt now := by
  obtain ⟨runtime, metadata, rfl, known⟩ := decoded_ok admitted decodes
  refine ⟨sound.resolver, sound.terminal, sound.due, sound.unstarted, ?_⟩
  intro resolver isResolver
  obtain ⟨enabled, solar⟩ := sound.started resolver isResolver
  refine ⟨enabled, ?_⟩
  cases isMetadata : state.metadata with
  | none => simp [hasSolarSchedule, isMetadata] at solar
  | some metadata =>
    simp only [hasSolarSchedule, isMetadata] at solar
    simpa only [hasSolarSchedule, known metadata isMetadata] using solar

theorem SoundAt.maintainSolar {state after : SolarRuntime Location} {input : SolarInput}
    (sound : state.SoundAt state.now) (maintains : state.maintainSolar geography input = .ok after) :
    after.SoundAt (state.settledAt input) := by
  have order : state.now ≤ state.requestedAt input := by
    simp only [requestedAt, receivedAt]
    omega
  have settled : state.requestedAt input ≤ state.settledAt input := by
    simp only [settledAt, checkedAt]
    omega
  simp only [SolarRuntime.maintainSolar] at maintains
  split at maintains
  next =>
    cases maintains
    exact sound.later (order.trans settled)
  next isEnabled =>
    have enabled : state.solarEnabled = true := by simpa using isEnabled
    obtain ⟨⟨gate, opened⟩, approaches, continues⟩ := Results.bind_eq_ok.mp maintains
    cases opened with
    | true =>
      have requested := (approach_opened sound enabled approaches).requestLocation order
      exact (requested.checked continues).later settled
    | false =>
      cases continues
      obtain ⟨received, receives, ⟨_, isGate, _⟩ | ⟨_, _, isGate⟩⟩ := approach_ok approaches
      · rw [isGate]
        exact (sound.receiveResults receives).later (order.trans settled)
      · have receivedSound := sound.receiveResults receives
        rcases received.startResolver_cases input.spawned with
          ⟨_, _, _, _, _, starts⟩ | ⟨isNone, starts⟩ | ⟨_, starts⟩
        · cases isGate.trans starts
        · cases isGate.trans starts
          refine ⟨?_, ?_, ?_, receivedSound.unstarted, ?_⟩ <;> intros <;> simp_all
        · cases isGate.trans starts

theorem decoded_now {state decoded : SolarRuntime Location} {input : SolarInput}
    (decodes : state.decoded input = .ok decoded) : decoded.now = state.now := by
  simp only [SolarRuntime.decoded] at decodes
  obtain ⟨_, _, continues⟩ := Results.bind_eq_ok.mp decodes
  obtain ⟨_, _, isDecoded⟩ := Results.bind_eq_ok.mp continues
  cases isDecoded
  rfl

theorem SoundAt.maintain {state next : SolarRuntime Location} {input : SolarInput} {drawn : List Nat}
    (sound : state.SoundAt state.now) (admitted : state.admits input = true)
    (maintains : state.maintain geography input = .ok (next, drawn)) : next.SoundAt next.now := by
  obtain ⟨decoded, solar, runtime, decodes, isSolar, rfl⟩ := maintain_ok maintains
  have unmoved := decoded_now decodes
  have decodedSound : decoded.SoundAt decoded.now := unmoved ▸ sound.decoded admitted decodes
  have solarSound := decodedSound.maintainSolar isSolar
  have settled : decoded.settledAt input = state.settledAt input := by
    simp only [settledAt, checkedAt, requestedAt, receivedAt, unmoved]
  rw [settled] at solarSound
  exact ⟨solarSound.resolver, solarSound.terminal, solarSound.due, solarSound.unstarted, solarSound.started⟩

/-- The steps besides those of the pass leave what is known about the location alone. -/
theorem next_cases {state next : SolarRuntime Location} {label : SolarLabel Location}
    (steps : state.next geography label = some next) :
    (∃ event handled, label = .event event ∧ state.runtime.handle event = some handled ∧
      next = { state with runtime := handled.1 }) ∨
    (∃ input drawn, label = .pass input ∧ state.admits input = true ∧
      state.maintain geography input = .ok (next, drawn)) ∨
    (∃ step resolver advanced, label = .thread step ∧ state.solarResolver = some resolver ∧
      resolver.advance step = some advanced ∧ next = { state with solarResolver := some advanced }) ∨
    ∃ elapsed, label = .wait elapsed ∧ next = { state with now := state.now + elapsed } := by
  cases label with
  | event event =>
    cases event with
    | maintain input => contradiction
    | newOutput | updateOutput | outputDestroyed | closed | configure | scaleFactorChanged | transformChanged
    | frame | resumeTimer =>
      simp only [SolarRuntime.next] at steps
      obtain ⟨handled, handles, isNext⟩ := Option.map_eq_some_iff.mp steps
      exact .inl ⟨_, handled, rfl, handles, isNext.symm⟩
  | pass input =>
    simp only [SolarRuntime.next, Option.ite_none_right_eq_some] at steps
    obtain ⟨admitted, steps⟩ := steps
    obtain ⟨result, maintains, isNext⟩ := Option.map_eq_some_iff.mp steps
    have succeeds := Results.toOption_eq_some.mp maintains
    cases isNext
    exact .inr (.inl ⟨input, result.2, rfl, admitted, succeeds⟩)
  | thread step =>
    simp only [SolarRuntime.next] at steps
    split at steps
    next => contradiction
    next resolver isResolver =>
      obtain ⟨advanced, advances, isNext⟩ := Option.map_eq_some_iff.mp steps
      exact .inr (.inr (.inl ⟨step, resolver, advanced, rfl, isResolver, advances, isNext.symm⟩))
  | wait elapsed =>
    cases steps
    exact .inr (.inr (.inr ⟨elapsed, rfl, rfl⟩))

theorem SoundAt.next {state next : SolarRuntime Location} {label : SolarLabel Location}
    (sound : state.SoundAt state.now) (steps : state.next geography label = some next) :
    next.SoundAt next.now := by
  rcases next_cases steps with ⟨_, handled, _, _, rfl⟩ | ⟨input, drawn, _, admitted, maintains⟩ |
    ⟨step, resolver, advanced, _, isResolver, advances, rfl⟩ | ⟨elapsed, _, rfl⟩
  · exact ⟨sound.resolver, sound.terminal, sound.due, sound.unstarted, sound.started⟩
  · exact sound.maintain admitted maintains
  · obtain ⟨advancedSound, flying, load⟩ := (sound.resolver resolver isResolver).advance advances
    apply SoundAt.of_resolver rfl advancedSound
    · exact fun isTerminal => flying.trans (sound.terminal isTerminal resolver isResolver)
    · exact fun loaded => sound.due resolver isResolver (Nat.lt_of_lt_of_le loaded load)
    · exact sound.started resolver isResolver
  · have later := sound.later (Nat.le_add_right state.now elapsed)
    exact ⟨later.resolver, later.terminal, later.due, later.unstarted, later.started⟩

theorem reachable_sound {state : SolarRuntime Location} (reachable : (solarSystem geography).Reachable state) :
    state.SoundAt state.now := by
  refine reachable.invariant (fun state => state.SoundAt state.now) ?_ ?_
  · rintro start ⟨_, enabled, now, isStart⟩
    rw [isStart]
    exact ⟨fun _ isResolver => by contradiction, fun isTerminal => by contradiction,
      fun _ isResolver => by contradiction, fun _ => ⟨rfl, rfl, rfl⟩, fun _ isResolver => by contradiction⟩
  · intro state label next sound steps
    exact sound.next steps

end SolarRuntime

end Genkan.DesktopWallpaper
