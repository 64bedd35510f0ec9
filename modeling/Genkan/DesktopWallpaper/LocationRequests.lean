import Genkan.DesktopWallpaper.SolarPasses
import Genkan.DesktopWallpaper.Dissolve

/-! # When the location is asked for

A request leaves only through the open gate of a pass, and what the worker has answered before keeps
the gate shut: for good after a refusal, else until a deadline has passed.
-/

namespace Genkan.DesktopWallpaper

open Foundations DynamicWallpaper

variable {Location : Type} {geography : Geography Location}

/-- How long a result keeps the next request back; none if there is to be no other. -/
def SolarResult.delay : SolarResult Location → Option Nat
  | .located _ => some locationRefresh
  | .failed error => if error.isRetryable then some locationRetry else none

namespace SolarRuntime

/-- The state in which the pass asks the worker for a location; none if it does not. -/
def dispatching (geography : Geography Location) (state : SolarRuntime Location) (input : SolarInput) :
    Option (SolarRuntime Location) := do
  let decoded ← (state.decoded input).toOption
  if decoded.solarEnabled then
    let (gate, opened) ← (decoded.approach geography input (decoded.receivedAt input)).toOption
    if opened && gate.requests (decoded.requestedAt input) then some gate else none
  else none

theorem dispatching_eq_some {state gate : SolarRuntime Location} {input : SolarInput} :
    state.dispatching geography input = some gate ↔
      ∃ decoded, state.decoded input = .ok decoded ∧ decoded.solarEnabled = true ∧
        decoded.approach geography input (decoded.receivedAt input) = .ok (gate, true) ∧
        gate.requests (decoded.requestedAt input) = true := by
  simp only [dispatching, Option.bind_eq_bind, Option.bind_eq_some_iff, Results.toOption_eq_some]
  constructor
  · rintro ⟨decoded, decodes, continues⟩
    rw [Option.ite_none_right_eq_some, Option.bind_eq_some_iff] at continues
    obtain ⟨enabled, ⟨found, opened⟩, approaches, continues⟩ := continues
    rw [Option.ite_none_right_eq_some, Bool.and_eq_true] at continues
    obtain ⟨⟨isOpen, requests⟩, isGate⟩ := continues
    cases isGate
    cases isOpen
    exact ⟨decoded, decodes, enabled, Results.toOption_eq_some.mp approaches, requests⟩
  · rintro ⟨decoded, decodes, enabled, approaches, requests⟩
    refine ⟨decoded, decodes, ?_⟩
    rw [if_pos enabled, Results.toOption_eq_some.mpr approaches]
    simp [requests]

/-- Every result that the pass finds allows a request at the given moment. -/
def Allows (state : SolarRuntime Location) (input : SolarInput) (requested : Nat) : Prop :=
  ∀ result ∈ state.waiting, ∃ delay, result.delay = some delay ∧ state.receivedAt input + delay ≤ requested

/-! ## What a pass does to the deadline -/

/-- A request at the moment would be too late for nobody: the moment has come, or a deadline that is
not earlier is set. -/
def Awaits (deadline : Nat) (state : SolarRuntime Location) : Prop :=
  deadline ≤ state.now ∨ ∃ refresh, state.nextLocationRefresh = some refresh ∧ deadline ≤ refresh

/-- A pass moves a deadline only if it has passed. -/
structure Paced (now received : Nat) (state after : SolarRuntime Location) : Prop where
  delayed : ∀ result ∈ state.waiting, ∀ delay, result.delay = some delay →
    after.nextLocationRefresh = some (received + delay)
  refused : ∀ result ∈ state.waiting, result.delay = none → after.solarTerminal = true
  kept : after.nextLocationRefresh = state.nextLocationRefresh ∨
    ∀ deadline, state.nextLocationRefresh = some deadline → deadline ≤ now
  terminal : state.solarTerminal = true → after.solarTerminal = true

theorem Paced.trans {now received : Nat} {state after final : SolarRuntime Location}
    (paced : Paced now received state after)
    (kept : final.nextLocationRefresh = after.nextLocationRefresh)
    (terminal : after.solarTerminal = true → final.solarTerminal = true) : Paced now received state final where
  delayed result member delay isDelay := kept.trans (paced.delayed result member delay isDelay)
  refused result member isNone := terminal (paced.refused result member isNone)
  kept := paced.kept.imp_left kept.trans
  terminal isTerminal := terminal (paced.terminal isTerminal)

theorem settle_paced (state : SolarRuntime Location) (received : Nat) (result : SolarResult Location) :
    (∀ delay, result.delay = some delay →
      (state.settle received result).nextLocationRefresh = some (received + delay)) ∧
    (result.delay = none → (state.settle received result).solarTerminal = true) ∧
    (state.solarTerminal = true → (state.settle received result).solarTerminal = true) := by
  cases result with
  | located location =>
    refine ⟨?_, fun isNone => by contradiction, id⟩
    intro delay isDelay
    cases isDelay
    rfl
  | failed error =>
    simp only [SolarResult.delay, settle]
    by_cases retryable : error.isRetryable = true
    · simp only [if_pos retryable]
      refine ⟨?_, fun isNone => by contradiction, id⟩
      intro delay isDelay
      cases isDelay
      rfl
    · simp only [if_neg retryable]
      exact ⟨fun _ isDelay => by contradiction, fun _ => trivial, fun _ => trivial⟩

theorem receiveResults_paced {now received : Nat} {state after : SolarRuntime Location} {input : SolarInput}
    (sound : state.SoundAt now)
    (receives : receiveResults geography input received state state.waiting = .ok after) :
    Paced now received state after := by
  rcases receiveResults_cases sound receives with
    ⟨empty, rfl⟩ | ⟨resolver, result, runtime, mapped, isResolver, holds, _, _, rfl⟩
  · refine ⟨?_, ?_, .inl rfl, id⟩ <;> simp [empty]
  · have isWaiting : state.waiting = [result] := by simp [waiting, isResolver, holds]
    obtain ⟨delayed, refused, terminal⟩ := state.settle_paced received result
    refine ⟨?_, ?_, .inr ?_, terminal⟩
    · intro other member
      rw [isWaiting, List.mem_singleton] at member
      exact member ▸ delayed
    · intro other member
      rw [isWaiting, List.mem_singleton] at member
      exact member ▸ refused
    · -- Whoever has an answer was asked after the deadline.
      refine sound.due resolver isResolver ?_
      simp [SolarResolver.load, holds]

theorem approach_paced {now received : Nat} {state gate : SolarRuntime Location} {input : SolarInput}
    {opened : Bool} (sound : state.SoundAt now)
    (approaches : state.approach geography input received = .ok (gate, opened)) :
    Paced now received state gate := by
  obtain ⟨after, receives, ⟨_, isGate, _⟩ | ⟨_, _, isGate⟩⟩ := approach_ok approaches
  · exact isGate ▸ receiveResults_paced sound receives
  · have paced := receiveResults_paced sound receives
    rcases after.startResolver_cases input.spawned with
      ⟨_, _, _, _, _, starts⟩ | ⟨_, starts⟩ | ⟨_, starts⟩ <;> cases isGate.trans starts
    · exact paced.trans rfl id
    · exact paced.trans rfl fun _ => rfl
    · exact paced

/-- Without a worker there is nothing to receive. -/
theorem SoundAt.waiting_nil {now : Nat} {state : SolarRuntime Location} (sound : state.SoundAt now)
    (disabled : state.solarEnabled = false) : state.waiting = [] := by
  cases isResolver : state.solarResolver with
  | none => simp [waiting, isResolver]
  | some resolver =>
    have enabled := (sound.started resolver isResolver).1
    rw [disabled] at enabled
    contradiction

theorem maintainSolar_paced {state after : SolarRuntime Location} {input : SolarInput}
    (sound : state.SoundAt state.now) (maintains : state.maintainSolar geography input = .ok after) :
    Paced state.now (state.receivedAt input) state after := by
  simp only [SolarRuntime.maintainSolar] at maintains
  split at maintains
  next isDisabled =>
    cases maintains
    have empty := sound.waiting_nil (by simpa using isDisabled)
    refine ⟨?_, ?_, .inl rfl, id⟩ <;> simp [empty]
  next =>
    obtain ⟨⟨gate, opened⟩, approaches, continues⟩ := Results.bind_eq_ok.mp maintains
    have paced := approach_paced sound approaches
    cases opened with
    | true =>
      obtain ⟨resolver, requested, terminal, stays, isRequested⟩ :=
        gate.requestLocation_frame (state.requestedAt input)
      obtain ⟨runtime, mapped, nextSolarCheck, _, rfl⟩ := checkMapping_ok continues
      simp only [isRequested]
      exact paced.trans rfl stays
    | false =>
      cases continues
      exact paced

theorem pass_paced {state next : SolarRuntime Location} {input : SolarInput} {drawn : List Nat}
    (sound : state.SoundAt state.now) (admitted : state.admits input = true)
    (maintains : state.maintain geography input = .ok (next, drawn)) :
    Paced state.now (state.receivedAt input) state next := by
  obtain ⟨decoded, solar, runtime, decodes, isSolar, rfl⟩ := maintain_ok maintains
  have decodedSound := sound.decoded admitted decodes
  obtain ⟨_, _, rfl, _⟩ := decoded_ok admitted decodes
  have paced := maintainSolar_paced decodedSound isSolar
  exact ⟨paced.delayed, paced.refused, paced.kept, paced.terminal⟩

/-! ## Runs -/

theorem Awaits.next {deadline : Nat} {state next : SolarRuntime Location} {label : SolarLabel Location}
    (awaits : state.Awaits deadline) (sound : state.SoundAt state.now)
    (steps : state.next geography label = some next) : next.Awaits deadline := by
  rcases next_cases steps with ⟨_, _, _, _, rfl⟩ | ⟨input, drawn, _, admitted, maintains⟩ |
    ⟨_, _, _, _, _, _, rfl⟩ | ⟨elapsed, _, rfl⟩
  · exact awaits
  · have order : state.now ≤ next.now := by
      obtain ⟨_, _, _, _, _, rfl⟩ := maintain_ok maintains
      simp only [settledAt, checkedAt, requestedAt, receivedAt]
      omega
    rcases awaits with passed | ⟨refresh, isRefresh, later⟩
    · exact .inl (passed.trans order)
    · rcases (pass_paced sound admitted maintains).kept with kept | passed
      · exact .inr ⟨refresh, kept.trans isRefresh, later⟩
      · exact .inl ((later.trans (passed refresh isRefresh)).trans order)
  · exact awaits
  · exact awaits.imp_left fun passed => passed.trans (Nat.le_add_right state.now elapsed)

theorem terminal_next {state next : SolarRuntime Location} {label : SolarLabel Location}
    (isTerminal : state.solarTerminal = true) (sound : state.SoundAt state.now)
    (steps : state.next geography label = some next) : next.solarTerminal = true := by
  rcases next_cases steps with ⟨_, _, _, _, rfl⟩ | ⟨input, drawn, _, admitted, maintains⟩ |
    ⟨_, _, _, _, _, _, rfl⟩ | ⟨elapsed, _, rfl⟩
  · exact isTerminal
  · exact (pass_paced sound admitted maintains).terminal isTerminal
  · exact isTerminal
  · exact isTerminal

/-- A pass that sends a request does so after every deadline. -/
theorem dispatching_allowed {state gate : SolarRuntime Location} {input : SolarInput}
    (dispatches : state.dispatching geography input = some gate) (sound : state.SoundAt state.now)
    (admitted : state.admits input = true) :
    gate.solarEnabled = true ∧ gate.Gated ∧ state.solarTerminal = false ∧
      state.Allows input (state.requestedAt input) ∧
      ∀ deadline, state.Awaits deadline → deadline ≤ state.requestedAt input := by
  obtain ⟨decoded, decodes, enabled, approaches, requests⟩ := dispatching_eq_some.mp dispatches
  have decodedSound := sound.decoded admitted decodes
  obtain ⟨runtime, metadata, rfl, _⟩ := decoded_ok admitted decodes
  have opened := approach_opened decodedSound enabled approaches
  have gated := opened.gated requests
  have paced := approach_paced decodedSound approaches
  obtain ⟨_, due, _, _⟩ := requests_ready requests
  have gateEnabled : gate.solarEnabled = true := by
    rcases opened.worker with fresh | ⟨gateSound, _⟩
    · exact fresh.enabled
    · obtain ⟨resolver, isResolver, _⟩ := gated.idle
      exact (gateSound.started resolver isResolver).1
  refine ⟨gateEnabled, gated, ?_, ?_, ?_⟩
  · -- The flag is never taken back, and the gate asks for its absence.
    by_contra isTerminal
    have closed := paced.terminal (by simpa using isTerminal)
    rw [gated.terminal] at closed
    contradiction
  · intro result member
    cases isDelay : result.delay with
    | none =>
      have closed := paced.refused result member isDelay
      rw [gated.terminal] at closed
      contradiction
    | some delay => exact ⟨delay, rfl, due _ (paced.delayed result member delay isDelay)⟩
  · -- A deadline that has not passed at the start is the one that the gate checks.
    intro deadline awaits
    have order : state.now ≤ state.requestedAt input := by
      simp only [requestedAt, receivedAt]
      omega
    rcases awaits with passed | ⟨refresh, isRefresh, later⟩
    · exact passed.trans order
    · cases paced.kept with
      | inl kept => exact later.trans (due refresh (kept.trans isRefresh))
      | inr passed => exact (later.trans (passed refresh isRefresh)).trans order

/-! ## Commands -/

theorem approach_commanded {now received : Nat} {state gate : SolarRuntime Location} {input : SolarInput}
    {opened : Bool} (sound : state.SoundAt now)
    (approaches : state.approach geography input received = .ok (gate, opened))
    {resolver : SolarResolver Location} (isResolver : gate.solarResolver = some resolver)
    (commanded : resolver.command = true) :
    ∃ before, state.solarResolver = some before ∧ before.command = true := by
  obtain ⟨after, receives, isGate⟩ := approach_ok approaches
  have receivedCommanded : after.solarResolver = some resolver →
      ∃ before, state.solarResolver = some before ∧ before.command = true := by
    intro isAfter
    rcases receiveResults_cases sound receives with ⟨empty, rfl⟩ | ⟨before, _, _, _, isBefore, _, _, _, rfl⟩
    · obtain ⟨before, isBefore, isReceived⟩ := Option.map_eq_some_iff.mp isAfter
      have nothing : before.results = [] := by simpa [waiting, isBefore] using empty
      rw [SolarResolver.receive_of_nil nothing] at isReceived
      cases isReceived
      exact ⟨before, isBefore, commanded⟩
    · cases isAfter
      exact ⟨before, isBefore, commanded⟩
  rcases isGate with ⟨_, isGate, _⟩ | ⟨_, _, isGate⟩
  · exact receivedCommanded (isGate ▸ isResolver)
  · rcases after.startResolver_cases input.spawned with
      ⟨started, _, _, _, spawns, starts⟩ | ⟨_, starts⟩ | ⟨_, starts⟩ <;> cases isGate.trans starts
    · -- A worker that is started here has no command yet.
      cases isResolver
      have silent := (SolarResolver.spawn_idle spawns).2.1
      simp [SolarResolver.requesting, commanded] at silent
    · exact receivedCommanded isResolver
    · exact receivedCommanded isResolver

/-- A command reaches the queue only by a pass that asks. -/
theorem commanded_next {state next : SolarRuntime Location} {label : SolarLabel Location}
    (sound : state.SoundAt state.now) (steps : state.next geography label = some next)
    {resolver : SolarResolver Location} (isResolver : next.solarResolver = some resolver)
    (commanded : resolver.command = true) :
    (∃ before, state.solarResolver = some before ∧ before.command = true) ∨
      ∃ input, label = .pass input ∧ (state.dispatching geography input).isSome = true := by
  rcases next_cases steps with ⟨_, _, _, _, rfl⟩ | ⟨input, drawn, isLabel, admitted, maintains⟩ |
    ⟨step, before, advanced, _, isBefore, advances, rfl⟩ | ⟨elapsed, _, rfl⟩
  · exact .inl ⟨resolver, isResolver, commanded⟩
  · obtain ⟨decoded, solar, runtime, decodes, isSolar, rfl⟩ := maintain_ok maintains
    have decodedSound := sound.decoded admitted decodes
    have sameResolver : decoded.solarResolver = state.solarResolver := by
      obtain ⟨_, _, rfl, _⟩ := decoded_ok admitted decodes
      rfl
    rw [← sameResolver]
    simp only [SolarRuntime.maintainSolar] at isSolar
    split at isSolar
    next =>
      cases isSolar
      exact .inl ⟨resolver, isResolver, commanded⟩
    next isEnabled =>
      obtain ⟨⟨gate, opened⟩, approaches, continues⟩ := Results.bind_eq_ok.mp isSolar
      have enabled : decoded.solarEnabled = true := by simpa using isEnabled
      cases opened with
      | false =>
        cases continues
        exact .inl (approach_commanded decodedSound approaches isResolver commanded)
      | true =>
        obtain ⟨_, _, _, _, rfl⟩ := checkMapping_ok continues
        by_cases requests : gate.requests (decoded.requestedAt input) = true
        · have dispatches := dispatching_eq_some.mpr ⟨decoded, decodes, enabled, approaches, requests⟩
          exact .inr ⟨input, isLabel, by rw [dispatches]; rfl⟩
        · simp only [SolarRuntime.requestLocation, if_neg requests] at isResolver
          exact .inl (approach_commanded decodedSound approaches isResolver commanded)
  · cases isResolver
    exact .inl ⟨before, isBefore, before.advance_command advances commanded⟩
  · exact .inl ⟨resolver, isResolver, commanded⟩

end SolarRuntime

/-- A command reaches the worker only by a pass that asks, and such a pass asks through the open gate:
no pass has found a refusal, and what the passes have found allows a request by now. -/
theorem location_requests_gated (run : (solarSystem geography).Run) :
    (∀ index < run.length, ∀ resolver, (run.state (index + 1)).solarResolver = some resolver →
      resolver.command = true →
      (∃ before, (run.state index).solarResolver = some before ∧ before.command = true) ∨
        ∃ input, run.label index = .pass input ∧
          ((run.state index).dispatching geography input).isSome = true) ∧
    ∀ index ≤ run.length, ∀ input gate, (run.state index).admits input = true →
      (run.state index).dispatching geography input = some gate →
      gate.solarEnabled = true ∧ gate.Gated ∧
        (∀ earlier ≤ index, (run.state earlier).solarTerminal = false) ∧
        (run.state index).Allows input ((run.state index).requestedAt input) ∧
        ∀ earlier < index, ∀ earlierInput, run.label earlier = .pass earlierInput →
          (run.state earlier).Allows earlierInput ((run.state index).requestedAt input) := by
  have sounds : ∀ index ≤ run.length, (run.state index).SoundAt (run.state index).now := by
    intro index bound
    exact SolarRuntime.reachable_sound (run.reachable index bound)
  constructor
  · intro index bound resolver isResolver commanded
    exact SolarRuntime.commanded_next (sounds index (by omega)) (run.steps index bound) isResolver commanded
  intro index bound input gate admitted dispatches
  obtain ⟨enabled, gated, unterminated, allows, timely⟩ :=
    SolarRuntime.dispatching_allowed dispatches (sounds index bound) admitted
  have unrefused : ∀ earlier ≤ index, (run.state earlier).solarTerminal = false := by
    intro earlier order
    by_contra isTerminal
    have stays := run.stays (fun state => state.solarTerminal = true) order bound
      (fun between _ before holds => SolarRuntime.terminal_next holds (sounds between (by omega))
        (run.steps between (by omega))) (by simpa using isTerminal)
    rw [unterminated] at stays
    contradiction
  refine ⟨enabled, gated, unrefused, allows, ?_⟩
  intro earlier order earlierInput isLabel result member
  have steps := run.steps earlier (by omega)
  rw [isLabel] at steps
  obtain ⟨_, _, isEvent, _⟩ | ⟨passed, drawn, isPass, passAdmitted, maintains⟩ | ⟨_, _, _, isThread, _⟩ |
    ⟨_, isWait, _⟩ := SolarRuntime.next_cases steps
  · contradiction
  · cases isPass
    have paced := SolarRuntime.pass_paced (sounds earlier (by omega)) passAdmitted maintains
    cases isDelay : result.delay with
    | none =>
      have refused := paced.refused result member isDelay
      rw [unrefused (earlier + 1) (by omega)] at refused
      contradiction
    | some delay =>
      refine ⟨delay, rfl, ?_⟩
      have awaits : (run.state (earlier + 1)).Awaits ((run.state earlier).receivedAt earlierInput + delay) :=
        .inr ⟨_, paced.delayed result member delay isDelay, Nat.le_refl _⟩
      refine timely _ (run.stays (SolarRuntime.Awaits _) order bound ?_ awaits)
      intro between _ before holds
      exact holds.next (sounds between (by omega)) (run.steps between (by omega))
  · contradiction
  · contradiction

/-! ## A timeout is retried after ten minutes -/

def solarMetadata : Metadata where
  solar := .valid
    { points := [{ image := ⟨0⟩, position := ⟨0, 90, SolarPosition.validAltitude_zero, by norm_num⟩ }]
      appearance := none
      nonempty := by simp }

def sampleGeography : Geography Nat where
  mapSolar _ _ _ := some samplePoints
  meaningfulLocationChange previous location := previous != location

def solarPass (clock : ClockSnapshot) (seconds : Nat) (worker : TryReceive) : SolarInput where
  pass := samplePass clock seconds worker []
  untilReceived := 0
  located := sampleMoment clock seconds
  spawned := .started
  untilRequested := 0
  untilChecked := 0
  check := sampleMoment clock seconds
  mapping := sampleMoment clock seconds
  untilSettled := 0

def startSolar : SolarRuntime Nat where
  runtime := startRuntime
  solarEnabled := true
  solarResolver := none
  solarRequested := false
  solarTerminal := false
  metadata := none
  location := none
  nextLocationRefresh := none
  nextSolarCheck := none
  mapped := none
  now := 0

instance : Inhabited (SolarLabel Nat) := ⟨.wait 0⟩

def morning : ClockSnapshot := sampleClock 11 0 (by decide)

/-- The first frame of a wallpaper with a solar schedule, and the first answer of the worker. -/
def answerLabels (result : SolarResult Nat) : List (SolarLabel Nat) :=
  [.pass (solarPass morning 0 (.received (.initialized solarMetadata ⟨0⟩))),
    .pass (solarPass morning 0 (.received (.decoded ⟨0, ⟨0⟩⟩ (some (sampleFrame 10))))),
    .thread (.build true), .thread .take, .thread (.answer result), .thread .report,
    .pass (solarPass morning 0 .empty)]

def timeoutLabels : List (SolarLabel Nat) := answerLabels (.failed .timeout) ++ [.wait locationRetry]

theorem startSolar_initial : (solarSystem sampleGeography).initial startSolar := ⟨⟨_, _, _, rfl⟩, true, 0, rfl⟩

def timeoutRun : (solarSystem sampleGeography).Run :=
  TransitionSystem.runOfLabels startSolar startSolar_initial timeoutLabels (by decide +kernel)

def timeoutPass : SolarInput := solarPass (sampleClock 11 10 (by decide)) 600 .empty

theorem location_requests_gated_sample :
    ∃ gate, (timeoutRun.state 8).dispatching sampleGeography timeoutPass = some gate ∧ gate.Gated ∧
      (timeoutRun.state 6).waiting.length = 1 ∧
      (timeoutRun.state 6).Allows (solarPass morning 0 .empty) ((timeoutRun.state 8).requestedAt timeoutPass) := by
  have dispatches : ((timeoutRun.state 8).dispatching sampleGeography timeoutPass).isSome = true := by decide +kernel
  obtain ⟨gate, isGate⟩ := Option.isSome_iff_exists.mp dispatches
  obtain ⟨_, gated, _, _, allowed⟩ :=
    (location_requests_gated timeoutRun).2 8 (Nat.le_refl 8) timeoutPass gate (by decide +kernel) isGate
  exact ⟨gate, isGate, gated, by decide +kernel, allowed 6 (by decide) _ rfl⟩

end Genkan.DesktopWallpaper
