import Genkan.DesktopWallpaper.LocationRequests

/-! # How long the solar schedule stays current

A pass keeps the mapping current as long as its gate is open.  A refusal shuts the gate for good, as
does a worker that has died, and then the mapping of that day remains.
-/

namespace Genkan.DesktopWallpaper

open Foundations DynamicWallpaper

variable {Location : Type} {geography : Geography Location}

namespace SolarRuntime

/-! ## Passes of the event loop -/

theorem approach_installs {now received : Nat} {state gate : SolarRuntime Location} {input : SolarInput}
    {opened : Bool} (sound : state.SoundAt now)
    (approaches : state.approach geography input received = .ok (gate, opened)) :
    state.runtime.Installs gate.runtime := by
  obtain ⟨after, receives, isGate⟩ := approach_ok approaches
  have installs : state.runtime.Installs after.runtime := by
    rcases receiveResults_cases sound receives with ⟨_, rfl⟩ | ⟨_, _, _, _, _, _, installs, _, rfl⟩
    · exact .refl _
    · exact installs
  rcases isGate with ⟨_, isGate, _⟩ | ⟨_, _, isGate⟩
  · exact isGate ▸ installs
  · rcases after.startResolver_cases input.spawned with
      ⟨_, _, _, _, _, starts⟩ | ⟨_, starts⟩ | ⟨_, starts⟩ <;> cases isGate.trans starts <;> exact installs

theorem maintainSolar_installs {now : Nat} {state after : SolarRuntime Location} {input : SolarInput}
    (sound : state.SoundAt now) (maintains : state.maintainSolar geography input = .ok after) :
    state.runtime.Installs after.runtime := by
  simp only [SolarRuntime.maintainSolar] at maintains
  split at maintains
  next =>
    cases maintains
    exact .refl _
  next =>
    obtain ⟨⟨gate, opened⟩, approaches, continues⟩ := Results.bind_eq_ok.mp maintains
    have installs := approach_installs sound approaches
    cases opened with
    | true =>
      obtain ⟨runtime, mapped, nextSolarCheck, further, rfl⟩ := checkMapping_ok continues
      obtain ⟨_, _, _, _, isRequested⟩ := gate.requestLocation_frame (state.requestedAt input)
      rw [isRequested] at further
      exact installs.trans further
    | false =>
      cases continues
      exact installs

/-- A pass is one of the event loop, with the schedules that it installs. -/
theorem maintain_refines {now : Nat} {state next : SolarRuntime Location} {input : SolarInput} {drawn : List Nat}
    (sound : state.SoundAt now) (admitted : state.admits input = true)
    (maintains : state.maintain geography input = .ok (next, drawn)) :
    ∃ solar, state.runtime.maintain { input.pass with solar } = .ok (next.runtime, drawn) := by
  simp only [SolarRuntime.maintain] at maintains
  obtain ⟨decoded, decodes, continues⟩ := Results.bind_eq_ok.mp maintains
  obtain ⟨after, isSolar, continues⟩ := Results.bind_eq_ok.mp continues
  obtain ⟨prepared, prepares, isNext⟩ := Results.bind_eq_ok.mp continues
  obtain ⟨solar, installs⟩ := maintainSolar_installs (sound.decoded admitted decodes) isSolar
  simp only [SolarRuntime.decoded] at decodes
  obtain ⟨synchronized, synchronizes, continues⟩ := Results.bind_eq_ok.mp decodes
  obtain ⟨received, receives, isDecoded⟩ := Results.bind_eq_ok.mp continues
  cases isNext
  cases isDecoded
  refine ⟨solar, ?_⟩
  simp only [Runtime.maintain]
  refine Results.bind_eq_ok.mpr ⟨synchronized, synchronizes, ?_⟩
  refine Results.bind_eq_ok.mpr ⟨received, receives, ?_⟩
  refine Results.bind_eq_ok.mpr ⟨after.runtime, installs, ?_⟩
  exact Results.bind_eq_ok.mpr ⟨prepared, prepares, rfl⟩

/-- What the event loop never does, it does not do with a location either. -/
theorem reachable_runtime {state : SolarRuntime Location} (reachable : (solarSystem geography).Reachable state) :
    desktopSystem.Reachable state.runtime := by
  induction reachable with
  | initial starts => exact .initial starts.1
  | @step state next label reached steps inductionHypothesis =>
    rcases next_cases steps with ⟨event, handled, _, handles, rfl⟩ | ⟨input, drawn, _, admitted, maintains⟩ |
      ⟨_, _, _, _, _, _, rfl⟩ | ⟨_, _, rfl⟩
    · exact .step inductionHypothesis (Option.map_eq_some_iff.mpr ⟨handled, handles, rfl⟩)
    · obtain ⟨solar, refines⟩ := maintain_refines (reachable_sound reached) admitted maintains
      have pass : desktopSystem.step state.runtime (.maintain { input.pass with solar }) next.runtime :=
        Option.map_eq_some_iff.mpr ⟨_, Results.toOption_eq_some.mpr refines, rfl⟩
      exact .step inductionHypothesis pass
    · exact inductionHypothesis
    · exact inductionHypothesis

/-! ## The mapping of a pass -/

/-- The gate of the pass is open: no refusal has been received, and none waits. -/
def Opens (state : SolarRuntime Location) : Prop :=
  state.solarTerminal = false ∧ ∀ result ∈ state.waiting, result.delay ≠ none

/-- The mapping was last attempted for the date and the offset of a clock of the pass. -/
def Current (state : SolarRuntime Location) (input : SolarInput) : Prop :=
  ∃ clock, (input.check.clock = some clock ∨ input.mapping.clock = some clock) ∧ state.mapped = some (stamp clock)

theorem currentClock_ok {moment : Moment} {clock : ClockSnapshot} (reads : moment.currentClock = .ok clock) :
    moment.clock = some clock := by
  simp only [Moment.currentClock] at reads
  split at reads
  next found isClock =>
    cases reads
    exact isClock
  next => contradiction

theorem installSolarMapping_mapped {state after : SolarRuntime Location} {moment : Moment}
    (installs : state.installSolarMapping geography moment = .ok after)
    (permits : state.runtime.appearance.permitsSolar = true) (located : state.location.isSome = true)
    (solar : state.hasSolarSchedule = true) :
    ∃ clock, moment.clock = some clock ∧ after.mapped = some (stamp clock) := by
  obtain ⟨location, isLocation⟩ := Option.isSome_iff_exists.mp located
  cases isMetadata : state.metadata with
  | none => simp [hasSolarSchedule, isMetadata] at solar
  | some metadata =>
    simp only [installSolarMapping, permits, isLocation, isMetadata] at installs
    obtain ⟨clock, reads, continues⟩ := Results.bind_eq_ok.mp installs
    obtain ⟨runtime, _, isAfter⟩ := Results.bind_eq_ok.mp continues
    cases isAfter
    exact ⟨clock, currentClock_ok reads, rfl⟩

theorem checkMapping_current {state after : SolarRuntime Location} {input : SolarInput} {checked settled : Nat}
    (checks : state.checkMapping geography input checked settled = .ok after)
    (due : state.checkDue checked = true) (permits : state.runtime.appearance.permitsSolar = true)
    (located : state.location.isSome = true) (solar : state.hasSolarSchedule = true) : after.Current input := by
  simp only [checkMapping, if_pos due] at checks
  obtain ⟨clock, reads, continues⟩ := Results.bind_eq_ok.mp checks
  split at continues
  next =>
    obtain ⟨read, isRead, isMapped⟩ := installSolarMapping_mapped continues permits located solar
    exact ⟨read, .inr isRead, isMapped⟩
  next undue =>
    cases continues
    refine ⟨clock, .inl (currentClock_ok reads), ?_⟩
    by_contra changed
    apply undue
    simp only [solarMappingDue, permits, Bool.true_and, Bool.and_eq_true, bne_iff_ne]
    exact ⟨⟨solar, located⟩, changed⟩

/-- A gate that is shut leaves the mapping alone. -/
theorem receiveResults_shut {now received : Nat} {state after : SolarRuntime Location} {input : SolarInput}
    (sound : state.SoundAt now) (shut : after.solarTerminal = true)
    (receives : receiveResults geography input received state state.waiting = .ok after) :
    ¬ state.Opens ∧ after.mapped = state.mapped := by
  rcases receiveResults_cases sound receives with
    ⟨empty, rfl⟩ | ⟨resolver, result, runtime, mapped, isResolver, holds, _, keeps, rfl⟩
  · refine ⟨?_, rfl⟩
    intro opens
    have isTerminal : state.solarTerminal = true := shut
    rw [opens.1] at isTerminal
    contradiction
  · have isWaiting : state.waiting = [result] := by simp [waiting, isResolver, holds]
    cases result with
    | located location =>
      have idle := (sound.resolver resolver isResolver).idle (sound.terminal shut resolver isResolver)
      simp [holds] at idle
    | failed error =>
      refine ⟨?_, keeps error rfl⟩
      rintro ⟨unterminated, unrefused⟩
      have accepted := unrefused (.failed error) (by simp [isWaiting])
      have retryable : error.isRetryable = true := by
        by_contra refused
        exact accepted (if_neg refused)
      simp [settle, retryable, unterminated] at shut

theorem approach_nextSolarCheck {now received : Nat} {state gate : SolarRuntime Location} {input : SolarInput}
    {opened : Bool} (sound : state.SoundAt now)
    (approaches : state.approach geography input received = .ok (gate, opened)) :
    gate.nextSolarCheck = state.nextSolarCheck := by
  obtain ⟨after, receives, isGate⟩ := approach_ok approaches
  have kept : after.nextSolarCheck = state.nextSolarCheck := by
    rcases receiveResults_cases sound receives with ⟨_, rfl⟩ | ⟨_, result, _, _, _, _, _, _, rfl⟩
    · rfl
    · exact (settle_kept state received result).2.2
  rcases isGate with ⟨_, isGate, _⟩ | ⟨_, _, isGate⟩
  · exact isGate ▸ kept
  · rcases after.startResolver_cases input.spawned with
      ⟨_, _, _, _, _, starts⟩ | ⟨_, starts⟩ | ⟨_, starts⟩ <;> cases isGate.trans starts <;> exact kept

/-- A location has been told by a worker, which was started for a solar schedule. -/
theorem SoundAt.located {now : Nat} {state : SolarRuntime Location} (sound : state.SoundAt now)
    (located : state.location.isSome = true) :
    ∃ resolver, state.solarResolver = some resolver ∧ state.solarEnabled = true ∧ state.hasSolarSchedule = true := by
  cases isResolver : state.solarResolver with
  | none => simp [(sound.unstarted isResolver).2.1] at located
  | some resolver => exact ⟨resolver, rfl, sound.started resolver isResolver⟩

/-- Where a location is known and a check is due, the open gate is all that matters. -/
theorem maintainSolar_current {state after : SolarRuntime Location} {input : SolarInput}
    (sound : state.SoundAt state.now) (due : state.checkDue (state.checkedAt input) = true)
    (permits : state.runtime.appearance.permitsSolar = true) (located : after.location.isSome = true)
    (maintains : state.maintainSolar geography input = .ok after) :
    state.Opens ∧ after.Current input ∨ ¬ state.Opens ∧ after.mapped = state.mapped := by
  simp only [SolarRuntime.maintainSolar] at maintains
  split at maintains
  next isDisabled =>
    cases maintains
    obtain ⟨_, _, enabled, _⟩ := sound.located located
    simp [enabled] at isDisabled
  next isEnabled =>
    have enabled : state.solarEnabled = true := by simpa using isEnabled
    obtain ⟨⟨gate, opened⟩, approaches, continues⟩ := Results.bind_eq_ok.mp maintains
    cases opened with
    | true =>
      have opened := approach_opened sound enabled approaches
      have paced := approach_paced sound approaches
      refine .inl ⟨⟨?_, ?_⟩, ?_⟩
      · by_contra isTerminal
        have shut := paced.terminal (by simpa using isTerminal)
        rw [opened.terminal] at shut
        contradiction
      · intro result member refused
        have shut := paced.refused result member refused
        rw [opened.terminal] at shut
        contradiction
      · obtain ⟨resolver, requested, terminal, _, isRequested⟩ :=
          gate.requestLocation_frame (state.requestedAt input)
        have gateLocated : gate.location.isSome = true := by
          obtain ⟨_, _, _, _, rfl⟩ := checkMapping_ok continues
          simpa [isRequested] using located
        have solar : gate.hasSolarSchedule = true := by
          cases opened.worker with
          | inl fresh => exact fresh.solar
          | inr found =>
            obtain ⟨_, _, _, solar⟩ := found.1.located gateLocated
            exact solar
        have gateDue : gate.checkDue (state.checkedAt input) = true := by
          simpa only [checkDue, approach_nextSolarCheck sound approaches] using due
        rw [isRequested] at continues
        exact checkMapping_current continues gateDue opened.permits gateLocated solar
    | false =>
      cases continues
      obtain ⟨received, receives, ⟨shut, isGate, _⟩ | ⟨_, _, isGate⟩⟩ := approach_ok approaches
      · -- The gate is shut by a refusal, since the appearance permits it.
        rw [isGate] at approaches ⊢
        cases shut with
        | inl shut => exact .inr (receiveResults_shut sound shut receives)
        | inr forbids =>
          rw [(approach_installs sound approaches).prepares.appearance, permits] at forbids
          contradiction
      · -- No worker could be started, and without one no location is known.
        rcases received.startResolver_cases input.spawned with
          ⟨_, _, _, _, _, starts⟩ | ⟨isNone, starts⟩ | ⟨_, starts⟩ <;> cases isGate.trans starts
        obtain ⟨_, isResolver, _⟩ := (sound.receiveResults receives).located located
        rw [isNone] at isResolver
        contradiction

/-- The solar check of a pass is due, and after it a location is known for the automatic appearance. -/
structure Checks (state next : SolarRuntime Location) (input : SolarInput) : Prop where
  due : state.checkDue (state.checkedAt input) = true
  automatic : state.runtime.appearance = .automatic
  located : next.location.isSome = true

theorem maintain_current {state next : SolarRuntime Location} {input : SolarInput} {drawn : List Nat}
    (sound : state.SoundAt state.now) (admitted : state.admits input = true)
    (maintains : state.maintain geography input = .ok (next, drawn)) (checks : state.Checks next input) :
    state.Opens ∧ next.Current input ∨ ¬ state.Opens ∧ next.mapped = state.mapped := by
  obtain ⟨decoded, solar, runtime, decodes, isSolar, rfl⟩ := maintain_ok maintains
  have unmoved := decoded_now decodes
  have decodedSound : decoded.SoundAt decoded.now := unmoved ▸ sound.decoded admitted decodes
  have permits : decoded.runtime.appearance.permitsSolar = true := by
    rw [(decoded_prepares decodes).appearance, checks.automatic]
    rfl
  have located : solar.location.isSome = true := checks.located
  have current (due : decoded.checkDue (decoded.checkedAt input) = true) :=
    maintainSolar_current decodedSound due permits located isSolar
  obtain ⟨_, _, rfl, _⟩ := decoded_ok admitted decodes
  exact current checks.due

end SolarRuntime

/-- As long as no pass meets a refusal, every check leaves the mapping current; in any run a check does
so exactly if its pass meets none or the mapping is current already. -/
theorem solar_mapping_current (run : (solarSystem geography).Run) :
    (run.Meets (fun state label => ∀ input, label = .pass input → state.Opens) →
      ∀ index < run.length, ∀ input, run.label index = .pass input →
        (run.state index).Checks (run.state (index + 1)) input → (run.state (index + 1)).Current input) ∧
    ∀ index < run.length, ∀ input, run.label index = .pass input →
      (run.state index).Checks (run.state (index + 1)) input →
      ((run.state (index + 1)).Current input ↔ (run.state index).Opens ∨ (run.state index).Current input) := by
  -- Every pass that checks opens the gate and is current, or leaves the mapping as it was.
  have passes : ∀ index < run.length, ∀ input, run.label index = .pass input →
      (run.state index).Checks (run.state (index + 1)) input →
      (run.state index).Opens ∧ (run.state (index + 1)).Current input ∨
        ¬ (run.state index).Opens ∧ (run.state (index + 1)).mapped = (run.state index).mapped := by
    intro index bound input isPass checks
    have sound := SolarRuntime.reachable_sound (run.reachable index (by omega))
    have steps := run.steps index bound
    rw [isPass] at steps
    obtain ⟨_, _, isEvent, _⟩ | ⟨_, drawn, isInput, admitted, maintains⟩ | ⟨_, _, _, isThread, _⟩ |
      ⟨_, isWait, _⟩ := SolarRuntime.next_cases steps
    · contradiction
    · cases isInput
      exact SolarRuntime.maintain_current sound admitted maintains checks
    · contradiction
    · contradiction
  refine ⟨?_, ?_⟩
  · intro meets index bound input isPass checks
    have opens := meets index bound input isPass
    rcases passes index bound input isPass checks with ⟨_, current⟩ | ⟨shut, _⟩
    · exact current
    · exact absurd opens shut
  · intro index bound input isPass checks
    rcases passes index bound input isPass checks with ⟨opens, current⟩ | ⟨shut, kept⟩
    · exact ⟨fun _ => .inl opens, fun _ => current⟩
    · simp only [SolarRuntime.Current, kept, shut, false_or]

/-! ## Two days at one place -/

def nextMorning : ClockSnapshot :=
  { morning with date := { year := 2026, month := 11, day := 2, valid := by decide } }

def tomorrowLabels : List (SolarLabel Nat) :=
  answerLabels (.located 0) ++
    [.wait (Duration.fromSecs secondsPerDay), .pass (solarPass nextMorning secondsPerDay .empty)]

def tomorrowRun : (solarSystem sampleGeography).Run :=
  TransitionSystem.runOfLabels startSolar startSolar_initial tomorrowLabels (by decide +kernel)

theorem solar_mapping_current_sample :
    (tomorrowRun.state 9).Current (solarPass nextMorning secondsPerDay .empty) := by
  have unterminated : (tomorrowRun.state 8).solarTerminal = false := by decide +kernel
  have empty : (tomorrowRun.state 8).waiting.length = 0 := by decide +kernel
  have opens : (tomorrowRun.state 8).Opens := ⟨unterminated, by simp [List.length_eq_zero_iff.mp empty]⟩
  refine ((solar_mapping_current tomorrowRun).2 8 (by decide) _ rfl ⟨?_, ?_, ?_⟩).mpr (.inl opens) <;>
    decide +kernel

def evening : ClockSnapshot := sampleClock 17 0 (by decide)

/-- The worker dies after its answer, which the next request notices; the next day the check is due. -/
def abandonedLabels : List (SolarLabel Nat) :=
  answerLabels (.located 0) ++ [.thread .die, .wait locationRefresh, .pass (solarPass evening 21600 .empty),
    .wait (Duration.fromSecs 64800), .pass (solarPass nextMorning secondsPerDay .empty)]

def abandonedRun : (solarSystem sampleGeography).Run :=
  TransitionSystem.runOfLabels startSolar startSolar_initial abandonedLabels (by decide +kernel)

theorem dead_worker_leaves_mapping :
    ¬ ∀ index < abandonedRun.length, ∀ input, abandonedRun.label index = .pass input →
      (abandonedRun.state index).Checks (abandonedRun.state (index + 1)) input →
      (abandonedRun.state (index + 1)).Current input := by
  intro current
  have checks : (abandonedRun.state 11).Checks (abandonedRun.state 12)
      (solarPass nextMorning secondsPerDay .empty) := by
    refine ⟨?_, ?_, ?_⟩ <;> decide +kernel
  obtain ⟨clock, isClock, isMapped⟩ := current 11 (by decide) _ rfl checks
  have kept : (abandonedRun.state 12).mapped = some (stamp morning) := by decide +kernel
  have isMorning : clock = nextMorning := by
    cases isClock with
    | inl isCheck => exact (Option.some.inj isCheck).symm
    | inr isMapping => exact (Option.some.inj isMapping).symm
  rw [kept, isMorning] at isMapped
  exact absurd isMapped (by decide)

end Genkan.DesktopWallpaper
