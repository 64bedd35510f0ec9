import Mathlib.Analysis.Normed.Ring.Lemmas
import Genkan.DesktopWallpaper.SolarMapping

/-! # Whether the solar schedule follows the location

A fix is compared with the one before it, and the schedule may have been mapped for an older one.
Beside a run, the location that the installed schedule was mapped for is kept.
-/

namespace Genkan.DesktopWallpaper

open Foundations DynamicWallpaper

variable {Location : Type} {geography : Geography Location}

def meaningfulLocationChangeMeters : Nat := 5000

/-- The test of the program compares a distance with the threshold. -/
def Geography.Measures [PseudoMetricSpace Location] (geography : Geography Location) : Prop :=
  ∀ previous next, geography.meaningfulLocationChange previous next = true ↔
    meaningfulLocationChangeMeters < dist previous next

/-! ## The location behind the schedule -/

namespace SolarRuntime

section Origin

variable (geography : Geography Location)

/-- The location that the schedule was mapped for, after an attempt to map it again. -/
def originAfterInstall (state : SolarRuntime Location) (moment : Moment) (origin : Option Location) :
    Option Location :=
  if !state.runtime.appearance.permitsSolar then origin
  else match state.location, state.metadata, moment.clock with
    | some location, some metadata, some clock =>
      if (geography.mapSolar metadata location clock).isSome && state.runtime.scheduler.isSome then some location
      else origin
    | _, _, _ => origin

def originAfterResult (state : SolarRuntime Location) (input : SolarInput) (origin : Option Location) :
    SolarResult Location → Option Location
  | .located location =>
    let changed := state.location.all fun previous => geography.meaningfulLocationChange previous location
    if changed then { state with location := some location }.originAfterInstall geography input.located origin
    else origin
  | .failed _ => origin

def originAfterResults (input : SolarInput) (received : Nat) :
    SolarRuntime Location → List (SolarResult Location) → Option Location → Option Location
  | _, [], origin => origin
  | state, result :: results, origin =>
    match state.receive.handleResult geography input received result with
    | .ok next =>
      originAfterResults input received next results (state.receive.originAfterResult geography input origin result)
    | .error _ => origin

def originAfterCheck (state : SolarRuntime Location) (input : SolarInput) (checked : Nat)
    (origin : Option Location) : Option Location :=
  if state.checkDue checked then
    match input.check.clock with
    | some clock =>
      if solarMappingDue state.runtime.appearance state.hasSolarSchedule state.location.isSome state.mapped clock then
        state.originAfterInstall geography input.mapping origin
      else origin
    | none => origin
  else origin

def originAfterPass (state : SolarRuntime Location) (input : SolarInput) (origin : Option Location) :
    Option Location :=
  match state.decoded input with
  | .error _ => origin
  | .ok decoded =>
    if !decoded.solarEnabled then origin
    else
      let received :=
        originAfterResults geography input (decoded.receivedAt input) decoded decoded.waiting origin
      match decoded.approach geography input (decoded.receivedAt input) with
      | .ok (gate, true) =>
        (gate.requestLocation (decoded.requestedAt input)).originAfterCheck geography input
          (decoded.checkedAt input) received
      | _ => received

end Origin

/-- The location behind the schedule at each place of a run. -/
def origin (run : (solarSystem geography).Run) : Nat → Option Location
  | 0 => none
  | index + 1 =>
    match run.label index with
    | .pass input => (run.state index).originAfterPass geography input (origin run index)
    | _ => origin run index

theorem origin_pass {run : (solarSystem geography).Run} {index : Nat} {input : SolarInput}
    (isPass : run.label index = .pass input) :
    origin run (index + 1) = (run.state index).originAfterPass geography input (origin run index) := by
  simp only [origin, isPass]

theorem origin_rest {run : (solarSystem geography).Run} {index : Nat}
    (noPass : ∀ input, run.label index ≠ .pass input) : origin run (index + 1) = origin run index := by
  cases isLabel : run.label index with
  | pass input => exact absurd isLabel (noPass input)
  | event | thread | wait => simp only [origin, isLabel]

/-! ## Where fixes come from -/

/-- Whoever asks for a location shows the automatic appearance and has something to show. -/
def Equipped (state : SolarRuntime Location) : Prop :=
  state.solarResolver.isSome = true →
    state.runtime.appearance.permitsSolar = true ∧ state.runtime.scheduler.isSome = true

theorem Equipped.prepared {state after : SolarRuntime Location} (equipped : state.Equipped)
    (prepares : state.runtime.Prepares after.runtime)
    (resolver : after.solarResolver.isSome = true → state.solarResolver.isSome = true) : after.Equipped := by
  intro isSome
  obtain ⟨permits, scheduler⟩ := equipped (resolver isSome)
  exact ⟨prepares.appearance ▸ permits, prepares.scheduler scheduler⟩

theorem requestLocation_resolver (gate : SolarRuntime Location) (requested : Nat) :
    (gate.requestLocation requested).solarResolver.isSome = gate.solarResolver.isSome := by
  simp only [SolarRuntime.requestLocation]
  split
  next =>
    simp only [dispatchSolar]
    split
    next => rfl
    next isResolver =>
      split
      next => exact (congrArg Option.isSome isResolver).symm
      next => rfl
  next => rfl

theorem Equipped.approach {now received : Nat} {state gate : SolarRuntime Location} {input : SolarInput}
    {opened : Bool} (equipped : state.Equipped) (sound : state.SoundAt now)
    (approaches : state.approach geography input received = .ok (gate, opened)) : gate.Equipped := by
  obtain ⟨after, receives, isGate⟩ := approach_ok approaches
  have afterEquipped : after.Equipped := by
    rcases receiveResults_cases sound receives with
      ⟨_, rfl⟩ | ⟨resolver, _, runtime, _, isResolver, _, installs, _, rfl⟩
    · refine equipped.prepared (.refl _) ?_
      simp [SolarRuntime.receive]
    · exact equipped.prepared installs.prepares fun _ => by rw [isResolver]; rfl
  rcases isGate with ⟨_, isGate, _⟩ | ⟨_, permits, isGate⟩
  · exact isGate ▸ afterEquipped
  · rcases after.startResolver_cases input.spawned with
      ⟨resolver, _, _, frame, _, starts⟩ | ⟨_, starts⟩ | ⟨_, starts⟩ <;> cases isGate.trans starts
    · -- A worker is started once there is a frame.
      refine fun _ => ⟨permits, ?_⟩
      cases isScheduler : after.runtime.scheduler with
      | some scheduler => rfl
      | none => simp [frameAvailable, isScheduler] at frame
    · exact afterEquipped
    · exact afterEquipped

theorem Equipped.maintainSolar {now : Nat} {state after : SolarRuntime Location} {input : SolarInput}
    (equipped : state.Equipped) (sound : state.SoundAt now)
    (maintains : state.maintainSolar geography input = .ok after) : after.Equipped := by
  simp only [SolarRuntime.maintainSolar] at maintains
  split at maintains
  next => exact Except.ok.inj maintains ▸ equipped
  next =>
    obtain ⟨⟨gate, opened⟩, approaches, continues⟩ := Results.bind_eq_ok.mp maintains
    have gateEquipped := equipped.approach sound approaches
    cases opened with
    | true =>
      obtain ⟨runtime, mapped, nextSolarCheck, installs, rfl⟩ := checkMapping_ok continues
      have sameResolver := gate.requestLocation_resolver (state.requestedAt input)
      obtain ⟨_, _, _, _, isRequested⟩ := gate.requestLocation_frame (state.requestedAt input)
      rw [isRequested] at installs
      exact gateEquipped.prepared installs.prepares fun isSome => sameResolver ▸ isSome
    | false => exact Except.ok.inj continues ▸ gateEquipped

theorem Equipped.maintain {now : Nat} {state next : SolarRuntime Location} {input : SolarInput} {drawn : List Nat}
    (equipped : state.Equipped) (sound : state.SoundAt now) (admitted : state.admits input = true)
    (maintains : state.maintain geography input = .ok (next, drawn)) : next.Equipped := by
  simp only [SolarRuntime.maintain] at maintains
  obtain ⟨decoded, decodes, continues⟩ := Results.bind_eq_ok.mp maintains
  obtain ⟨solar, isSolar, continues⟩ := Results.bind_eq_ok.mp continues
  obtain ⟨prepared, prepares, isNext⟩ := Results.bind_eq_ok.mp continues
  have decodedEquipped : decoded.Equipped := by
    refine equipped.prepared (decoded_prepares decodes) ?_
    obtain ⟨_, _, rfl, _⟩ := decoded_ok admitted decodes
    exact id
  have solarEquipped := decodedEquipped.maintainSolar (sound.decoded admitted decodes) isSolar
  cases isNext
  intro isSome
  obtain ⟨permits, scheduler⟩ := solarEquipped isSome
  have shown := Runtime.preparePresentation_prepares prepares
  have samePermits : prepared.appearance.permitsSolar = true := shown.appearance ▸ permits
  exact ⟨samePermits, shown.scheduler scheduler⟩

theorem handle_kept {runtime : Runtime} {event : RuntimeEvent} {handled : Runtime × List Nat}
    (handles : runtime.handle event = some handled) (noPass : ∀ input, event ≠ .maintain input) :
    handled.1.appearance = runtime.appearance ∧ handled.1.scheduler = runtime.scheduler := by
  cases event with
  | maintain input => exact absurd rfl (noPass input)
  | newOutput output outputSize =>
    cases handles
    simp only [Runtime.addSurface]
    split <;> exact ⟨rfl, rfl⟩
  | updateOutput output outputSize =>
    cases handles
    simp only [Runtime.addSurface]
    split <;> exact ⟨rfl, rfl⟩
  | configure layer hints outputSize =>
    cases handles
    simp only [Runtime.configure]
    split <;> exact ⟨rfl, rfl⟩
  | scaleFactorChanged layer scale =>
    cases handles
    simp only [Runtime.updateLayer]
    split <;> exact ⟨rfl, rfl⟩
  | transformChanged layer =>
    cases handles
    simp only [Runtime.updateLayer]
    split <;> exact ⟨rfl, rfl⟩
  | frame layer =>
    cases handles
    simp only [Runtime.updateLayer]
    split <;> exact ⟨rfl, rfl⟩
  | outputDestroyed output =>
    cases handles
    exact ⟨rfl, rfl⟩
  | closed layer =>
    cases handles
    exact ⟨rfl, rfl⟩
  | resumeTimer =>
    cases handles
    exact ⟨rfl, rfl⟩

theorem advance_isSome {resolver advanced : SolarResolver Location} {state : SolarRuntime Location}
    (isResolver : state.solarResolver = some resolver) :
    ({ state with solarResolver := some advanced } : SolarRuntime Location).solarResolver.isSome = true →
      state.solarResolver.isSome = true := fun _ => isResolver ▸ rfl

theorem reachable_equipped {state : SolarRuntime Location} (reachable : (solarSystem geography).Reachable state) :
    state.Equipped := by
  induction reachable with
  | initial starts =>
    obtain ⟨_, _, _, isStart⟩ := starts
    rw [isStart]
    intro isSome
    contradiction
  | @step state next label reached steps equipped =>
    have sound := reachable_sound reached
    rcases next_cases steps with ⟨event, handled, isLabel, handles, rfl⟩ | ⟨input, drawn, _, admitted, maintains⟩ |
      ⟨_, resolver, _, _, isResolver, _, rfl⟩ | ⟨_, _, rfl⟩
    · have noPass : ∀ input, event ≠ .maintain input := by
        intro input isPass
        rw [isLabel, isPass] at steps
        contradiction
      obtain ⟨appearance, scheduler⟩ := handle_kept handles noPass
      intro isSome
      obtain ⟨permits, scheduled⟩ := equipped isSome
      exact ⟨appearance ▸ permits, scheduler ▸ scheduled⟩
    · exact equipped.maintain sound admitted maintains
    · exact equipped.prepared (.refl _) (advance_isSome isResolver)
    · exact equipped

/-! ## The distance to the last fix -/

/-- The worker's answer `fix` can be mapped at the moment at which it is received. -/
def Mappable (geography : Geography Location) (state : SolarRuntime Location) (input : SolarInput)
    (fix : Location) : Prop :=
  ∀ metadata clock, state.metadata = some metadata → input.located.clock = some clock →
    (geography.mapSolar metadata fix clock).isSome = true

theorem originAfterInstall_cases (state : SolarRuntime Location) (moment : Moment) (origin : Option Location) :
    state.originAfterInstall geography moment origin = origin ∨
      ∃ location, state.location = some location ∧
        state.originAfterInstall geography moment origin = some location := by
  simp only [originAfterInstall]
  split
  next => exact .inl rfl
  next =>
    split
    next location metadata clock isLocation _ _ =>
      split
      next => exact .inr ⟨location, isLocation, rfl⟩
      next => exact .inl rfl
    next => exact .inl rfl

/-- An attempt that succeeds maps the schedule for the location that is known. -/
theorem originAfterInstall_mapped {state : SolarRuntime Location} {moment : Moment} {origin : Option Location}
    {location : Location} {metadata : Metadata} {clock : ClockSnapshot}
    (permits : state.runtime.appearance.permitsSolar = true) (scheduled : state.runtime.scheduler.isSome = true)
    (isLocation : state.location = some location) (isMetadata : state.metadata = some metadata)
    (isClock : moment.clock = some clock) (maps : (geography.mapSolar metadata location clock).isSome = true) :
    state.originAfterInstall geography moment origin = some location := by
  simp [originAfterInstall, permits, isLocation, isMetadata, isClock, maps, scheduled]

theorem resolver_of_waiting {state : SolarRuntime Location} {result : SolarResult Location}
    (member : result ∈ state.waiting) : ∃ resolver, state.solarResolver = some resolver := by
  cases isResolver : state.solarResolver with
  | none => simp [waiting, isResolver] at member
  | some resolver => exact ⟨resolver, rfl⟩

section Distance

variable [PseudoMetricSpace Location]

/-- The installed schedule was mapped for a place near the last fix. -/
def Follows (state : SolarRuntime Location) (origin : Option Location) : Prop :=
  ∀ mapped location, origin = some mapped → state.location = some location →
    dist mapped location ≤ meaningfulLocationChangeMeters

/-- A fix that is far from where the schedule was mapped for is far from the fix before it as well, and
it can be mapped: the way there was one move and not many. -/
def ArrivesAtOnce (geography : Geography Location) (state : SolarRuntime Location) (input : SolarInput)
    (origin : Option Location) : Prop :=
  ∀ fix, SolarResult.located fix ∈ state.waiting → ∀ mapped, origin = some mapped →
    meaningfulLocationChangeMeters < dist mapped fix →
    (∀ previous, state.location = some previous → meaningfulLocationChangeMeters < dist previous fix) ∧
      state.Mappable geography input fix

theorem Follows.here {state : SolarRuntime Location} {location : Location}
    (isLocation : state.location = some location) : state.Follows (some location) := by
  intro mapped last isMapped isLast
  cases isMapped
  cases isLocation.symm.trans isLast
  rw [dist_self]
  exact Nat.cast_nonneg _

theorem Follows.install {state : SolarRuntime Location} {origin : Option Location}
    (follows : state.Follows origin) (moment : Moment) :
    state.Follows (state.originAfterInstall geography moment origin) := by
  cases state.originAfterInstall_cases moment origin with
  | inl same =>
    rw [same]
    exact follows
  | inr mapped =>
    obtain ⟨location, isLocation, isOrigin⟩ := mapped
    rw [isOrigin]
    exact .here isLocation

theorem Follows.check {state : SolarRuntime Location} {origin : Option Location}
    (follows : state.Follows origin) (input : SolarInput) (checked : Nat) :
    state.Follows (state.originAfterCheck geography input checked origin) := by
  simp only [originAfterCheck]
  split
  next =>
    split
    next =>
      split
      next => exact follows.install input.mapping
      next => exact follows
    next => exact follows
  next => exact follows

theorem Follows.moved {state after : SolarRuntime Location} {origin : Option Location}
    (follows : state.Follows origin) (same : after.location = state.location) : after.Follows origin := by
  intro mapped location isMapped isLocation
  exact follows mapped location isMapped (same ▸ isLocation)

/-- A fix that arrives: it is near, or it is mapped at once. -/
theorem Follows.located {state next : SolarRuntime Location} {origin : Option Location} {input : SolarInput}
    {received : Nat} {fix : Location} (measures : geography.Measures)
    (permits : state.runtime.appearance.permitsSolar = true) (scheduled : state.runtime.scheduler.isSome = true)
    (solar : state.hasSolarSchedule = true)
    (arrives : ∀ mapped, origin = some mapped → meaningfulLocationChangeMeters < dist mapped fix →
      (∀ previous, state.location = some previous → meaningfulLocationChangeMeters < dist previous fix) ∧
        state.Mappable geography input fix)
    (handles : state.handleResult geography input received (.located fix) = .ok next) :
    next.Follows (state.originAfterResult geography input origin (.located fix)) := by
  have isFix : next.location = some fix := by
    obtain ⟨_, _, _, _, rfl⟩ := handleResult_ok handles
    rfl
  have sameLocation : next.location = ({ state with location := some fix } : SolarRuntime Location).location := isFix
  have unharmed (near : ({ state with location := some fix } : SolarRuntime Location).Follows origin) :
      next.Follows (state.originAfterResult geography input origin (.located fix)) := by
    simp only [originAfterResult]
    split
    next => exact (near.install input.located).moved sameLocation
    next => exact near.moved sameLocation
  cases isOrigin : origin with
  | none => exact isOrigin ▸ unharmed fun mapped _ isMapped => by simp [isOrigin] at isMapped
  | some mapped =>
    by_cases near : dist mapped fix ≤ meaningfulLocationChangeMeters
    · refine isOrigin ▸ unharmed ?_
      intro other location isOther isLocation
      cases isOrigin.symm.trans isOther
      cases isLocation
      exact near
    · obtain ⟨apart, mappable⟩ := arrives mapped isOrigin (lt_of_not_ge near)
      have changed : (state.location.all fun previous => geography.meaningfulLocationChange previous fix) = true := by
        cases isLocation : state.location with
        | none => rfl
        | some previous => exact (measures previous fix).mpr (apart previous isLocation)
      simp only [handleResult, changed, if_true] at handles
      obtain ⟨clock, isClock, _⟩ := installSolarMapping_mapped handles permits rfl solar
      cases isMetadata : state.metadata with
      | none => simp [hasSolarSchedule, isMetadata] at solar
      | some metadata =>
        have maps := mappable metadata clock isMetadata isClock
        have mapsHere : ({ state with location := some fix } : SolarRuntime Location).originAfterInstall geography
            input.located (some mapped) = some fix :=
          originAfterInstall_mapped permits scheduled rfl isMetadata isClock maps
        simp only [originAfterResult, changed, if_true]
        rw [mapsHere]
        exact .here isFix

/-- The results of a pass, of which there is at most one. -/
theorem Follows.received {now received : Nat} {state after : SolarRuntime Location} {origin : Option Location}
    {input : SolarInput} (follows : state.Follows origin) (measures : geography.Measures)
    (sound : state.SoundAt now) (equipped : state.Equipped)
    (arrives : state.ArrivesAtOnce geography input origin)
    (receives : receiveResults geography input received state state.waiting = .ok after) :
    after.Follows (originAfterResults geography input received state state.waiting origin) := by
  rcases receiveResults_cases sound receives with
    ⟨empty, rfl⟩ | ⟨resolver, result, _, _, isResolver, holds, _, _, _⟩
  · rw [empty]
    exact follows.moved rfl
  · have isWaiting : state.waiting = [result] := by simp [waiting, isResolver, holds]
    rw [isWaiting] at receives ⊢
    obtain ⟨handled, handles, isAfter⟩ := Results.bind_eq_ok.mp receives
    simp only [originAfterResults, handles]
    cases isAfter
    cases result with
    | failed error =>
      obtain ⟨_, _, _, _, rfl⟩ := handleResult_ok handles
      simp only [originAfterResult]
      refine follows.moved ?_
      simp only [SolarRuntime.receive, settle]
      split <;> rfl
    | located fix =>
      obtain ⟨permits, scheduled⟩ := equipped (isResolver ▸ rfl)
      obtain ⟨_, solar⟩ := sound.started resolver isResolver
      have arrived := arrives fix (by rw [isWaiting]; exact List.mem_singleton_self _)
      have located : handled.Follows (state.receive.originAfterResult geography input origin (.located fix)) :=
        Follows.located measures permits scheduled solar arrived handles
      exact located.moved rfl

theorem approach_follows {received : Nat} {state gate : SolarRuntime Location} {input : SolarInput}
    {opened : Bool} {origin : Option Location}
    (approaches : state.approach geography input received = .ok (gate, opened))
    (follows : ∀ after, receiveResults geography input received state state.waiting = .ok after →
      after.Follows origin) : gate.Follows origin := by
  obtain ⟨after, receives, isGate⟩ := approach_ok approaches
  have afterFollows := follows after receives
  rcases isGate with ⟨_, isGate, _⟩ | ⟨_, _, isGate⟩
  · exact isGate ▸ afterFollows
  · rcases after.startResolver_cases input.spawned with
      ⟨_, _, _, _, _, starts⟩ | ⟨_, starts⟩ | ⟨_, starts⟩ <;> cases isGate.trans starts <;>
      exact afterFollows.moved rfl

theorem Follows.pass {state next : SolarRuntime Location} {origin : Option Location} {input : SolarInput}
    {drawn : List Nat} (follows : state.Follows origin) (measures : geography.Measures)
    (sound : state.SoundAt state.now) (equipped : state.Equipped) (admitted : state.admits input = true)
    (arrives : state.ArrivesAtOnce geography input origin)
    (maintains : state.maintain geography input = .ok (next, drawn)) :
    next.Follows (state.originAfterPass geography input origin) := by
  obtain ⟨decoded, solar, runtime, decodes, isSolar, rfl⟩ := maintain_ok maintains
  have prepares := decoded_prepares decodes
  have decodedSound := sound.decoded admitted decodes
  obtain ⟨decodedRuntime, metadata, isDecoded, known⟩ := decoded_ok admitted decodes
  have sameWaiting : decoded.waiting = state.waiting := by rw [isDecoded]; rfl
  have sameLocation : decoded.location = state.location := by rw [isDecoded]
  have decodedEquipped : decoded.Equipped := equipped.prepared prepares (by rw [isDecoded]; exact id)
  have decodedFollows : decoded.Follows origin := follows.moved sameLocation
  have decodedArrives : decoded.ArrivesAtOnce geography input origin := by
    intro fix member mapped isMapped far
    obtain ⟨apart, mappable⟩ := arrives fix (sameWaiting ▸ member) mapped isMapped far
    refine ⟨sameLocation ▸ apart, ?_⟩
    intro found clock isFound isClock
    obtain ⟨resolver, isResolver⟩ := resolver_of_waiting (sameWaiting ▸ member)
    obtain ⟨_, solar⟩ := sound.started resolver isResolver
    cases isMetadata : state.metadata with
    | none => simp [hasSolarSchedule, isMetadata] at solar
    | some before =>
      rw [isDecoded, known before isMetadata] at isFound
      exact mappable found clock (isMetadata.trans isFound) isClock
  simp only [originAfterPass, decodes]
  simp only [SolarRuntime.maintainSolar] at isSolar
  split at isSolar
  next isDisabled =>
    cases isSolar
    rw [if_pos isDisabled]
    exact decodedFollows.moved rfl
  next isEnabled =>
    rw [if_neg isEnabled]
    obtain ⟨⟨gate, opened⟩, approaches, continues⟩ := Results.bind_eq_ok.mp isSolar
    have gateFollows := approach_follows approaches fun after receives =>
      decodedFollows.received measures decodedSound decodedEquipped decodedArrives receives
    simp only [approaches]
    cases opened with
    | false =>
      cases continues
      exact gateFollows.moved rfl
    | true =>
      obtain ⟨_, _, _, _, rfl⟩ := checkMapping_ok continues
      obtain ⟨_, _, _, _, isRequested⟩ := gate.requestLocation_frame (decoded.requestedAt input)
      have requested : (gate.requestLocation (decoded.requestedAt input)).Follows
          (originAfterResults geography input (decoded.receivedAt input) decoded decoded.waiting origin) :=
        gateFollows.moved (by rw [isRequested])
      exact (requested.check input (decoded.checkedAt input)).moved rfl

end Distance

end SolarRuntime

/-- As long as every fix that is far from where the schedule was mapped for arrives at once, the schedule
is that of a place near the last fix. -/
theorem solar_mapping_follows [PseudoMetricSpace Location]
    (measures : geography.Measures) (run : (solarSystem geography).Run)
    (arrives : ∀ index < run.length, ∀ input, run.label index = .pass input →
      (run.state index).ArrivesAtOnce geography input (SolarRuntime.origin run index)) :
    ∀ index ≤ run.length, (run.state index).Follows (SolarRuntime.origin run index) := by
  intro index bound
  induction index with
  | zero =>
    intro mapped location isMapped isLocation
    contradiction
  | succ index inductionHypothesis =>
    have follows := inductionHypothesis (by omega)
    have reached := run.reachable index (by omega)
    have steps := run.steps index bound
    rcases SolarRuntime.next_cases steps with ⟨event, handled, isLabel, _, isNext⟩ |
      ⟨input, drawn, isPass, admitted, maintains⟩ | ⟨step, _, _, isLabel, _, _, isNext⟩ | ⟨_, isLabel, isNext⟩
    · rw [SolarRuntime.origin_rest (by simp [isLabel]), isNext]
      exact follows.moved rfl
    · rw [SolarRuntime.origin_pass isPass]
      exact follows.pass measures (SolarRuntime.reachable_sound reached) (SolarRuntime.reachable_equipped reached)
        admitted (arrives index bound input isPass) maintains
    · rw [SolarRuntime.origin_rest (by simp [isLabel]), isNext]
      exact follows.moved rfl
    · rw [SolarRuntime.origin_rest (by simp [isLabel]), isNext]
      exact follows.moved rfl

/-! ## Six kilometres -/

/-- Places along a line, a metre apart. -/
def lineGeography : Geography ℤ where
  mapSolar _ _ _ := some samplePoints
  meaningfulLocationChange previous next := decide (meaningfulLocationChangeMeters < (previous - next).natAbs)

theorem lineGeography_measures : lineGeography.Measures := by
  intro previous next
  rw [Int.dist_eq, ← Int.cast_sub, ← Int.cast_abs, Int.abs_eq_natAbs, Int.cast_natCast, Nat.cast_lt]
  exact decide_eq_true_iff

def startLine : SolarRuntime ℤ where
  runtime := startRuntime
  solarEnabled := true
  solarResolver := none
  solarRequested := false
  solarTerminal := false
  metadata := none
  location := none
  nextLocationRefresh := none
  nextSolarCheck := none
  mapped := none
  now := 0

instance : Inhabited (SolarLabel ℤ) := ⟨.wait 0⟩

/-- The pass that asks again after the refresh, the answer, and the pass that finds it. -/
def refreshLabels (clock : ClockSnapshot) (seconds : Nat) (fix : ℤ) : List (SolarLabel ℤ) :=
  [.wait locationRefresh, .pass (solarPass clock seconds .empty), .thread .take,
    .thread (.answer (.located fix)), .thread .report, .pass (solarPass clock seconds .empty)]

def firstFixLabels : List (SolarLabel ℤ) :=
  [.pass (solarPass morning 0 (.received (.initialized solarMetadata ⟨0⟩))),
    .pass (solarPass morning 0 (.received (.decoded ⟨0, ⟨0⟩⟩ (some (sampleFrame 10))))),
    .thread (.build true), .thread .take, .thread (.answer (.located 0)), .thread .report,
    .pass (solarPass morning 0 .empty)]

/-- Six kilometres at once: the schedule follows. -/
def jumpRun : (solarSystem lineGeography).Run :=
  TransitionSystem.runOfLabels startLine ⟨⟨_, _, _, rfl⟩, true, 0, rfl⟩
    (firstFixLabels ++ refreshLabels evening 21600 6000) (by decide +kernel)

theorem solar_mapping_follows_jump :
    SolarRuntime.origin jumpRun 13 = some 6000 ∧
      ∀ index ≤ jumpRun.length, (jumpRun.state index).Follows (SolarRuntime.origin jumpRun index) := by
  refine ⟨by decide +kernel, solar_mapping_follows lineGeography_measures jumpRun ?_⟩
  -- The schedule is always that of the last fix, so what is far from the one is far from the other.
  have same : ∀ index < jumpRun.length, SolarRuntime.origin jumpRun index = (jumpRun.state index).location := by
    decide +kernel
  intro index bound input _ fix _ mapped isMapped far
  refine ⟨?_, fun _ _ _ _ => rfl⟩
  intro previous isPrevious
  rw [same index bound, isPrevious] at isMapped
  exact Option.some.inj isMapped ▸ far

/-- Three kilometres every six hours. -/
def driftLabels : List (SolarLabel ℤ) :=
  firstFixLabels ++ refreshLabels evening 21600 3000 ++ refreshLabels (sampleClock 23 0 (by decide)) 43200 6000

def driftRun : (solarSystem lineGeography).Run :=
  TransitionSystem.runOfLabels startLine ⟨⟨_, _, _, rfl⟩, true, 0, rfl⟩ driftLabels (by decide +kernel)

/-- Six kilometres away the schedule is still that of the first fix. -/
theorem small_moves_add_up :
    SolarRuntime.origin driftRun 19 = some 0 ∧ (driftRun.state 19).location = some 6000 ∧
      ¬ ∀ index ≤ driftRun.length, (driftRun.state index).Follows (SolarRuntime.origin driftRun index) := by
  have isOrigin : SolarRuntime.origin driftRun 19 = some 0 := by decide +kernel
  have isLocation : (driftRun.state 19).location = some 6000 := by decide +kernel
  refine ⟨isOrigin, isLocation, ?_⟩
  intro follows
  have near := follows 19 (by decide) 0 6000 isOrigin isLocation
  rw [Int.dist_eq] at near
  norm_num [meaningfulLocationChangeMeters] at near

end Genkan.DesktopWallpaper
