import Genkan.DynamicWallpaper.Structure
import Genkan.Foundations.Checked
import Genkan.Foundations.Lists

/-! # The samples of a dissolve

A dissolve that is sampled at times that do not decrease moves each byte from its value in the first
frame to its value in the second one, without a step back and without leaving the range between them.
The 16-bit arithmetic is repeated with operations that panic.
-/

namespace Genkan.DynamicWallpaper

open Foundations

/-! ## Arithmetic that can panic -/

/-- `mix` with the 16-bit arithmetic of the source. -/
def checkedMix (weight : Nat) (start finish : UInt8) : Option UInt8 := do
  let startWeight ← Checked.sub 256 weight
  let startPart ← Checked.mul 16 start.toNat startWeight
  let finishPart ← Checked.mul 16 finish.toNat weight
  let sum ← Checked.add 16 startPart finishPart
  let rounded ← Checked.add 16 sum 128
  pure (UInt8.ofNat (rounded / 256))

def checkedBlendPixels (weight : Nat) :
    List UInt8 → List UInt8 → List UInt8 → Option (List UInt8 × Bool)
  | output :: outputs, start :: starts, finish :: finishes => do
    let value ← checkedMix weight start finish
    let rest ← checkedBlendPixels weight outputs starts finishes
    pure (value :: rest.1, output != value || rest.2)
  | outputs, _, _ => pure (outputs, false)

def checkedBlendInto (start finish blended : RgbaFrame) (weight : Nat) : Option (RgbaFrame × Bool) := do
  let (pixels, changed) ← checkedBlendPixels weight blended.pixels start.pixels finish.pixels
  pure ({ blended with pixels := pixels }, changed)

theorem checkedMix_eq {weight : Nat} (bound : weight ≤ 256) (start finish : UInt8) :
    checkedMix weight start finish = some (mix weight start finish) := by
  have startBound := start.toNat_lt
  have finishBound := finish.toNat_lt
  have startPart : start.toNat * (256 - weight) ≤ 255 * (256 - weight) := Nat.mul_le_mul_right _ (by omega)
  have finishPart : finish.toNat * weight ≤ 255 * weight := Nat.mul_le_mul_right _ (by omega)
  simp only [checkedMix, Checked.sub_eq bound, Option.bind_eq_bind, Option.bind_some]
  rw [Checked.mul_eq (by omega), Option.bind_some, Checked.mul_eq (by omega), Option.bind_some,
    Checked.add_eq (by omega), Option.bind_some, Checked.add_eq (by omega), Option.bind_some]
  rfl

/-- `blend` with the 16-bit arithmetic of the source. -/
def checkedBlend (start finish : RgbaFrame) (weight : Nat) (maxOutputBytes : Nat) (storage : Option Nat) :
    Option (Option RgbaFrame) :=
  if maxOutputBytes < finish.pixels.length then some none
  else match storage with
    | none => some none
    | some capacity => do
      let pixels ← (start.pixels.zip finish.pixels).mapM fun pair => checkedMix weight pair.1 pair.2
      pure (some { width := finish.width, height := finish.height, pixels := pixels, capacity := capacity })

theorem checkedBlend_eq {weight : Nat} (bound : weight ≤ 256) (start finish : RgbaFrame)
    (maxOutputBytes : Nat) (storage : Option Nat) :
    checkedBlend start finish weight maxOutputBytes storage =
      some (blend start finish weight maxOutputBytes storage) := by
  have pixels := @Checked.mapM_eq _ _ (fun pair : UInt8 × UInt8 => checkedMix weight pair.1 pair.2)
    (fun pair => mix weight pair.1 pair.2) (start.pixels.zip finish.pixels)
    fun pair _ => checkedMix_eq bound pair.1 pair.2
  simp only [checkedBlend, blend]
  split
  next => rfl
  next =>
    cases storage with
    | none => rfl
    | some capacity =>
      rw [pixels, List.map_zip_eq_zipWith]
      rfl

theorem checkedBlendInto_eq {weight : Nat} (bound : weight ≤ 256) (start finish blended : RgbaFrame) :
    checkedBlendInto start finish blended weight = some (blendInto start finish blended weight) := by
  have pixels : ∀ outputs starts finishes, checkedBlendPixels weight outputs starts finishes =
      some (blendPixels weight outputs starts finishes) := by
    intro outputs starts finishes
    fun_induction blendPixels weight outputs starts finishes with
    | case1 output outputs start starts finish finishes rest inductionHypothesis =>
      simp only [checkedBlendPixels, checkedMix_eq bound, inductionHypothesis, Option.bind_eq_bind,
        Option.bind_some]
      rfl
    | case2 outputs starts finishes short =>
      rw [checkedBlendPixels]
      · rfl
      · exact short
  rw [checkedBlendInto, pixels]
  rfl

/-! ## One sample -/

/-- The share of the second frame after so much time, in 256ths. -/
def dissolveWeight (elapsed : Nat) : Nat := min (min (elapsed * 256) (2 ^ 128 - 1) / dissolveDuration) 256

theorem dissolveWeight_le (elapsed : Nat) : dissolveWeight elapsed ≤ 256 := Nat.min_le_right _ _

theorem dissolveWeight_mono {earlier later : Nat} (order : earlier ≤ later) :
    dissolveWeight earlier ≤ dissolveWeight later := by
  have product : min (earlier * 256) (2 ^ 128 - 1) ≤ min (later * 256) (2 ^ 128 - 1) := by omega
  have quotient := Nat.div_le_div_right (c := dissolveDuration) product
  simp only [dissolveWeight]
  omega

theorem dissolveWeight_zero : dissolveWeight 0 = 0 := by decide

theorem dissolveWeight_full {elapsed : Nat} (ended : dissolveDuration ≤ elapsed) :
    dissolveWeight elapsed = 256 := by
  have start : dissolveWeight dissolveDuration = 256 := by decide
  have grows := dissolveWeight_mono ended
  have bound := dissolveWeight_le elapsed
  omega

/-- The frame is opaque, of the size of the endpoints, and its pixels are what the elapsed time says. -/
structure RgbaFrame.SampledAt (start finish : RgbaFrame) (elapsed : Nat) (frame : RgbaFrame) : Prop where
  solid : frame.Opaque
  size : sameDimensions frame finish = true
  pixels : frame.pixels = List.zipWith (mix (dissolveWeight elapsed)) start.pixels finish.pixels

/-- At every position the two frames are on the way between the endpoints, the later one further. -/
def RgbaFrame.Toward (start earlier later finish : RgbaFrame) : Prop :=
  ∀ position, DynamicWallpaper.Toward (start.pixels.getD position 0) (earlier.pixels.getD position 0)
    (later.pixels.getD position 0) (finish.pixels.getD position 0)

theorem RgbaFrame.SampledAt.toward {start finish first second : RgbaFrame} {earlier later : Nat}
    (lengths : start.pixels.length = finish.pixels.length)
    (isFirst : RgbaFrame.SampledAt start finish earlier first)
    (isSecond : RgbaFrame.SampledAt start finish later second) (order : earlier ≤ later) :
    RgbaFrame.Toward start first second finish := by
  intro position
  rw [isFirst.pixels, isSecond.pixels]
  exact zipWith_mix_toward lengths (dissolveWeight_mono order) (dissolveWeight_le later) position

theorem zipWith_mix_zero {starts finishes : List UInt8} (lengths : starts.length = finishes.length) :
    List.zipWith (mix 0) starts finishes = starts := by
  apply List.ext_getElem (by simp [lengths])
  intro position inside _
  simp [mix_zero]

theorem zipWith_mix_full {starts finishes : List UInt8} (lengths : starts.length = finishes.length) :
    List.zipWith (mix 256) starts finishes = finishes := by
  apply List.ext_getElem (by simp [lengths])
  intro position inside _
  simp [mix_full]

namespace Playback

/-- `advanceTransition` with the 16-bit arithmetic of the source. -/
def checkedAdvanceTransition (playback : Playback) (monotonic : Nat) : Option (Playback × Bool) :=
  match playback.transition with
  | none => some (playback, false)
  | some transition =>
    let elapsed := monotonic - transition.startedAt
    if dissolveDuration ≤ elapsed then some playback.settle
    else do
      let weight := min (min (elapsed * 256) (2 ^ 128 - 1) / dissolveDuration) 256
      let (blend, changed) ←
        checkedBlendInto transition.fromFrame transition.toFrame transition.blend weight
      pure ({ playback with transition := some { transition with blend := blend } }, changed)

theorem checkedAdvanceTransition_eq (playback : Playback) (monotonic : Nat) :
    playback.checkedAdvanceTransition monotonic = some (playback.advanceTransition monotonic) := by
  cases isTransition : playback.transition with
  | none => simp only [checkedAdvanceTransition, advanceTransition, isTransition]
  | some transition =>
    simp only [checkedAdvanceTransition, advanceTransition, isTransition]
    split
    next => rfl
    next =>
      rw [checkedBlendInto_eq (Nat.min_le_right _ _)]
      rfl

/-- The dissolve that `adopt` begins. -/
def begun (playback : Playback) (start finish blended : RgbaFrame) (toImage : ImageReference)
    (startedAt : Nat) : Playback :=
  { playback with
    presented := none
    presentedImage := none
    transition := some
      { fromFrame := start
        toFrame := finish
        blend := blended
        toImage := toImage
        startedAt := startedAt } }

/-- A frame of the same size that comes in time begins the dissolve, which is sampled at once. -/
theorem adopt_begun {playback : Playback} {pending : PendingDecode} {previous frame blended : RgbaFrame}
    {startedAt monotonic maxBlendBytes : Nat} {storage : Option Nat}
    (presented : playback.presented = some previous) (starts : pending.transitionStartedAt = some startedAt)
    (fresh : monotonic - startedAt < dissolveDuration) (same : sameDimensions previous frame = true)
    (blends : blend previous frame 0 maxBlendBytes storage = some blended) :
    (playback.adopt pending frame monotonic maxBlendBytes storage).1 =
      ((playback.begun previous frame blended pending.request.image startedAt).advanceTransition
        monotonic).1 := by
  have early : ¬dissolveDuration ≤ monotonic - startedAt := Nat.not_le.mpr fresh
  simp only [adopt, presented, starts, early, same, blends, decide_false, Bool.not_true, Bool.or_false,
    Bool.false_eq_true, if_false]
  rfl

/-- The dissolve is under way, or it has ended two seconds after its start. -/
def Dissolves (start finish : RgbaFrame) (startedAt since : Nat) (playback : Playback) : Prop :=
  match playback.transition with
  | some transition =>
    transition.fromFrame = start ∧ transition.toFrame = finish ∧ transition.startedAt = startedAt ∧
      transition.blend.Opaque ∧ sameDimensions transition.blend finish = true
  | none => playback.presented = some finish ∧ dissolveDuration ≤ since - startedAt

/-- One sample keeps the dissolve going and shows the frame of its time. -/
theorem dissolves_sample {playback : Playback} {start finish : RgbaFrame} {startedAt since sample : Nat}
    (startOpaque : start.Opaque) (finishOpaque : finish.Opaque) (same : sameDimensions start finish = true)
    (dissolves : playback.Dissolves start finish startedAt since) (order : since ≤ sample) :
    (playback.advanceTransition sample).1.Dissolves start finish startedAt sample ∧
      ∃ frame, (playback.advanceTransition sample).1.frame = some frame ∧
        RgbaFrame.SampledAt start finish (sample - startedAt) frame := by
  have lengths : start.pixels.length = finish.pixels.length := by
    simp only [sameDimensions, Bool.and_eq_true, beq_iff_eq] at same
    rw [startOpaque.length, finishOpaque.length, same.1, same.2]
  have whole : dissolveDuration ≤ sample - startedAt →
      RgbaFrame.SampledAt start finish (sample - startedAt) finish := by
    intro ended
    refine ⟨finishOpaque, by simp [sameDimensions], ?_⟩
    rw [dissolveWeight_full ended, zipWith_mix_full lengths]
  cases isTransition : playback.transition with
  | none =>
    simp only [Dissolves, isTransition] at dissolves
    obtain ⟨presented, ended⟩ := dissolves
    have later : dissolveDuration ≤ sample - startedAt := by omega
    simp only [advanceTransition, isTransition]
    refine ⟨?_, finish, ?_, whole later⟩
    · simp only [Dissolves, isTransition]
      exact ⟨presented, later⟩
    · simp only [frame, isTransition, presented, Option.map_none, Option.none_or]
  | some transition =>
    simp only [Dissolves, isTransition] at dissolves
    obtain ⟨isStart, isFinish, isStarted, solid, size⟩ := dissolves
    simp only [advanceTransition, isTransition, isStarted]
    split
    next ended =>
      simp only [settle, isTransition]
      refine ⟨?_, finish, ?_, whole ended⟩
      · simp only [Dissolves, isFinish]
        exact ⟨trivial, ended⟩
      · simp only [frame, isFinish, Option.map_none, Option.none_or]
    next early =>
      have shown := blendInto_opaque (dissolveWeight_le (sample - startedAt)) startOpaque finishOpaque
        solid same size
      simp only [isStart, isFinish]
      refine ⟨?_, _, ?_, shown.1, shown.2, ?_⟩
      · exact ⟨rfl, rfl, rfl, shown⟩
      · simp only [frame, Option.map_some, Option.some_or]
        rfl
      · have blendLength : transition.blend.pixels.length = finish.pixels.length := by
          simp only [sameDimensions, Bool.and_eq_true, beq_iff_eq] at size
          rw [solid.length, finishOpaque.length, size.1, size.2]
        exact blendPixels_eq_zipWith _ (by rw [lengths, blendLength]) blendLength.symm

/-! ## A run of samples -/

/-- The frame after each of the samples, unless an operation panics. -/
def checkedSamples (playback : Playback) : List Nat → Option (List (Option RgbaFrame))
  | [] => some []
  | sample :: samples => do
    let (next, _) ← playback.checkedAdvanceTransition sample
    let frames ← next.checkedSamples samples
    pure (next.frame :: frames)

theorem dissolves_samples {playback : Playback} {start finish : RgbaFrame} {startedAt since : Nat}
    (startOpaque : start.Opaque) (finishOpaque : finish.Opaque) (same : sameDimensions start finish = true)
    (dissolves : playback.Dissolves start finish startedAt since) {samples : List Nat}
    (ordered : (since :: samples).Pairwise (· ≤ ·)) :
    ∃ frames, playback.checkedSamples samples = some (frames.map some) ∧
      List.Forall₂ (fun sample frame => RgbaFrame.SampledAt start finish (sample - startedAt) frame)
        samples frames := by
  induction samples generalizing playback since with
  | nil => exact ⟨[], rfl, .nil⟩
  | cons sample samples inductionHypothesis =>
    rw [List.pairwise_cons] at ordered
    obtain ⟨first, rest⟩ := ordered
    obtain ⟨keeps, frame, shows, sampled⟩ := dissolves_sample startOpaque finishOpaque same dissolves
      (first sample List.mem_cons_self)
    obtain ⟨frames, isFrames, all⟩ := inductionHypothesis keeps rest
    refine ⟨frame :: frames, ?_, .cons sampled all⟩
    simp only [checkedSamples, checkedAdvanceTransition_eq, Option.bind_eq_bind, Option.bind_some,
      isFrames, shows]
    rfl

/-- Between equal-size valid frames, samples at times that do not decrease move every byte from the first
frame to the second and keep the alpha; no 16-bit operation of the dissolve panics. -/
theorem dissolve_samples {playback : Playback} {start finish blended : RgbaFrame}
    {toImage : ImageReference} {startedAt maxBlendBytes : Nat} {storage : Option Nat} {samples : List Nat}
    (startValid : validFrame start = true) (finishValid : validFrame finish = true)
    (same : sameDimensions start finish = true)
    (blends : blend start finish 0 maxBlendBytes storage = some blended)
    (ordered : samples.Pairwise (· ≤ ·)) :
    checkedBlend start finish 0 maxBlendBytes storage = some (some blended) ∧
      blended.pixels = start.pixels ∧
      ∃ frames,
        (playback.begun start finish blended toImage startedAt).checkedSamples samples =
          some (frames.map some) ∧
        List.Forall₂ (fun sample frame =>
          frame.Opaque ∧ sameDimensions frame finish = true ∧
            RgbaFrame.Toward start frame frame finish ∧
            (sample ≤ startedAt → frame.pixels = start.pixels) ∧
            (startedAt + dissolveDuration ≤ sample → frame.pixels = finish.pixels)) samples frames ∧
        frames.Pairwise fun earlier later => RgbaFrame.Toward start earlier later finish := by
  have startOpaque := validFrame_opaque startValid
  have finishOpaque := validFrame_opaque finishValid
  have lengths : start.pixels.length = finish.pixels.length := by
    simp only [sameDimensions, Bool.and_eq_true, beq_iff_eq] at same
    rw [startOpaque.length, finishOpaque.length, same.1, same.2]
  have shown := blend_opaque (Nat.zero_le 256) startOpaque finishOpaque same blends
  have first : blended.pixels = start.pixels := by
    simp only [blend, Option.ite_none_left_eq_some, Option.map_eq_some_iff] at blends
    obtain ⟨_, capacity, _, rfl⟩ := blends
    exact zipWith_mix_zero lengths
  have dissolves :
      (playback.begun start finish blended toImage startedAt).Dissolves start finish startedAt 0 :=
    ⟨rfl, rfl, rfl, shown⟩
  have fromZero : (0 :: samples).Pairwise (· ≤ ·) :=
    List.pairwise_cons.mpr ⟨fun _ _ => Nat.zero_le _, ordered⟩
  obtain ⟨frames, isFrames, all⟩ := dissolves_samples startOpaque finishOpaque same dissolves fromZero
  refine ⟨by rw [checkedBlend_eq (Nat.zero_le 256), blends], first, frames, isFrames, ?_, ?_⟩
  · refine all.imp ?_
    intro sample frame sampled
    refine ⟨sampled.solid, sampled.size, sampled.toward lengths sampled (Nat.le_refl _), ?_, ?_⟩
    · intro early
      rw [sampled.pixels, Nat.sub_eq_zero_of_le early, dissolveWeight_zero, zipWith_mix_zero lengths]
    · intro ended
      rw [sampled.pixels, dissolveWeight_full (by omega), zipWith_mix_full lengths]
  · -- Two samples differ by their weights alone, and a later one has the larger weight.
    apply Lists.pairwise_of_related all ordered
    intro earlier later first second isFirst isSecond order
    exact isFirst.toward lengths isSecond (by omega)

/-- Half a second before the end the blend has covered three quarters of the way. -/
theorem dissolve_samples_sample :
    ∃ frames : List RgbaFrame,
      (morningPlayback.begun (sampleFrame 10) (sampleFrame 200) (sampleFrame 10) ⟨1⟩ 0).checkedSamples
          [0, 1500000000, 2000000000] = some (frames.map some) ∧
        frames.map (·.pixels) = [[10, 10, 10, 255], [153, 153, 153, 255], [200, 200, 200, 255]] ∧
        frames.Pairwise fun earlier later =>
          RgbaFrame.Toward (sampleFrame 10) earlier later (sampleFrame 200) := by
  obtain ⟨_, _, frames, isFrames, _, toward⟩ := @dissolve_samples morningPlayback (sampleFrame 10)
    (sampleFrame 200) (sampleFrame 10) ⟨1⟩ 0 maxFrameBytes (some 4) [0, 1500000000, 2000000000]
    (by decide +kernel) (by decide +kernel) (by decide) (by decide +kernel) (by decide)
  refine ⟨frames, isFrames, ?_, toward⟩
  have evaluated :
      (morningPlayback.begun (sampleFrame 10) (sampleFrame 200) (sampleFrame 10) ⟨1⟩ 0).checkedSamples
        [0, 1500000000, 2000000000] =
      some ([sampleFrame 10, sampleFrame 153, sampleFrame 200].map some) := by decide +kernel
  have same : frames = [sampleFrame 10, sampleFrame 153, sampleFrame 200] := by
    rw [isFrames] at evaluated
    exact List.map_injective_iff.mpr (Option.some_injective _) (Option.some.inj evaluated)
  rw [same]
  rfl

end Playback

end Genkan.DynamicWallpaper
