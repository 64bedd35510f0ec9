import Mathlib.Algebra.Ring.Nat

/-! # Decoded frames and their blends

`capacity` is the allocation behind the pixels, which the validity check bounds as well.
-/

namespace Genkan.DynamicWallpaper

def maxFrameBytes : Nat := 256 * 1024 * 1024

def usizeLimit : Nat := 2 ^ 64

def checkedMul (left right : Nat) : Option Nat :=
  if left * right < usizeLimit then some (left * right) else none

def checkedAdd (left right : Nat) : Option Nat :=
  if left + right < usizeLimit then some (left + right) else none

structure RgbaFrame where
  width : Nat
  height : Nat
  pixels : List UInt8
  capacity : Nat
  deriving DecidableEq, Repr

/-- The fourth byte of every whole group of four is 255. -/
def alphaSolid : List UInt8 → Bool
  | _ :: _ :: _ :: alpha :: rest => alpha == 255 && alphaSolid rest
  | _ => true

def validFrameWithLimit (frame : RgbaFrame) (maxFrameBytes : Nat) : Bool :=
  match (checkedMul frame.width 4).bind fun row => checkedMul row frame.height with
  | none => false
  | some bytes =>
    decide (0 < frame.width) && decide (0 < frame.height) && decide (bytes ≤ maxFrameBytes) &&
      frame.pixels.length == bytes && decide (frame.capacity ≤ maxFrameBytes) &&
      alphaSolid frame.pixels

def validFrame (frame : RgbaFrame) : Bool := validFrameWithLimit frame maxFrameBytes

def sameDimensions (left right : RgbaFrame) : Bool :=
  left.width == right.width && left.height == right.height

/-- The weighted mean of two bytes; the weights add up to 256, so the sum fits in 16 bits. -/
def mix (weight : Nat) (start finish : UInt8) : UInt8 :=
  UInt8.ofNat ((start.toNat * (256 - weight) + finish.toNat * weight + 128) / 256)

/-- `storage` is the capacity that the allocator reserves, if it does. -/
def blend (start finish : RgbaFrame) (weight : Nat) (maxOutputBytes : Nat) (storage : Option Nat) :
    Option RgbaFrame :=
  if maxOutputBytes < finish.pixels.length then none
  else storage.map fun capacity =>
    { width := finish.width
      height := finish.height
      pixels := List.zipWith (mix weight) start.pixels finish.pixels
      capacity := capacity }

/-- Overwrites the output with the blend and reports whether a byte changed. -/
def blendPixels (weight : Nat) : List UInt8 → List UInt8 → List UInt8 → List UInt8 × Bool
  | output :: outputs, start :: starts, finish :: finishes =>
    let rest := blendPixels weight outputs starts finishes
    (mix weight start finish :: rest.1, output != mix weight start finish || rest.2)
  | outputs, _, _ => (outputs, false)

def blendInto (start finish blended : RgbaFrame) (weight : Nat) : RgbaFrame × Bool :=
  let (pixels, changed) := blendPixels weight blended.pixels start.pixels finish.pixels
  ({ blended with pixels := pixels }, changed)

/-! ## Bytes on the way -/

/-- The two values are on the way from `start` to `finish`, the later one further along. -/
def Toward (start earlier later finish : UInt8) : Prop :=
  (start ≤ earlier ∧ earlier ≤ later ∧ later ≤ finish) ∨
    (finish ≤ later ∧ later ≤ earlier ∧ earlier ≤ start)

theorem mix_toNat {weight : Nat} (bound : weight ≤ 256) (start finish : UInt8) :
    (mix weight start finish).toNat =
      (start.toNat * (256 - weight) + finish.toNat * weight + 128) / 256 := by
  have startBound := start.toNat_lt
  have finishBound := finish.toNat_lt
  have startPart : start.toNat * (256 - weight) ≤ 255 * (256 - weight) := Nat.mul_le_mul_right _ (by omega)
  have finishPart : finish.toNat * weight ≤ 255 * weight := Nat.mul_le_mul_right _ (by omega)
  rw [mix, UInt8.toNat_ofNat']
  omega

/-- Between the endpoints, at the distance from the first that the weight says. -/
theorem mix_toNat_up {weight : Nat} (bound : weight ≤ 256) {start finish : UInt8} (up : start ≤ finish) :
    (mix weight start finish).toNat =
      start.toNat + ((finish.toNat - start.toNat) * weight + 128) / 256 := by
  have order : start.toNat ≤ finish.toNat := UInt8.le_iff_toNat_le.mp up
  obtain ⟨distance, isFinish⟩ := Nat.exists_eq_add_of_le order
  have whole : start.toNat * (256 - weight) + start.toNat * weight = start.toNat * 256 := by
    rw [← Nat.mul_add, Nat.sub_add_cancel bound]
  rw [mix_toNat bound, isFinish, Nat.add_sub_cancel_left, Nat.add_mul]
  omega

theorem mix_toNat_down {weight : Nat} (bound : weight ≤ 256) {start finish : UInt8}
    (down : finish ≤ start) :
    (mix weight start finish).toNat =
      finish.toNat + ((start.toNat - finish.toNat) * (256 - weight) + 128) / 256 := by
  have reversed : mix weight start finish = mix (256 - weight) finish start := by
    simp only [mix, Nat.sub_sub_self bound, Nat.add_comm (start.toNat * (256 - weight))]
  rw [reversed, mix_toNat_up (Nat.sub_le _ _) down]

theorem mix_toward {earlier later : Nat} (order : earlier ≤ later) (bound : later ≤ 256)
    (start finish : UInt8) :
    Toward start (mix earlier start finish) (mix later start finish) finish := by
  simp only [Toward, UInt8.le_iff_toNat_le]
  cases Nat.le_total start.toNat finish.toNat with
  | inl up =>
    left
    have isUp : start ≤ finish := UInt8.le_iff_toNat_le.mpr up
    rw [mix_toNat_up (Nat.le_trans order bound) isUp, mix_toNat_up bound isUp]
    have grows : (finish.toNat - start.toNat) * earlier ≤ (finish.toNat - start.toNat) * later :=
      Nat.mul_le_mul_left _ order
    have most : (finish.toNat - start.toNat) * later ≤ (finish.toNat - start.toNat) * 256 :=
      Nat.mul_le_mul_left _ bound
    omega
  | inr down =>
    right
    have isDown : finish ≤ start := UInt8.le_iff_toNat_le.mpr down
    rw [mix_toNat_down (Nat.le_trans order bound) isDown, mix_toNat_down bound isDown]
    have shrinks : (start.toNat - finish.toNat) * (256 - later) ≤
        (start.toNat - finish.toNat) * (256 - earlier) := Nat.mul_le_mul_left _ (by omega)
    have most : (start.toNat - finish.toNat) * (256 - earlier) ≤ (start.toNat - finish.toNat) * 256 :=
      Nat.mul_le_mul_left _ (Nat.sub_le _ _)
    omega

theorem mix_zero (start finish : UInt8) : mix 0 start finish = start := by
  apply UInt8.toNat_inj.mp
  rw [mix_toNat (Nat.zero_le _)]
  omega

theorem mix_full (start finish : UInt8) : mix 256 start finish = finish := by
  apply UInt8.toNat_inj.mp
  rw [mix_toNat (Nat.le_refl _)]
  omega

/-! ## What a retained frame satisfies -/

/-- Positive dimensions, as many bytes as they ask for, within the limit, and opaque. -/
structure RgbaFrame.Opaque (frame : RgbaFrame) : Prop where
  width : 0 < frame.width
  height : 0 < frame.height
  length : frame.pixels.length = frame.width * frame.height * 4
  bounded : frame.pixels.length ≤ maxFrameBytes
  alpha : ∀ pixel, pixel < frame.width * frame.height → frame.pixels[4 * pixel + 3]? = some 255

theorem alphaSolid_getElem? {pixels : List UInt8} (solid : alphaSolid pixels = true) :
    ∀ pixel, 4 * pixel + 3 < pixels.length → pixels[4 * pixel + 3]? = some 255 := by
  induction pixels using alphaSolid.induct with
  | case1 first second third alpha rest inductionHypothesis =>
    simp only [alphaSolid, Bool.and_eq_true, beq_iff_eq] at solid
    intro pixel bound
    cases pixel with
    | zero => simp [solid.1]
    | succ pixel =>
      simp only [List.length_cons] at bound
      exact inductionHypothesis solid.2 pixel (by omega)
  | case2 pixels short =>
    intro pixel bound
    rcases pixels with _ | ⟨first, _ | ⟨second, _ | ⟨third, _ | ⟨alpha, rest⟩⟩⟩⟩
    case cons.cons.cons.cons => exact (short first second third alpha rest rfl).elim
    all_goals
      simp only [List.length_cons, List.length_nil] at bound
      omega

theorem validFrame_opaque {frame : RgbaFrame} (valid : validFrame frame = true) : frame.Opaque := by
  simp only [validFrame, validFrameWithLimit] at valid
  split at valid
  next => contradiction
  next bytes isBytes =>
    simp only [checkedMul, Option.bind_eq_some_iff, Option.ite_none_right_eq_some,
      Option.some.injEq] at isBytes
    obtain ⟨row, ⟨_, rfl⟩, _, rfl⟩ := isBytes
    simp only [Bool.and_eq_true, decide_eq_true_eq, beq_iff_eq] at valid
    obtain ⟨⟨⟨⟨⟨width, height⟩, bounded⟩, length⟩, _⟩, solid⟩ := valid
    have exactly : frame.pixels.length = frame.width * frame.height * 4 := by
      rw [length, Nat.mul_right_comm]
    refine ⟨width, height, exactly, length ▸ bounded, ?_⟩
    intro pixel inside
    exact alphaSolid_getElem? solid pixel (by omega)

/-- Blending never leaves the range of a byte, and opaque bytes stay opaque. -/
theorem mix_opaque {weight : Nat} (bound : weight ≤ 256) : mix weight 255 255 = 255 := by
  have sum : 255 * (256 - weight) + 255 * weight + 128 = 65408 := by omega
  have value : (255 : UInt8).toNat = 255 := rfl
  simp [mix, value, sum]

theorem zipWith_mix_toward {starts finishes : List UInt8} (lengths : starts.length = finishes.length)
    {earlier later : Nat} (order : earlier ≤ later) (bound : later ≤ 256) (position : Nat) :
    Toward (starts.getD position 0) ((List.zipWith (mix earlier) starts finishes).getD position 0)
      ((List.zipWith (mix later) starts finishes).getD position 0) (finishes.getD position 0) := by
  by_cases inside : position < starts.length
  · have insideFinish := lengths ▸ inside
    simp only [List.getD_eq_getElem?_getD, List.getElem?_zipWith, List.getElem?_eq_getElem inside,
      List.getElem?_eq_getElem insideFinish, Option.getD_some]
    exact mix_toward order bound _ _
  · have outsideFinish := lengths ▸ inside
    simp only [List.getD_eq_getElem?_getD, List.getElem?_zipWith,
      List.getElem?_eq_none (Nat.le_of_not_lt inside),
      List.getElem?_eq_none (Nat.le_of_not_lt outsideFinish), Option.getD_none]
    exact .inl ⟨UInt8.le_refl _, UInt8.le_refl _, UInt8.le_refl _⟩

/-- The flag says whether the buffer changes. -/
theorem blendPixels_changed (weight : Nat) (outputs starts finishes : List UInt8) :
    (blendPixels weight outputs starts finishes).2 = true ↔
      outputs ≠ (blendPixels weight outputs starts finishes).1 := by
  fun_induction blendPixels weight outputs starts finishes with
  | case1 output outputs start starts finish finishes rest inductionHypothesis =>
    simp only [Bool.or_eq_true, inductionHypothesis, bne_iff_ne, ne_eq, List.cons.injEq, rest]
    exact Decidable.not_and_iff_not_or_not.symm
  | case2 outputs => simp

/-- Over frames of one length, blending into a buffer is blending anew. -/
theorem blendPixels_eq_zipWith (weight : Nat) {outputs starts finishes : List UInt8}
    (startLength : starts.length = outputs.length) (finishLength : finishes.length = outputs.length) :
    (blendPixels weight outputs starts finishes).1 = List.zipWith (mix weight) starts finishes := by
  induction outputs generalizing starts finishes with
  | nil =>
    rw [List.length_eq_zero_iff.mp startLength]
    rfl
  | cons output outputs inductionHypothesis =>
    cases starts with
    | nil => simp at startLength
    | cons start starts =>
      cases finishes with
      | nil => simp at finishLength
      | cons finish finishes =>
        simp only [List.length_cons, Nat.add_right_cancel_iff] at startLength finishLength
        simp [blendPixels, inductionHypothesis startLength finishLength]

theorem zipWith_solid {weight : Nat} (bound : weight ≤ 256) {start finish : RgbaFrame}
    (startOpaque : start.Opaque) (finishOpaque : finish.Opaque)
    (same : sameDimensions start finish = true) (capacity : Nat) :
    (RgbaFrame.mk finish.width finish.height (List.zipWith (mix weight) start.pixels finish.pixels)
      capacity).Opaque := by
  simp only [sameDimensions, Bool.and_eq_true, beq_iff_eq] at same
  have startLength : start.pixels.length = finish.width * finish.height * 4 := by
    rw [startOpaque.length, same.1, same.2]
  have length : (List.zipWith (mix weight) start.pixels finish.pixels).length =
      finish.width * finish.height * 4 := by
    rw [List.length_zipWith, startLength, finishOpaque.length, Nat.min_self]
  refine ⟨finishOpaque.width, finishOpaque.height, length, ?_, ?_⟩
  · rw [length, ← finishOpaque.length]
    exact finishOpaque.bounded
  · intro pixel inside
    have startAlpha := startOpaque.alpha pixel (by rwa [same.1, same.2])
    have finishAlpha := finishOpaque.alpha pixel inside
    simp [List.getElem?_zipWith, startAlpha, finishAlpha, mix_opaque bound]

theorem blend_opaque {start finish blended : RgbaFrame} {weight maxOutputBytes : Nat}
    {storage : Option Nat} (bound : weight ≤ 256) (startOpaque : start.Opaque)
    (finishOpaque : finish.Opaque) (same : sameDimensions start finish = true)
    (blends : blend start finish weight maxOutputBytes storage = some blended) :
    blended.Opaque ∧ sameDimensions blended finish = true := by
  simp only [blend, Option.ite_none_left_eq_some, Option.map_eq_some_iff] at blends
  obtain ⟨_, capacity, _, rfl⟩ := blends
  exact ⟨zipWith_solid bound startOpaque finishOpaque same capacity, by simp [sameDimensions]⟩

theorem blendInto_opaque {start finish blended : RgbaFrame} {weight : Nat} (bound : weight ≤ 256)
    (startOpaque : start.Opaque) (finishOpaque : finish.Opaque) (blendedOpaque : blended.Opaque)
    (same : sameDimensions start finish = true) (sameBlend : sameDimensions blended finish = true) :
    (blendInto start finish blended weight).1.Opaque ∧
      sameDimensions (blendInto start finish blended weight).1 finish = true := by
  refine ⟨?_, by simpa [blendInto, sameDimensions] using sameBlend⟩
  simp only [sameDimensions, Bool.and_eq_true, beq_iff_eq] at same sameBlend
  have startLength : start.pixels.length = blended.pixels.length := by
    rw [startOpaque.length, blendedOpaque.length, same.1, same.2, sameBlend.1, sameBlend.2]
  have finishLength : finish.pixels.length = blended.pixels.length := by
    rw [finishOpaque.length, blendedOpaque.length, sameBlend.1, sameBlend.2]
  have whole := zipWith_solid bound startOpaque finishOpaque (by simp [sameDimensions, same])
    blended.capacity
  rw [← blendPixels_eq_zipWith weight startLength finishLength] at whole
  simpa only [blendInto, sameBlend.1, sameBlend.2] using whole

end Genkan.DynamicWallpaper
