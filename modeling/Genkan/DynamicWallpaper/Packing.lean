import Genkan.DynamicWallpaper.Parsing
import Genkan.Foundations.Chunks
import Genkan.Foundations.Results
import Mathlib.Data.Option.Basic
import Mathlib.Logic.Relator

/-! # Packing a decoded plane

The rows of a plane are packed, an embedded profile is converted to sRGB in bounded chunks while the
colours are straight, and the result is composited over opaque black.  The main result is that all of
this is one function of each pixel.
-/

namespace Genkan.DynamicWallpaper.Heic

open Foundations Foundations.Bytes Foundations.Chunks

structure Pixel where
  red : UInt8
  green : UInt8
  blue : UInt8
  alpha : UInt8
  deriving DecidableEq, Repr

namespace Pixel

def bytes (pixel : Pixel) : List UInt8 := [pixel.red, pixel.green, pixel.blue, pixel.alpha]

def onColours (pixel : Pixel) (channel : UInt8 → UInt8) : Pixel :=
  { pixel with red := channel pixel.red, green := channel pixel.green, blue := channel pixel.blue }

/-- The sum fits in 16 bits. -/
def unpremultiplyChannel (alpha channel : UInt8) : UInt8 :=
  UInt8.ofNat (min ((channel.toNat * 255 + alpha.toNat / 2) / alpha.toNat) 255)

def unpremultiply (pixel : Pixel) : Pixel :=
  if pixel.alpha = 255 then pixel
  else if pixel.alpha = 0 then pixel.onColours fun _ => 0
  else pixel.onColours (unpremultiplyChannel pixel.alpha)

def compositeChannel (alpha channel : UInt8) : UInt8 :=
  UInt8.ofNat ((channel.toNat * alpha.toNat + 127) / 255)

def compositeOverBlack (premultipliedAlpha : Bool) (pixel : Pixel) : Pixel :=
  let pixel := if premultipliedAlpha then pixel else pixel.onColours (compositeChannel pixel.alpha)
  { pixel with alpha := 255 }

end Pixel

/-- The loop over `chunks_exact_mut(4)`. -/
def eachPixel (change : Pixel → Pixel) : List UInt8 → List UInt8
  | red :: green :: blue :: alpha :: rest => (change ⟨red, green, blue, alpha⟩).bytes ++ eachPixel change rest
  | rest => rest

def unpremultiply : List UInt8 → List UInt8 := eachPixel Pixel.unpremultiply

def compositeOverBlack (pixels : List UInt8) (premultipliedAlpha : Bool) : List UInt8 :=
  eachPixel (Pixel.compositeOverBlack premultipliedAlpha) pixels

/-! ## The conversion -/

def iccConversionChunkBytes : Nat := 1024 * 1024

/-- A colour transform takes the source bytes and what the destination held, and fills the destination.
Its error is not looked at. -/
abbrev TransformExecutor := List UInt8 → List UInt8 → Except Unit (List UInt8)

/-- What the allocator reserves: the capacity for the pixels, and whether there is room for the scratch. -/
structure Reservations where
  pixels : Option Nat
  scratch : Bool
  deriving DecidableEq, Repr

/-- The loop.  Each chunk is converted into the front of the scratch and copied back. -/
def convertChunks (transform : TransformExecutor) (scratch : List UInt8) :
    List (List UInt8) → Except Error (List UInt8)
  | [] => .ok []
  | chunk :: rest =>
    match transform chunk (scratch.take chunk.length) with
    | .error () => .error (.unsupportedColor "embedded ICC profile conversion failed")
    | .ok converted => do
      let rest ← convertChunks transform (converted ++ scratch.drop chunk.length) rest
      pure (converted ++ rest)

def convertToSrgb (pixels : List UInt8) (transform : TransformExecutor) (reserved : Reservations) :
    Except Error (List UInt8) := do
  rejectIf (reserved.scratch = false) (.limit "ICC conversion buffer")
  let scratch := List.replicate (min iccConversionChunkBytes pixels.length) 0
  convertChunks transform scratch (chunks iccConversionChunkBytes pixels)

/-! ## Packing -/

/-- The first `height` rows of the plane, without their padding.  A stride of zero panics, and a plane
that has pixels does not have it. -/
def packRows (source : Slice) (stride rowBytes height : Nat) : List UInt8 :=
  ((chunks stride source.bytes).take height).flatMap (List.take rowBytes)

def packRgba (source : Slice) (stride width height : Nat) (limits : Limits) (premultipliedAlpha : Bool)
    (color : Option TransformExecutor) (reserved : Reservations) : Except Error RgbaFrame := do
  let rowBytes ← okOr (checkedMul width 4) (.limit "decoded image memory")
  let outputBytes ← okOr (checkedMul rowBytes height) (.limit "decoded image memory")
  rejectIf (limits.maxOutputBytes.toNat < outputBytes) (.limit "decoded image memory")
  rejectIf (stride < rowBytes) (.decode "decoded row stride is too short")
  let required ← okOr (checkedMul stride height) (.decode "decoded plane size overflow")
  rejectIf (source.length < required) (.decode "decoded plane is truncated")
  let capacity ← okOr reserved.pixels (.limit "decoded image memory")
  let pixels := packRows source stride rowBytes height
  let pixels ← match color with
    | none => pure pixels
    | some transform =>
      convertToSrgb (if premultipliedAlpha then unpremultiply pixels else pixels) transform reserved
  pure { width, height, capacity,
         pixels := compositeOverBlack pixels (premultipliedAlpha && color.isNone) }

example : packRgba ⟨[255, 100, 1, 0, 7, 8, 9, 255], by decide⟩ 8 2 1 {} false none ⟨some 8, true⟩ =
    .ok { width := 2, height := 1, capacity := 8, pixels := [0, 0, 0, 255, 7, 8, 9, 255] } := rfl

/-! ## Bytes of pixels -/

@[simp] theorem Pixel.length_bytes (pixel : Pixel) : pixel.bytes.length = 4 := rfl

theorem eachPixel_bytes (change : Pixel → Pixel) (pixels : List Pixel) :
    eachPixel change (pixels.flatMap Pixel.bytes) = (pixels.map change).flatMap Pixel.bytes := by
  induction pixels with
  | nil => rfl
  | cons pixel pixels inductionHypothesis =>
    rw [List.flatMap_cons, List.map_cons, List.flatMap_cons, ← inductionHypothesis]
    rfl

/-- The pixel whose bytes start at the offset. -/
def pixelAt (bytes : List UInt8) (offset : Nat) : Pixel :=
  ⟨bytes.getD offset 0, bytes.getD (offset + 1) 0, bytes.getD (offset + 2) 0, bytes.getD (offset + 3) 0⟩

theorem take_pixels {bytes : List UInt8} {offset count : Nat} (within : offset + count * 4 ≤ bytes.length) :
    (bytes.drop offset).take (count * 4) =
      ((List.range count).map fun index => pixelAt bytes (offset + index * 4)).flatMap Pixel.bytes := by
  induction count with
  | zero => simp
  | succ count inductionHypothesis =>
    rw [Nat.add_mul, Nat.one_mul, List.take_add, List.drop_drop, inductionHypothesis (by omega),
      Lists.take_four 0 (by omega), List.range_succ, List.map_append, List.flatMap_append, List.map_singleton,
      List.flatMap_singleton]
    rfl

theorem pixelAt_bytes {pixels : List Pixel} {index : Nat} {pixel : Pixel} (found : pixels[index]? = some pixel) :
    pixelAt (pixels.flatMap Pixel.bytes) (index * 4) = pixel := by
  have channel : ∀ offset, offset < 4 →
      (pixels.flatMap Pixel.bytes).getD (index * 4 + offset) 0 = pixel.bytes.getD offset 0 := by
    intro offset inside
    rw [List.getD_eq_getElem?_getD, List.getD_eq_getElem?_getD,
      Lists.getElem?_flatMap_chunk (fun value _ => Pixel.length_bytes value) found inside]
  rw [pixelAt, ← Nat.add_zero (index * 4), Nat.add_assoc, channel 0 (by decide)]
  simp only [Nat.zero_add, channel 1 (by decide), channel 2 (by decide), channel 3 (by decide)]
  rfl

/-! ## Decoded planes -/

/-- The rows of a plane are at least as long as their pixels, and all of them are there.  The dimensions
were validated before it was decoded. -/
structure DecodedPlane where
  data : Slice
  stride : Nat
  width : Nat
  height : Nat
  widthPositive : 0 < width
  heightPositive : 0 < height
  covers : width * 4 ≤ stride
  complete : stride * height ≤ data.length

namespace DecodedPlane

variable (plane : DecodedPlane)

def pixel (x y : Nat) : Pixel := pixelAt plane.data.bytes (y * plane.stride + x * 4)

def row (y : Nat) : List Pixel := (List.range plane.width).map (plane.pixel · y)

def pixels : List Pixel := (List.range plane.height).flatMap plane.row

/-- `pack_rgba` on the plane. -/
def pack (limits : Limits) (premultipliedAlpha : Bool) (color : Option TransformExecutor)
    (reserved : Reservations) : Except Error RgbaFrame :=
  packRgba plane.data plane.stride plane.width plane.height limits premultipliedAlpha color reserved

variable {plane}

theorem length_row (y : Nat) : (plane.row y).length = plane.width := by
  rw [row, List.length_map, List.length_range]

theorem length_pixels : plane.pixels.length = plane.height * plane.width := by
  rw [pixels, Lists.length_flatMap_chunk fun y _ => plane.length_row y, List.length_range]

theorem getElem?_pixels {x y : Nat} (column : x < plane.width) (row : y < plane.height) :
    plane.pixels[y * plane.width + x]? = some (plane.pixel x y) := by
  have found : (List.range plane.height)[y]? = some y := List.getElem?_range row
  rw [pixels, Lists.getElem?_flatMap_chunk (fun y _ => plane.length_row y) found column, DecodedPlane.row,
    List.getElem?_map, List.getElem?_range column, Option.map_some]

theorem stride_positive : 0 < plane.stride := by
  have positive := plane.widthPositive
  have covers := plane.covers
  omega

theorem row_within {y : Nat} (row : y < plane.height) :
    y * plane.stride + plane.stride ≤ plane.data.length := by
  calc y * plane.stride + plane.stride = (y + 1) * plane.stride := (Nat.succ_mul y plane.stride).symm
    _ ≤ plane.height * plane.stride := Nat.mul_le_mul_right plane.stride row
    _ = plane.stride * plane.height := Nat.mul_comm plane.height plane.stride
    _ ≤ plane.data.length := plane.complete

/-- Repacking drops the padding and nothing else. -/
theorem packRows_eq : packRows plane.data plane.stride (plane.width * 4) plane.height =
    plane.pixels.flatMap Pixel.bytes := by
  have complete : plane.height * plane.stride ≤ plane.data.bytes.length := by
    rw [Nat.mul_comm]
    exact plane.complete
  have rows : ∀ y ∈ List.range plane.height,
      (chunk plane.stride plane.data.bytes y).take (plane.width * 4) = (plane.row y).flatMap Pixel.bytes := by
    intro y member
    have within := plane.row_within (List.mem_range.mp member)
    rw [chunk, List.take_take, Nat.min_eq_left plane.covers]
    exact take_pixels (Nat.le_trans (Nat.add_le_add_left plane.covers _) within)
  rw [packRows, take_chunks plane.stride_positive complete, List.flatMap_map, pixels, List.flatMap_assoc]
  exact List.flatMap_congr rows

end DecodedPlane

/-! ## Transforms of single pixels -/

/-- On whole pixels, with a destination of their size, the transform applies the function to each. -/
def ActsPerPixel (transform : TransformExecutor) (convert : Pixel → Pixel) : Prop :=
  ∀ (pixels : List Pixel) (destination : List UInt8), destination.length = pixels.length * 4 →
    transform (pixels.flatMap Pixel.bytes) destination = .ok ((pixels.map convert).flatMap Pixel.bytes)

theorem length_flatMap_bytes (pixels : List Pixel) :
    (pixels.flatMap Pixel.bytes).length = pixels.length * 4 :=
  Lists.length_flatMap_chunk fun pixel _ => pixel.length_bytes

variable {transform : TransformExecutor} {convert : Pixel → Pixel}

theorem convertChunks_ok (acts : ActsPerPixel transform convert) (pieces : List (List Pixel))
    {scratch : List UInt8} (room : ∀ piece ∈ pieces, piece.length * 4 ≤ scratch.length) :
    convertChunks transform scratch (pieces.map (List.flatMap Pixel.bytes)) =
      .ok ((pieces.flatten.map convert).flatMap Pixel.bytes) := by
  induction pieces generalizing scratch with
  | nil => rfl
  | cons piece pieces inductionHypothesis =>
    have length := length_flatMap_bytes piece
    have fits := room piece List.mem_cons_self
    have converted := acts piece (scratch.take (piece.length * 4)) (by rw [List.length_take]; omega)
    have keeps : ((piece.map convert).flatMap Pixel.bytes ++ scratch.drop (piece.length * 4)).length =
        scratch.length := by
      rw [List.length_append, length_flatMap_bytes, List.length_map, List.length_drop]
      omega
    rw [List.map_cons, convertChunks, length, converted]
    simp only
    rw [inductionHypothesis fun later member => keeps ▸ room later (List.mem_cons_of_mem _ member),
      List.flatten_cons, List.map_append, List.flatMap_append]
    rfl

theorem convertToSrgb_ok (acts : ActsPerPixel transform convert) (pixels : List Pixel) {reserved : Reservations}
    (scratch : reserved.scratch = true) :
    convertToSrgb (pixels.flatMap Pixel.bytes) transform reserved =
      .ok ((pixels.map convert).flatMap Pixel.bytes) := by
  have size : iccConversionChunkBytes = 262144 * 4 := rfl
  have pieces : chunks iccConversionChunkBytes (pixels.flatMap Pixel.bytes) =
      (chunks 262144 pixels).map (List.flatMap Pixel.bytes) := by
    rw [size, chunks_flatMap Pixel.length_bytes (by decide) (by decide)]
  have room : ∀ piece ∈ chunks 262144 pixels, piece.length * 4 ≤
      (List.replicate (min iccConversionChunkBytes (pixels.flatMap Pixel.bytes).length) (0 : UInt8)).length := by
    intro piece member
    obtain ⟨index, _, rfl⟩ := List.mem_map.mp member
    rw [List.length_replicate, length_flatMap_bytes, chunk, List.length_take, List.length_drop, size]
    omega
  have converts := convertChunks_ok acts (chunks 262144 pixels) room
  rw [flatten_chunks (by decide)] at converts
  rw [convertToSrgb, rejectIf, if_neg (by simp [scratch]), pieces, Results.ok_bind]
  exact converts

/-! ## What packing does to a pixel -/

/-- Unpremultiply, then transform, then composite. -/
def Pixel.packed (premultipliedAlpha : Bool) (convert : Option (Pixel → Pixel)) (pixel : Pixel) : Pixel :=
  match convert with
  | none => pixel.compositeOverBlack premultipliedAlpha
  | some convert =>
    (convert (if premultipliedAlpha then pixel.unpremultiply else pixel)).compositeOverBlack false

theorem Pixel.packed_alpha (premultipliedAlpha : Bool) (convert : Option (Pixel → Pixel)) (pixel : Pixel) :
    (pixel.packed premultipliedAlpha convert).alpha = 255 := by
  cases convert with
  | none => rfl
  | some convert => rfl

theorem alphaSolid_bytes {pixels : List Pixel} (solid : ∀ pixel ∈ pixels, pixel.alpha = 255) :
    alphaSolid (pixels.flatMap Pixel.bytes) = true := by
  induction pixels with
  | nil => rfl
  | cons pixel pixels inductionHypothesis =>
    obtain ⟨head, tail⟩ := List.forall_mem_cons.mp solid
    have rest := inductionHypothesis tail
    change (pixel.alpha == 255 && alphaSolid (pixels.flatMap Pixel.bytes)) = true
    rw [head, rest]
    rfl

theorem unpremultiplyChannel_toNat (alpha channel : UInt8) :
    (Pixel.unpremultiplyChannel alpha channel).toNat =
      min ((channel.toNat * 255 + alpha.toNat / 2) / alpha.toNat) 255 := by
  rw [Pixel.unpremultiplyChannel, UInt8.toNat_ofNat']
  exact Nat.mod_eq_of_lt (Nat.lt_of_le_of_lt (Nat.min_le_right _ _) (by decide))

theorem compositeChannel_toNat (alpha channel : UInt8) :
    (Pixel.compositeChannel alpha channel).toNat = (channel.toNat * alpha.toNat + 127) / 255 := by
  have product : channel.toNat * alpha.toNat ≤ 255 * 255 :=
    Nat.mul_le_mul (Nat.le_of_lt_succ channel.toNat_lt) (Nat.le_of_lt_succ alpha.toNat_lt)
  rw [Pixel.compositeChannel, UInt8.toNat_ofNat']
  omega

/-- The division rounds by at most half the alpha, which the multiplication turns into less than half of 255. -/
theorem compositeChannel_unpremultiplyChannel {alpha channel : UInt8} (positive : alpha ≠ 0)
    (bounded : channel ≤ alpha) :
    Pixel.compositeChannel alpha (Pixel.unpremultiplyChannel alpha channel) = channel := by
  have alphaPositive : 0 < alpha.toNat := Nat.pos_of_ne_zero fun isZero => positive (UInt8.toNat_inj.mp isZero)
  have alphaBound : alpha.toNat ≤ 255 := Nat.le_of_lt_succ alpha.toNat_lt
  have channelBound : channel.toNat ≤ alpha.toNat := UInt8.le_iff_toNat_le.mp bounded
  apply UInt8.toNat_inj.mp
  rw [compositeChannel_toNat, unpremultiplyChannel_toNat]
  generalize alpha.toNat = alpha at *
  generalize channel.toNat = channel at *
  have whole := Nat.div_add_mod (channel * 255 + alpha / 2) alpha
  have rest := Nat.mod_lt (channel * 255 + alpha / 2) alphaPositive
  have straight : (channel * 255 + alpha / 2) / alpha ≤ 255 := by
    apply Nat.le_of_lt_succ
    rw [Nat.div_lt_iff_lt_mul alphaPositive]
    omega
  rw [Nat.min_eq_left straight, Nat.mul_comm _ alpha]
  omega

theorem compositeChannel_solid (channel : UInt8) : Pixel.compositeChannel 255 channel = channel := by
  apply UInt8.toNat_inj.mp
  rw [compositeChannel_toNat]
  change (channel.toNat * 255 + 127) / 255 = channel.toNat
  omega

/-- No colour exceeds the alpha, as in every premultiplied pixel. -/
def Pixel.Premultiplied (pixel : Pixel) : Prop :=
  pixel.red ≤ pixel.alpha ∧ pixel.green ≤ pixel.alpha ∧ pixel.blue ≤ pixel.alpha

theorem Pixel.packed_id {pixel : Pixel} (premultiplied : pixel.Premultiplied) :
    pixel.packed true (some id) = pixel.packed true none := by
  obtain ⟨red, green, blue, alpha⟩ := pixel
  obtain ⟨redBound, greenBound, blueBound⟩ := premultiplied
  simp only at redBound greenBound blueBound
  have straight : Pixel.packed true (some id) ⟨red, green, blue, alpha⟩ =
      (Pixel.unpremultiply ⟨red, green, blue, alpha⟩).compositeOverBlack false := rfl
  have kept : Pixel.packed true none ⟨red, green, blue, alpha⟩ = ⟨red, green, blue, 255⟩ := rfl
  rw [straight, kept, Pixel.unpremultiply]
  by_cases solid : alpha = 255
  · -- Nothing is divided out, and compositing at full alpha changes nothing.
    subst solid
    rw [if_pos rfl]
    simp only [Pixel.compositeOverBlack, Pixel.onColours, Bool.false_eq_true, if_false, compositeChannel_solid]
  · rw [if_neg solid]
    by_cases clear : alpha = 0
    · -- All colours are zero.
      subst clear
      have isZero : ∀ channel : UInt8, channel ≤ 0 → channel = 0 := fun channel bound =>
        UInt8.le_antisymm bound (UInt8.zero_le)
      rw [isZero red redBound, isZero green greenBound, isZero blue blueBound]
      rfl
    · rw [if_neg clear]
      simp only [Pixel.compositeOverBlack, Pixel.onColours, Bool.false_eq_true, if_false,
        compositeChannel_unpremultiplyChannel clear redBound,
        compositeChannel_unpremultiplyChannel clear greenBound,
        compositeChannel_unpremultiplyChannel clear blueBound]

namespace DecodedPlane

variable {plane : DecodedPlane} {limits : Limits} {premultipliedAlpha : Bool} {reserved : Reservations}

theorem output_lt : plane.width * 4 * plane.height < usizeLimit := by
  calc plane.width * 4 * plane.height ≤ plane.stride * plane.height :=
        Nat.mul_le_mul_right plane.height plane.covers
    _ ≤ plane.data.length := plane.complete
    _ < usizeLimit := Slice.length_lt plane.data

/-- The checks pass on every plane that fits the limit. -/
theorem pack_checked {color : Option TransformExecutor} {capacity : Nat}
    (within : plane.width * 4 * plane.height ≤ limits.maxOutputBytes.toNat)
    (pixels : reserved.pixels = some capacity) :
    plane.pack limits premultipliedAlpha color reserved = (do
      let packed := plane.pixels.flatMap Pixel.bytes
      let pixels ← match color with
        | none => pure packed
        | some transform =>
          convertToSrgb (if premultipliedAlpha then unpremultiply packed else packed) transform reserved
      pure { width := plane.width, height := plane.height, capacity,
             pixels := compositeOverBlack pixels (premultipliedAlpha && color.isNone) }) := by
  have output := plane.output_lt
  have required : plane.stride * plane.height < usizeLimit :=
    Nat.lt_of_le_of_lt plane.complete (Slice.length_lt plane.data)
  have rowBytes : plane.width * 4 < usizeLimit :=
    Nat.lt_of_le_of_lt (Nat.le_mul_of_pos_right _ plane.heightPositive) output
  have isRowBytes : checkedMul plane.width 4 = some (plane.width * 4) := if_pos rowBytes
  have isOutput : checkedMul (plane.width * 4) plane.height = some (plane.width * 4 * plane.height) := if_pos output
  have isRequired : checkedMul plane.stride plane.height = some (plane.stride * plane.height) := if_pos required
  have passes : ∀ (error : Error) {small large : Nat}, small ≤ large → rejectIf (large < small) error = .ok () :=
    fun _ _ _ bound => if_neg (Nat.not_lt.mpr bound)
  rw [pack, packRgba]
  simp only [isRowBytes, isOutput, isRequired, pixels, okOr, Results.ok_bind, passes _ within,
    passes _ plane.covers, passes _ plane.complete, plane.packRows_eq]

theorem pack_eq {color : Option TransformExecutor} {convert : Option (Pixel → Pixel)}
    (acts : Option.Rel ActsPerPixel color convert) {capacity : Nat}
    (within : plane.width * 4 * plane.height ≤ limits.maxOutputBytes.toNat)
    (pixels : reserved.pixels = some capacity) (scratch : reserved.scratch = true) :
    plane.pack limits premultipliedAlpha color reserved = .ok {
      width := plane.width
      height := plane.height
      capacity
      pixels := (plane.pixels.map (Pixel.packed premultipliedAlpha convert)).flatMap Pixel.bytes } := by
  rw [pack_checked within pixels]
  cases acts with
  | none =>
    simp only [Option.isNone_none, Bool.and_true, Heic.compositeOverBlack, pure_bind, eachPixel_bytes]
    rfl
  | @some transform convert acts =>
    have straight : (if premultipliedAlpha then Heic.unpremultiply (plane.pixels.flatMap Pixel.bytes)
        else plane.pixels.flatMap Pixel.bytes) =
        (plane.pixels.map fun pixel => if premultipliedAlpha then pixel.unpremultiply else pixel).flatMap
          Pixel.bytes := by
      cases premultipliedAlpha with
      | false => simp
      | true => exact eachPixel_bytes Pixel.unpremultiply plane.pixels
    simp only [straight, convertToSrgb_ok acts _ scratch, Results.ok_bind, Option.isNone_some, Bool.and_false,
      Heic.compositeOverBlack, eachPixel_bytes, List.map_map]
    rfl

/-- Only the pixels of a plane are looked at, also by a transform that mixes them. -/
theorem pack_congr {other : DecodedPlane} {color : Option TransformExecutor} {capacity : Nat}
    (within : plane.width * 4 * plane.height ≤ limits.maxOutputBytes.toNat)
    (pixels : reserved.pixels = some capacity) (width : other.width = plane.width)
    (height : other.height = plane.height)
    (same : ∀ x y, x < plane.width → y < plane.height → other.pixel x y = plane.pixel x y) :
    other.pack limits premultipliedAlpha color reserved = plane.pack limits premultipliedAlpha color reserved := by
  have samePixels : other.pixels = plane.pixels := by
    rw [DecodedPlane.pixels, DecodedPlane.pixels, height]
    apply List.flatMap_congr
    intro y row
    rw [DecodedPlane.row, DecodedPlane.row, width]
    apply List.map_congr_left
    intro x column
    exact same x y (List.mem_range.mp column) (List.mem_range.mp row)
  rw [pack_checked (by rwa [width, height]) pixels, pack_checked within pixels, samePixels, width, height]

/-- Packing is one function of each pixel: neither the padding nor the chunks show, and the identity on
premultiplied pixels is no transform at all. -/
theorem pack_pixelwise (plane : DecodedPlane) (limits : Limits) (premultipliedAlpha : Bool) (reserved : Reservations)
    (within : plane.width * plane.height * 4 ≤ limits.maxOutputBytes.toNat)
    (pixels : reserved.pixels.isSome) (scratch : reserved.scratch = true) :
    (∀ color convert, Option.Rel ActsPerPixel color convert →
      ∃ frame, plane.pack limits premultipliedAlpha color reserved = .ok frame ∧
        frame.width = plane.width ∧ frame.height = plane.height ∧
        frame.pixels.length = plane.width * plane.height * 4 ∧ alphaSolid frame.pixels = true ∧
        ∀ x y, x < plane.width → y < plane.height →
          pixelAt frame.pixels ((y * plane.width + x) * 4) =
            (plane.pixel x y).packed premultipliedAlpha convert) ∧
    (∀ other : DecodedPlane, other.width = plane.width → other.height = plane.height →
      (∀ x y, x < plane.width → y < plane.height → other.pixel x y = plane.pixel x y) → ∀ color,
        other.pack limits premultipliedAlpha color reserved =
          plane.pack limits premultipliedAlpha color reserved) ∧
    (∀ transform, ActsPerPixel transform id → premultipliedAlpha = true →
      (∀ x y, x < plane.width → y < plane.height → (plane.pixel x y).Premultiplied) →
      plane.pack limits premultipliedAlpha (some transform) reserved =
        plane.pack limits premultipliedAlpha none reserved) := by
  obtain ⟨capacity, isCapacity⟩ := Option.isSome_iff_exists.mp pixels
  rw [Nat.mul_right_comm] at within
  refine ⟨?_, ?_, ?_⟩
  · intro color convert acts
    refine ⟨_, plane.pack_eq acts within isCapacity scratch, rfl, rfl, ?_, ?_, ?_⟩
    · rw [length_flatMap_bytes, List.length_map, plane.length_pixels, Nat.mul_comm plane.height]
    · apply alphaSolid_bytes
      intro pixel member
      obtain ⟨source, _, rfl⟩ := List.mem_map.mp member
      exact Pixel.packed_alpha premultipliedAlpha convert source
    · intro x y column row
      apply pixelAt_bytes
      rw [List.getElem?_map, plane.getElem?_pixels column row, Option.map_some]
  · intro other width height same color
    exact plane.pack_congr within isCapacity width height same
  · intro transform acts isPremultiplied premultiplied
    subst isPremultiplied
    -- On a premultiplied pixel packing with the identity is packing without a profile.
    have same : plane.pixels.map (Pixel.packed true (some id)) = plane.pixels.map (Pixel.packed true none) := by
      apply List.map_congr_left
      intro pixel member
      obtain ⟨y, row, inRow⟩ := List.mem_flatMap.mp member
      obtain ⟨x, column, isPixel⟩ := List.mem_map.mp inRow
      rw [← isPixel]
      exact Pixel.packed_id (premultiplied x y (List.mem_range.mp column) (List.mem_range.mp row))
    rw [plane.pack_eq (.some acts) within isCapacity scratch, plane.pack_eq .none within isCapacity scratch, same]

/-- One row of two pixels with four bytes of padding. -/
def sample : DecodedPlane where
  data := ⟨[64, 32, 0, 128, 10, 20, 30, 255, 1, 2, 3, 4], by decide⟩
  stride := 12
  width := 2
  height := 1
  widthPositive := by decide
  heightPositive := by decide
  covers := by decide
  complete := by decide

def invert (pixel : Pixel) : Pixel := pixel.onColours fun channel => 255 - channel

def inverting : TransformExecutor := fun source _ => .ok (eachPixel invert source)

theorem inverting_acts : ActsPerPixel inverting invert := by
  intro pixels _ _
  rw [inverting, eachPixel_bytes]

/-- The first pixel is half transparent: it is divided by its alpha, inverted, and laid over black. -/
theorem pack_pixelwise_inverted :
    ∃ frame, sample.pack {} true (some inverting) ⟨some 8, true⟩ = .ok frame ∧
      frame.pixels.length = 8 ∧ pixelAt frame.pixels 0 = ⟨64, 96, 128, 255⟩ ∧
      pixelAt frame.pixels 4 = ⟨245, 235, 225, 255⟩ := by
  have spec := pack_pixelwise sample {} true ⟨some 8, true⟩ (by decide) rfl rfl
  obtain ⟨frame, packs, _, _, length, _, pixel⟩ := spec.1 _ _ (.some inverting_acts)
  have first : (sample.pixel 0 0).packed true (some invert) = ⟨64, 96, 128, 255⟩ := by decide
  have second : (sample.pixel 1 0).packed true (some invert) = ⟨245, 235, 225, 255⟩ := by decide
  exact ⟨frame, packs, length, (pixel 0 0 (by decide) (by decide)).trans first,
    (pixel 1 0 (by decide) (by decide)).trans second⟩

end DecodedPlane

end Genkan.DynamicWallpaper.Heic
