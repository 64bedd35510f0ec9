import Genkan.DynamicWallpaper.Frames
import Genkan.Foundations.Bytes

/-! # Parsing untrusted files

The errors of the parsers, their limits, and the integers that they read from a slice.
-/

namespace Genkan.DynamicWallpaper.Heic

open Foundations.Bytes

inductive Error where
  | limit (what : String)
  | container (message : String)
  | metadata (message : String)
  | missingImage
  | unsupportedColor (what : String)
  | decode (message : String)
  deriving DecidableEq, Repr

structure Limits where
  maxContainerItems : UInt32 := 4096
  maxContainerAssociations : UInt32 := 32768
  maxContainerBoxes : UInt32 := 16384
  maxContainerDepth : UInt32 := 16
  maxItemExtents : UInt32 := 32
  maxMetadataItems : UInt64 := 64
  maxTopLevelImages : UInt64 := 64
  maxMetadataBlocks : UInt64 := 64
  maxWidth : UInt32 := 16384
  maxHeight : UInt32 := 16384
  maxPixels : UInt64 := 64 * 1024 * 1024
  maxMetadataBlockBytes : UInt64 := 1024 * 1024
  maxMetadataBytes : UInt64 := 4 * 1024 * 1024
  maxColorProfileBytes : UInt64 := 1024 * 1024
  maxColorProfileTags : UInt64 := 64
  maxColorProfileTextBytes : UInt64 := 4 * 1024 * 1024
  maxColorProfileTextRecords : UInt64 := 1024
  maxXmlDepth : UInt64 := 32
  maxXmlEvents : UInt64 := 4096
  maxPlistBytes : UInt64 := 512 * 1024
  maxPlistObjects : UInt64 := 1024
  maxExpandedPlistObjects : UInt64 := 4096
  maxExpandedPlistBytes : UInt64 := 16 * 1024 * 1024
  maxPlistDepth : UInt64 := 32
  maxSchedulePoints : UInt64 := 256
  maxOutputBytes : UInt64 := 256 * 1024 * 1024
  deriving DecidableEq, Repr

def okOr {Value : Type} (value : Option Value) (error : Error) : Except Error Value :=
  match value with
  | some value => .ok value
  | none => .error error

/-- An early return of the error. -/
def rejectIf (condition : Prop) [Decidable condition] (error : Error) : Except Error Unit :=
  if condition then .error error else .ok ()

/-- The integer that some bytes of the file spell. -/
def number (slice : Slice) (start length : Nat) : Nat := ofBigEndian (slice.part start length)

theorem number_lt (slice : Slice) (offset width : Nat) : number slice offset width < 256 ^ width := by
  have short : (slice.part offset width).length ≤ width := List.length_take_le width _
  exact Nat.lt_of_lt_of_le (ofBigEndian_lt _) (Nat.pow_le_pow_right (by decide) short)

theorem okOr_eq_ok {Value : Type} {value : Option Value} {error : Error} {result : Value} :
    okOr value error = .ok result ↔ value = some result := by
  cases value with
  | none => simp [okOr]
  | some value => simp [okOr]

theorem rejectIf_eq_ok {condition : Prop} [Decidable condition] {error : Error} {done : Unit} :
    rejectIf condition error = .ok done ↔ ¬ condition := by
  rw [rejectIf]
  split
  next holds => simp [holds]
  next fails => simp [fails]

theorem checkedAdd_eq_some {left right total : Nat} :
    checkedAdd left right = some total ↔ left + right = total ∧ left + right < usizeLimit := by
  rw [checkedAdd]
  split
  next fits => simp [fits]
  next exceeds => simp [exceeds]

theorem checkedMul_eq_some {left right product : Nat} :
    checkedMul left right = some product ↔ left * right = product ∧ left * right < usizeLimit := by
  rw [checkedMul]
  split
  next fits => simp [fits]
  next exceeds => simp [exceeds]

theorem Slice.length_lt (slice : Slice) : slice.length < usizeLimit :=
  Nat.lt_trans slice.bounded (by decide)

end Genkan.DynamicWallpaper.Heic
