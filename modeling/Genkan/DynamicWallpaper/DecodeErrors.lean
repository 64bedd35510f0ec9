import Genkan.DynamicWallpaper.Document
import Genkan.Foundations.Results

/-! # The errors of a decode

Once the image has been found, a decode fails for other reasons only: no later check or library reports
a missing image.
-/

namespace Genkan.DynamicWallpaper.Heic

open Foundations.Bytes Foundations.Results

/-- The image was there. -/
def Error.Found (error : Error) : Prop := error ≠ .missingImage

/-- The computation does not report a missing image. -/
abbrev Finds {α : Type} : Except Error α → Prop := FailsWith Error.Found

variable {limits : Limits}

theorem okOr_finds {α : Type} {value : Option α} {error : Error} (found : error.Found) :
    Finds (okOr value error) := by
  cases value with
  | none => exact .error found
  | some value => exact .ok value

theorem rejectIf_finds {condition : Prop} [Decidable condition] {error : Error} (found : error.Found) :
    Finds (rejectIf condition error) := by
  rw [rejectIf]
  split
  next => exact .error found
  next => exact .ok ()

/-! ## Colour profiles -/

theorem chargeIccTextBytes_finds (decoded : Nat) (charges : Charges) :
    Finds (chargeIccTextBytes decoded limits charges) := by
  refine .bind (okOr_finds nofun) fun total => .bind (rejectIf_finds nofun) fun _ => ?_
  exact .ok (total, charges.2)

theorem countIccRecord_finds (charges : Charges) : Finds (countIccRecord limits charges) :=
  .bind (rejectIf_finds nofun) fun _ => .ok _

theorem chargeIccRecord_finds (tag : Slice) (offset length : Nat) (charges : Charges) :
    Finds (chargeIccRecord tag offset length limits charges) := by
  rw [chargeIccRecord]
  split
  next => exact .ok _
  next =>
    refine .bind (countIccRecord_finds charges) fun counted => ?_
    exact .bind (chargeIccTextBytes_finds _ counted) fun charged => .ok (true, charged)

theorem chargeIccRecords_finds (tag : Slice) (remaining record : Nat) (charges : Charges) :
    Finds (chargeIccRecords tag limits remaining record charges) := by
  induction remaining generalizing record charges with
  | zero => exact .ok charges
  | succ remaining inductionHypothesis =>
    rw [chargeIccRecords]
    split
    next => exact .ok charges
    next header _ =>
      refine .bind (chargeIccRecord_finds tag _ _ charges) fun result => ?_
      split
      split
      next => exact inductionHypothesis _ _
      next => exact .ok _

theorem chargeLocalized_finds (tag : Slice) (charges : Charges) :
    Finds (chargeLocalized tag limits charges) := by
  rw [chargeLocalized]
  split
  next => exact .ok charges
  next =>
    refine .bind (chargeIccRecord_finds tag _ _ charges) fun result => ?_
    split
    split
    next => exact chargeIccRecords_finds tag _ _ _
    next => exact .ok _

theorem chargeUnicode_finds (tag : Slice) (asciiEnd : Nat) (charges : Charges) :
    Finds (chargeUnicode tag asciiEnd limits charges) := by
  rw [chargeUnicode]
  split
  next => exact .ok charges
  next =>
    refine .bind (countIccRecord_finds charges) fun counted => ?_
    split
    next => exact .ok counted
    next =>
      split
      next => exact .ok counted
      next => exact chargeIccTextBytes_finds _ counted

theorem chargeDescription_finds (tag : Slice) (charges : Charges) :
    Finds (chargeDescription tag limits charges) := by
  simp only [chargeDescription]
  split
  next => exact .ok charges
  next =>
    split
    next => exact .ok charges
    next =>
      split
      next => exact .ok charges
      next => exact .bind (chargeIccTextBytes_finds _ charges) fun charged => chargeUnicode_finds tag _ charged

theorem chargeIccTag_finds (profile : Slice) (charges : Charges) (index : Nat) :
    Finds (chargeIccTag profile limits charges index) := by
  have finish (offset size : Nat) : Finds (iccTagEnd profile offset size) := by
    rw [iccTagEnd]
    split
    next => exact .ok profile.length
    next => exact okOr_finds nofun
  refine .bind (finish _ _) fun finish => .bind (rejectIf_finds nofun) fun _ => ?_
  simp only
  split
  next =>
    rw [chargeIccText]
    split
    next => exact chargeLocalized_finds _ charges
    next =>
      split
      next => exact chargeDescription_finds _ charges
      next => exact chargeIccTextBytes_finds _ charges
  next => exact .ok charges

theorem preflightIccProfile_finds (profile : Slice) : Finds (preflightIccProfile profile limits) := by
  refine .bind (rejectIf_finds nofun) fun _ => .bind (rejectIf_finds nofun) fun _ => ?_
  refine .bind (rejectIf_finds nofun) fun _ => .bind (okOr_finds nofun) fun tableEnd => ?_
  refine .bind (rejectIf_finds nofun) fun _ => ?_
  exact .bind (.foldlM (chargeIccTag_finds profile) _ _) fun _ => .ok ()

theorem iccTransform_finds (libraries : Libraries) (profile : Slice) :
    Finds (iccTransform libraries profile limits) := by
  refine .bind (rejectIf_finds nofun) fun _ => .bind (preflightIccProfile_finds profile) fun _ => ?_
  refine .bind (okOr_finds nofun) fun source => .bind (rejectIf_finds nofun) fun _ => ?_
  exact okOr_finds nofun

/-! ## Checks of an image -/

theorem validateDimensions_finds (handle : ImageHandle) : Finds (validateDimensions handle limits) :=
  .bind (okOr_finds nofun) fun _ => rejectIf_finds nofun

theorem validateNclxOf_finds (profile : Option NclxProfile) : Finds (validateNclxOf profile) := by
  cases profile with
  | none => exact .ok ()
  | some profile => exact .bind (rejectIf_finds nofun) fun _ => rejectIf_finds nofun

theorem validateColor_finds (libraries : Libraries) (handle : ImageHandle) :
    Finds (validateColor libraries handle limits) := by
  have transforms : Finds (iccTransformOf libraries handle.colorProfileRaw limits) := by
    cases handle.colorProfileRaw with
    | none => exact .ok none
    | some profile => exact .bind (iccTransform_finds libraries profile) fun transform => .ok (some transform)
  refine .bind (rejectIf_finds nofun) fun _ => .bind transforms fun color => ?_
  exact .bind (validateNclxOf_finds _) fun _ => .ok color

/-! ## Packing -/

theorem convertChunks_finds (transform : TransformExecutor) (scratch : List UInt8)
    (parts : List (List UInt8)) : Finds (convertChunks transform scratch parts) := by
  induction parts generalizing scratch with
  | nil => exact .ok []
  | cons part rest inductionHypothesis =>
    rw [convertChunks]
    split
    next =>
      refine .error ?_
      intro internal
      cases internal
    next converted _ => exact .bind (inductionHypothesis _) fun _ => .ok _

theorem packRgba_finds (source : Slice) (stride width height : Nat) (premultipliedAlpha : Bool)
    (color : Option TransformExecutor) (reserved : Reservations) :
    Finds (packRgba source stride width height limits premultipliedAlpha color reserved) := by
  refine .bind (okOr_finds nofun) fun rowBytes => .bind (okOr_finds nofun) fun outputBytes => ?_
  refine .bind (rejectIf_finds nofun) fun _ => .bind (rejectIf_finds nofun) fun _ => ?_
  refine .bind (okOr_finds nofun) fun required => .bind (rejectIf_finds nofun) fun _ => ?_
  refine .bind (okOr_finds nofun) fun capacity => ?_
  cases color with
  | none => exact .bind (.ok _) fun _ => .ok _
  | some transform =>
    refine .bind (.bind (rejectIf_finds nofun) fun _ => ?_) fun _ => .ok _
    exact convertChunks_finds transform _ _

/-- An image that resolves is not missed. -/
theorem Document.decode_finds (libraries : Libraries) {document : Document} {image : ImageReference}
    {itemId : UInt32} (resolves : document.images.resolve image = some itemId) (options : Bool)
    (reserved : Reservations) : Finds (document.decode libraries image options reserved) := by
  rw [Document.decode, resolves]
  refine .bind (.ok itemId) fun itemId => .bind (.mapError (fun _ => nofun) _) fun handle => ?_
  refine .bind (validateDimensions_finds handle) fun _ => .bind (validateColor_finds libraries handle) fun color => ?_
  refine .bind (rejectIf_finds nofun) fun _ => .bind (.mapError (fun _ => nofun) _) fun decoded => ?_
  refine .bind (rejectIf_finds nofun) fun _ => .bind (validateNclxOf_finds _) fun _ => ?_
  refine .bind (okOr_finds nofun) fun plane => .bind (rejectIf_finds nofun) fun _ => ?_
  exact .bind (rejectIf_finds nofun) fun _ => packRgba_finds plane.data plane.stride _ _ _ color reserved

end Genkan.DynamicWallpaper.Heic
