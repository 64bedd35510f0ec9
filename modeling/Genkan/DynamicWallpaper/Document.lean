import Genkan.DynamicWallpaper.ColorProfile
import Genkan.DynamicWallpaper.Container
import Genkan.DynamicWallpaper.Packing
import Genkan.DynamicWallpaper.Properties

/-! # Opening a document and decoding its images

The container is parsed and its images are decoded by a library, and so are their colour profiles; what
these answer is the data of `HeifContext` and `ImageHandle`, and the functions of `Libraries`.
-/

namespace Genkan.DynamicWallpaper.Heic

open Foundations.Bytes

/-! ## What the libraries answer -/

inductive ColorPrimaries where
  | ituRBt709
  | unspecified
  | other
  deriving DecidableEq, Repr

inductive TransferCharacteristics where
  | iec61966
  | unspecified
  | other
  deriving DecidableEq, Repr

structure NclxProfile where
  colorPrimaries : ColorPrimaries
  transferCharacteristics : TransferCharacteristics
  deriving DecidableEq, Repr

structure MetadataBlock where
  size : Nat
  metadataType : Option String
  contentType : Option String
  metadata : Except String Slice

structure ImageHandle where
  itemId : UInt32
  width : UInt32
  height : UInt32
  lumaBitsPerPixel : UInt8
  chromaBitsPerPixel : UInt8
  colorProfileRaw : Option Slice
  colorProfileNclx : Option NclxProfile
  numberOfMetadataBlocks : Int
  /-- The identifiers that are written when there is room for so many. -/
  metadataBlockIds : Nat → List UInt32
  metadataBlock : UInt32 → MetadataBlock

structure Plane where
  data : Slice
  stride : Nat
  width : UInt32
  height : UInt32
  bitsPerPixel : UInt8
  storageBitsPerPixel : UInt8

structure DecodedImage where
  colorProfileRaw : Option Slice
  colorProfileNclx : Option NclxProfile
  isPremultipliedAlpha : Bool
  interleaved : Option Plane

structure HeifContext where
  imageIds : List UInt32
  primaryImageHandle : Except String ImageHandle
  imageHandle : UInt32 → Except String ImageHandle
  /-- Whether the limits can be changed once the metadata has been read. -/
  setSecurityLimits : Except String Unit
  decode : ImageHandle → Except String DecodedImage

structure SourceProfile where
  isRgb : Bool
  createTransform : Option TransformExecutor

structure Libraries where
  xml : XmlLibrary
  plist : PlistLibrary
  readHeif : Slice → Limits → Except String HeifContext
  readProfile : Slice → Option SourceProfile

/-! ## Checks of an image -/

def validateDimensions (handle : ImageHandle) (limits : Limits) : Except Error Unit := do
  let pixels ← okOr (checkedMul handle.width.toNat handle.height.toNat) (.limit "image dimensions")
  rejectIf (handle.width = 0 ∨ handle.height = 0 ∨ limits.maxWidth < handle.width ∨
    limits.maxHeight < handle.height ∨ limits.maxPixels.toNat < pixels) (.limit "image dimensions")

def validateNclx (profile : NclxProfile) : Except Error Unit := do
  rejectIf (profile.colorPrimaries = .other) (.unsupportedColor "non-sRGB color primaries")
  rejectIf (profile.transferCharacteristics = .other) (.unsupportedColor "non-sRGB transfer function")

/-- An image need not carry the profile. -/
def validateNclxOf (profile : Option NclxProfile) : Except Error Unit :=
  match profile with
  | none => pure ()
  | some profile => validateNclx profile

/-- `IccTransform::new`. -/
def iccTransform (libraries : Libraries) (profile : Slice) (limits : Limits) :
    Except Error TransformExecutor := do
  rejectIf (profile.length = 0 ∨ limits.maxColorProfileBytes.toNat < profile.length)
    (.unsupportedColor "embedded ICC profile size")
  preflightIccProfile profile limits
  let source ← okOr (libraries.readProfile profile) (.unsupportedColor "malformed embedded ICC profile")
  rejectIf (source.isRgb = false) (.unsupportedColor "non-RGB embedded ICC profile")
  okOr source.createTransform (.unsupportedColor "unconvertible embedded ICC profile")

/-- The transform of an image that carries a profile. -/
def iccTransformOf (libraries : Libraries) (profile : Option Slice) (limits : Limits) :
    Except Error (Option TransformExecutor) :=
  match profile with
  | none => pure none
  | some profile => do
    let transform ← iccTransform libraries profile limits
    pure (some transform)

def validateColor (libraries : Libraries) (handle : ImageHandle) (limits : Limits) :
    Except Error (Option TransformExecutor) := do
  rejectIf (8 < handle.lumaBitsPerPixel ∨ 8 < handle.chromaBitsPerPixel) (.unsupportedColor "HDR bit depth")
  let color ← iccTransformOf libraries handle.colorProfileRaw limits
  validateNclxOf handle.colorProfileNclx
  pure color

/-! ## Metadata -/

/-- The body of the loop over the properties of a packet. -/
def readProperty (libraries : Libraries) (images : TopLevelImages) (limits : Limits)
    (metadata : Metadata) (property : PropertyName × Slice) : Except Error Metadata := do
  let (name, value) ← parseProperty libraries.xml libraries.plist property.1 property.2 images limits
  match insertMetadataProperty metadata name value with
  | (metadata, .ok ()) => pure metadata
  | (_, .error error) => throw error

/-- The body of the loop over the blocks, with the bytes of all blocks so far. -/
def readBlock (libraries : Libraries) (handle : ImageHandle) (images : TopLevelImages) (limits : Limits)
    (state : Nat × Metadata) (id : UInt32) : Except Error (Nat × Metadata) := do
  let block := handle.metadataBlock id
  rejectIf (limits.maxMetadataBlockBytes.toNat < block.size) (.limit "metadata block size")
  let total ← okOr (checkedAdd state.1 block.size) (.limit "total metadata size")
  rejectIf (limits.maxMetadataBytes.toNat < total) (.limit "total metadata size")
  if block.metadataType ≠ some "mime" ∨ block.contentType ≠ some "application/rdf+xml" then
    pure (total, state.2)
  else do
    let bytes ← block.metadata.mapError .container
    let properties ← parseXmp libraries.xml limits bytes
    let metadata ← properties.foldlM (readProperty libraries images limits) state.2
    pure (total, metadata)

def readMetadata (libraries : Libraries) (handle : ImageHandle) (images : TopLevelImages)
    (limits : Limits) : Except Error Metadata := do
  let count := handle.numberOfMetadataBlocks.toNat
  rejectIf (limits.maxMetadataBlocks.toNat < count) (.limit "metadata block count")
  let ids := handle.metadataBlockIds count
  rejectIf (ids.length ≠ count) (.container "could not enumerate metadata blocks")
  let (_, metadata) ← ids.foldlM (readBlock libraries handle images limits) (0, {})
  pure metadata

/-! ## Documents -/

structure Document where
  context : HeifContext
  images : TopLevelImages
  primary : ImageReference
  metadata : Metadata
  limits : Limits

def Limits.containerBudget (limits : Limits) : Container.Budget where
  maxContainerItems := limits.maxContainerItems
  maxContainerAssociations := limits.maxContainerAssociations
  maxContainerBoxes := limits.maxContainerBoxes
  maxContainerDepth := limits.maxContainerDepth
  maxItemExtents := limits.maxItemExtents
  maxMetadataItems := UInt32.ofNat (min limits.maxMetadataItems.toNat (2 ^ 32 - 1))
  maxMetadataBytes := limits.maxMetadataBytes

namespace Document

/-- `open_with_limits`, once the bytes of the file have been read. -/
def openSource (libraries : Libraries) (source : Slice) (limits : Limits) : Except Error Document := do
  Container.preflight source limits.containerBudget
  let context ← (libraries.readHeif source limits).mapError .container
  rejectIf (context.imageIds = []) (.container "no top-level images")
  rejectIf (limits.maxTopLevelImages.toNat < context.imageIds.length) (.limit "top-level item count")
  let images : TopLevelImages := { itemIds := context.imageIds }
  let handle ← context.primaryImageHandle.mapError .container
  validateDimensions handle limits
  let position ← okOr (context.imageIds.findIdx? (· = handle.itemId))
    (.container "primary image is not top-level")
  let metadata ← readMetadata libraries handle images limits
  context.setSecurityLimits.mapError .container
  pure { context, images, primary := { position }, metadata, limits }

/-- `options` and `reserved` are what the allocator answers. -/
def decode (libraries : Libraries) (document : Document) (image : ImageReference) (options : Bool)
    (reserved : Reservations) : Except Error RgbaFrame := do
  let itemId ← okOr (document.images.resolve image) .missingImage
  let handle ← (document.context.imageHandle itemId).mapError .container
  validateDimensions handle document.limits
  let color ← validateColor libraries handle document.limits
  rejectIf (options = false) (.decode "could not allocate decoding options")
  let image ← (document.context.decode handle).mapError .decode
  rejectIf (color.isNone ∧ image.colorProfileRaw.isSome) (.unsupportedColor "decoded ICC profile")
  validateNclxOf image.colorProfileNclx
  let plane ← okOr image.interleaved (.decode "decoder returned no interleaved plane")
  rejectIf (plane.width ≠ handle.width ∨ plane.height ≠ handle.height)
    (.decode "decoded dimensions do not match the item")
  rejectIf (plane.bitsPerPixel ≠ 8 ∨ plane.storageBitsPerPixel ≠ 32)
    (.decode "decoder returned an unexpected RGBA representation")
  packRgba plane.data plane.stride plane.width.toNat plane.height.toNat document.limits
    image.isPremultipliedAlpha color reserved

end Document

end Genkan.DynamicWallpaper.Heic
