import Genkan.DynamicWallpaper.Document
import Genkan.Foundations.Results

/-! # The images that parsed metadata refers to

A reference is looked up when it is parsed, and nothing that is built from parsed properties refers to
another image: a predicate of the references that were parsed holds of all that the metadata refers to.
-/

namespace Genkan.DynamicWallpaper

open Foundations.Results

def TopLevelImages.Resolves (images : TopLevelImages) (reference : ImageReference) : Prop :=
  (images.resolve reference).isSome

/-! ## References -/

section References

variable (allowed : ImageReference → Prop)

def Appearance.ImagesIn (pair : Appearance) : Prop := allowed pair.light ∧ allowed pair.dark

structure Schedule.ImagesIn {Point : Type} (image : Point → ImageReference)
    (schedule : Schedule Point) : Prop where
  points : ∀ point ∈ schedule.points, allowed (image point)
  appearance : ∀ pair, schedule.appearance = some pair → pair.ImagesIn allowed

def PropertyValue.ImagesIn : PropertyValue → Prop
  | time schedule => schedule.ImagesIn allowed TimePoint.image
  | solar schedule => schedule.ImagesIn allowed SolarPoint.image
  | appearance pair => pair.ImagesIn allowed

structure Metadata.ImagesIn (metadata : Metadata) : Prop where
  time : ∀ schedule, metadata.time.value = some schedule → schedule.ImagesIn allowed TimePoint.image
  solar : ∀ schedule, metadata.solar.value = some schedule → schedule.ImagesIn allowed SolarPoint.image
  appearance : ∀ pair, metadata.appearance.value = some pair → pair.ImagesIn allowed

end References

variable {allowed : ImageReference → Prop}

namespace Metadata

theorem imagesIn_empty : ImagesIn allowed {} where
  time := nofun
  solar := nofun
  appearance := nofun

/-- A property keeps its value or takes the new one. -/
theorem insertProperty_value {α : Type} [DecidableEq α] {state : PropertyState α}
    {property : AppleProperty} {value found : α}
    (isFound : (insertProperty state property value).1.value = some found) :
    state.value = some found ∨ found = value := by
  cases state with
  | missing => exact .inr (Option.some.inj isFound).symm
  | valid existing =>
    rw [insertProperty] at isFound
    split at isFound
    next => exact .inl isFound
    next => contradiction
  | conflicted => contradiction

theorem ImagesIn.insert {metadata : Metadata} (inMetadata : metadata.ImagesIn allowed)
    (property : AppleProperty) {value : PropertyValue} (inValue : value.ImagesIn allowed) :
    (metadata.insert property value).1.ImagesIn allowed := by
  unfold Metadata.insert
  split
  next => exact inMetadata
  next =>
    cases value with
    | time schedule =>
      refine { inMetadata with time := ?_ }
      intro found isFound
      cases insertProperty_value isFound with
      | inl before => exact inMetadata.time found before
      | inr inserted => exact inserted ▸ inValue
    | solar schedule =>
      refine { inMetadata with solar := ?_ }
      intro found isFound
      cases insertProperty_value isFound with
      | inl before => exact inMetadata.solar found before
      | inr inserted => exact inserted ▸ inValue
    | appearance pair =>
      refine { inMetadata with appearance := ?_ }
      intro found isFound
      cases insertProperty_value isFound with
      | inl before => exact inMetadata.appearance found before
      | inr inserted => exact inserted ▸ inValue

/-! ## Selection -/

theorem ImagesIn.fallbackAppearance {metadata : Metadata} (inMetadata : metadata.ImagesIn allowed)
    {pair : Appearance} (isPair : metadata.fallbackAppearance = some pair) : pair.ImagesIn allowed := by
  rw [Metadata.fallbackAppearance, Option.or_eq_some_iff, Option.or_eq_some_iff] at isPair
  obtain (own | ⟨_, ofTime⟩) | ⟨_, ofSolar⟩ := isPair
  · exact inMetadata.appearance pair own
  · obtain ⟨schedule, isSchedule, isAppearance⟩ := Option.bind_eq_some_iff.mp ofTime
    exact (inMetadata.time schedule isSchedule).appearance pair isAppearance
  · obtain ⟨schedule, isSchedule, isAppearance⟩ := Option.bind_eq_some_iff.mp ofSolar
    exact (inMetadata.solar schedule isSchedule).appearance pair isAppearance

/-- The image of a static selection is one of the fallback appearance. -/
theorem fixed_of_fallback {fallback : Option Appearance} {choose : Appearance → ImageReference}
    {image : ImageReference}
    (isFixed : (fallback.map fun pair => Selection.fixed (choose pair)).getD .primary = .fixed image) :
    ∃ pair, fallback = some pair ∧ image = choose pair := by
  cases fallback with
  | none => contradiction
  | some pair => exact ⟨pair, rfl, (Selection.fixed.inj isFixed).symm⟩

theorem ImagesIn.fixed {metadata : Metadata} (inMetadata : metadata.ImagesIn allowed)
    {appearance : AppearancePreference} {image : ImageReference}
    (isFixed : metadata.select appearance false false = .fixed image) : allowed image := by
  cases appearance with
  | light =>
    obtain ⟨pair, isPair, isLight⟩ := fixed_of_fallback isFixed
    exact isLight ▸ (inMetadata.fallbackAppearance isPair).1
  | dark =>
    obtain ⟨pair, isPair, isDark⟩ := fixed_of_fallback isFixed
    exact isDark ▸ (inMetadata.fallbackAppearance isPair).2
  | automatic =>
    cases isTime : metadata.time.value with
    | some schedule => simp [Metadata.select, isTime] at isFixed
    | none =>
      simp only [Metadata.select, isTime, Bool.false_and, Bool.false_eq_true, if_false] at isFixed
      obtain ⟨pair, isPair, isLight⟩ := fixed_of_fallback isFixed
      exact isLight ▸ (inMetadata.fallbackAppearance isPair).1

theorem ImagesIn.scheduled {metadata : Metadata} (inMetadata : metadata.ImagesIn allowed)
    {appearance : AppearancePreference} {schedule : Schedule TimePoint}
    (isTime : metadata.select appearance false false = .time schedule) :
    ∀ point ∈ schedule.points, allowed point.image := by
  have notStatic {fallback : Option Appearance} {choose : Appearance → ImageReference} :
      (fallback.map fun pair => Selection.fixed (choose pair)).getD .primary ≠ .time schedule := by
    cases fallback <;> nofun
  cases appearance with
  | light => exact absurd isTime notStatic
  | dark => exact absurd isTime notStatic
  | automatic =>
    cases found : metadata.time.value with
    | none =>
      simp only [Metadata.select, found, Bool.false_and, Bool.false_eq_true, if_false] at isTime
      exact absurd isTime notStatic
    | some valid =>
      simp only [Metadata.select, found, Bool.false_and, Bool.false_eq_true, if_false] at isTime
      cases isTime
      exact (inMetadata.time _ found).points

end Metadata

/-! ## Parsing -/

namespace Heic

open Foundations.Bytes

variable {images : TopLevelImages} {limits : Limits}

namespace Dictionary

variable {dictionary : Dictionary}

theorem imageReference_resolves {key : String} {index : ImageReference}
    (isIndex : imageReference dictionary key images = .ok index) : images.Resolves index := by
  obtain ⟨position, _, checks⟩ := bind_eq_ok.mp isIndex
  obtain ⟨_, present, isIndex⟩ := bind_eq_ok.mp checks
  rw [rejectIf_eq_ok] at present
  rw [← pure_eq_ok.mp isIndex]
  exact Option.isSome_iff_ne_none.mpr present

theorem parseAppearance_resolves {pair : Appearance}
    (isPair : parseAppearance dictionary images = .ok pair) : pair.ImagesIn images.Resolves := by
  obtain ⟨dark, isDark, rest⟩ := bind_eq_ok.mp isPair
  obtain ⟨light, isLight, isPair⟩ := bind_eq_ok.mp rest
  rw [← pure_eq_ok.mp isPair]
  exact ⟨imageReference_resolves isLight, imageReference_resolves isDark⟩

theorem optionalAppearance_resolves {fallback : Option Appearance}
    (isFallback : optionalAppearance dictionary images = .ok fallback) {pair : Appearance}
    (isPair : fallback = some pair) : pair.ImagesIn images.Resolves := by
  rw [optionalAppearance] at isFallback
  split at isFallback
  next =>
    cases pure_eq_ok.mp isFallback
    contradiction
  next value _ =>
    obtain ⟨entries, _, rest⟩ := bind_eq_ok.mp isFallback
    obtain ⟨found, isFound, isSome⟩ := bind_eq_ok.mp rest
    cases (pure_eq_ok.mp isSome).trans isPair
    exact parseAppearance_resolves isFound

end Dictionary

theorem timePoint_resolves {entry : Dictionary} {point : TimePoint}
    (isPoint : timePoint images entry = .ok point) : images.Resolves point.image := by
  obtain ⟨image, isImage, rest⟩ := bind_eq_ok.mp isPoint
  obtain ⟨value, _, rest⟩ := bind_eq_ok.mp rest
  obtain ⟨time, _, isPoint⟩ := bind_eq_ok.mp rest
  rw [← pure_eq_ok.mp isPoint]
  exact Dictionary.imageReference_resolves isImage

theorem solarPoint_resolves {entry : Dictionary} {point : SolarPoint}
    (isPoint : solarPoint images entry = .ok point) : images.Resolves point.image := by
  obtain ⟨image, isImage, rest⟩ := bind_eq_ok.mp isPoint
  obtain ⟨altitude, _, rest⟩ := bind_eq_ok.mp rest
  obtain ⟨azimuth, _, rest⟩ := bind_eq_ok.mp rest
  obtain ⟨position, _, isPoint⟩ := bind_eq_ok.mp rest
  rw [← pure_eq_ok.mp isPoint]
  exact Dictionary.imageReference_resolves isImage

theorem orMetadata_eq_ok {α : Type} {result : Except ModelError α} {value : α} :
    orMetadata result = .ok value ↔ result = .ok value := by
  cases result with
  | error error => constructor <;> nofun
  | ok found =>
    constructor
    · intro same
      exact congrArg Except.ok (Except.ok.inj same)
    · intro same
      exact congrArg Except.ok (Except.ok.inj same)

/-- A schedule shows what its points and its fallback were read to show. -/
theorem parseSchedule_resolves {Point : Type} {key kind : String}
    {readPoint : Dictionary → Except Error Point} {image : Point → ImageReference}
    (resolves : ∀ entry point, readPoint entry = .ok point → images.Resolves (image point))
    {dictionary : Dictionary} {schedule : Schedule Point}
    (parsed : parseSchedule key kind readPoint dictionary images limits = .ok schedule) :
    schedule.ImagesIn images.Resolves image := by
  obtain ⟨values, _, rest⟩ := bind_eq_ok.mp parsed
  obtain ⟨_, _, rest⟩ := bind_eq_ok.mp rest
  obtain ⟨points, arePoints, rest⟩ := bind_eq_ok.mp rest
  obtain ⟨fallback, isFallback, isSchedule⟩ := bind_eq_ok.mp rest
  rw [orMetadata_eq_ok, Schedule.new] at isSchedule
  split at isSchedule
  next =>
    cases isSchedule
    constructor
    · intro point member
      obtain ⟨value, _, isPoint⟩ := mem_of_mapM arePoints member
      obtain ⟨entry, _, isPoint⟩ := bind_eq_ok.mp isPoint
      exact resolves entry point isPoint
    · intro pair isPair
      exact Dictionary.optionalAppearance_resolves isFallback isPair
  next => contradiction

/-- Each image reference of a parsed property resolves. -/
theorem parseProperty_resolves {xml : XmlLibrary} {plist : PlistLibrary} {name : PropertyName}
    {slice : Slice} {entry : AppleProperty × PropertyValue}
    (parsed : parseProperty xml plist name slice images limits = .ok entry) :
    entry.2.ImagesIn images.Resolves := by
  obtain ⟨value, _, rest⟩ := bind_eq_ok.mp parsed
  obtain ⟨dictionary, _, parsed⟩ := bind_eq_ok.mp rest
  cases name with
  | h24 =>
    obtain ⟨schedule, isSchedule, isEntry⟩ := bind_eq_ok.mp parsed
    rw [← pure_eq_ok.mp isEntry]
    exact parseSchedule_resolves (fun _ _ => timePoint_resolves) isSchedule
  | solar =>
    obtain ⟨schedule, isSchedule, isEntry⟩ := bind_eq_ok.mp parsed
    rw [← pure_eq_ok.mp isEntry]
    exact parseSchedule_resolves (fun _ _ => solarPoint_resolves) isSchedule
  | apr =>
    obtain ⟨pair, isPair, isEntry⟩ := bind_eq_ok.mp parsed
    rw [← pure_eq_ok.mp isEntry]
    exact Dictionary.parseAppearance_resolves isPair

/-! ## Documents -/

variable {libraries : Libraries}

theorem insertMetadataProperty_fst (metadata : Metadata) (name : AppleProperty) (value : PropertyValue) :
    (insertMetadataProperty metadata name value).1 = (metadata.insert name value).1 := by
  rw [insertMetadataProperty]
  split
  next isResult => rw [isResult]
  next isResult => rw [isResult]
  next isResult => rw [isResult]

theorem readProperty_resolves {metadata next : Metadata} {property : PropertyName × Slice}
    (reads : readProperty libraries images limits metadata property = .ok next)
    (inMetadata : metadata.ImagesIn images.Resolves) : next.ImagesIn images.Resolves := by
  obtain ⟨⟨name, value⟩, isEntry, inserts⟩ := bind_eq_ok.mp reads
  have inserted : (insertMetadataProperty metadata name value).1.ImagesIn images.Resolves := by
    rw [insertMetadataProperty_fst]
    exact inMetadata.insert name (parseProperty_resolves isEntry)
  simp only at inserts
  split at inserts
  next isResult =>
    rw [isResult] at inserted
    exact pure_eq_ok.mp inserts ▸ inserted
  next => contradiction

theorem readBlock_resolves {handle : ImageHandle} {state next : Nat × Metadata} {blockId : UInt32}
    (reads : readBlock libraries handle images limits state blockId = .ok next)
    (inMetadata : state.2.ImagesIn images.Resolves) : next.2.ImagesIn images.Resolves := by
  obtain ⟨_, _, rest⟩ := bind_eq_ok.mp reads
  obtain ⟨total, _, rest⟩ := bind_eq_ok.mp rest
  obtain ⟨_, _, rest⟩ := bind_eq_ok.mp rest
  split at rest
  next => exact pure_eq_ok.mp rest ▸ inMetadata
  next =>
    obtain ⟨bytes, _, rest⟩ := bind_eq_ok.mp rest
    obtain ⟨properties, _, rest⟩ := bind_eq_ok.mp rest
    obtain ⟨metadata, folds, isNext⟩ := bind_eq_ok.mp rest
    rw [← pure_eq_ok.mp isNext]
    exact foldlM_related (fun start final => start.ImagesIn images.Resolves → final.ImagesIn images.Resolves)
      (fun _ => id) (fun _ _ _ first second => second ∘ first)
      (fun _ _ _ => readProperty_resolves) properties folds inMetadata

theorem readMetadata_resolves {handle : ImageHandle} {metadata : Metadata}
    (reads : readMetadata libraries handle images limits = .ok metadata) :
    metadata.ImagesIn images.Resolves := by
  obtain ⟨_, _, rest⟩ := bind_eq_ok.mp reads
  obtain ⟨_, _, rest⟩ := bind_eq_ok.mp rest
  obtain ⟨⟨total, final⟩, folds, isMetadata⟩ := bind_eq_ok.mp rest
  rw [← pure_eq_ok.mp isMetadata]
  exact foldlM_related (fun start final : Nat × Metadata =>
      start.2.ImagesIn images.Resolves → final.2.ImagesIn images.Resolves)
    (fun _ => id) (fun _ _ _ first second => second ∘ first)
    (fun _ _ _ => readBlock_resolves) _ folds Metadata.imagesIn_empty

/-- An opened document refers to its own images only. -/
structure Document.Consistent (document : Document) : Prop where
  primary : document.images.Resolves document.primary
  metadata : document.metadata.ImagesIn document.images.Resolves

theorem Document.openSource_consistent {source : Slice} {document : Document}
    (opens : Document.openSource libraries source limits = .ok document) : document.Consistent := by
  obtain ⟨_, _, rest⟩ := bind_eq_ok.mp opens
  obtain ⟨context, _, rest⟩ := bind_eq_ok.mp rest
  obtain ⟨_, _, rest⟩ := bind_eq_ok.mp rest
  obtain ⟨_, _, rest⟩ := bind_eq_ok.mp rest
  obtain ⟨handle, _, rest⟩ := bind_eq_ok.mp rest
  obtain ⟨_, _, rest⟩ := bind_eq_ok.mp rest
  obtain ⟨position, isPosition, rest⟩ := bind_eq_ok.mp rest
  obtain ⟨metadata, isMetadata, rest⟩ := bind_eq_ok.mp rest
  obtain ⟨_, _, isDocument⟩ := bind_eq_ok.mp rest
  rw [← pure_eq_ok.mp isDocument]
  constructor
  · rw [okOr_eq_ok, List.findIdx?_eq_some_iff_getElem] at isPosition
    obtain ⟨within, _⟩ := isPosition
    rw [TopLevelImages.Resolves, TopLevelImages.resolve, List.getElem?_eq_getElem within]
    rfl
  · exact readMetadata_resolves isMetadata

end Heic

end Genkan.DynamicWallpaper
