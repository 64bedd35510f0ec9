import Genkan.DynamicWallpaper.BoxWalk

/-! # Boxes at another place

A slice that is a part of another one has the same boxes there, moved by where the part begins: what a
box declares is read relative to its start, and a box ends inside its parent.
-/

namespace Genkan.DynamicWallpaper.Container

open Foundations.Bytes Foundations.Results Heic

/-! ## Parts -/

/-- The bytes of the inner slice are those of the outer one from `base` on. -/
structure Embeds (inner outer : Slice) (base : Nat) : Prop where
  isPart : outer.part base inner.length = inner.bytes
  inside : base + inner.length ≤ outer.length

section

variable {inner outer : Slice} {base finish : Nat}

theorem Embeds.part_eq (embeds : Embeds inner outer base) {offset length : Nat}
    (within : offset + length ≤ inner.length) :
    outer.part (base + offset) length = inner.part offset length := by
  have shorter : min length (inner.length - offset) = length := by omega
  rw [Slice.part, Slice.part, ← embeds.isPart, Slice.part, List.drop_take, List.take_take, List.drop_drop,
    shorter]

theorem Embeds.number_eq (embeds : Embeds inner outer base) {offset width : Nat}
    (within : offset + width ≤ inner.length) :
    number outer (base + offset) width = number inner offset width := by
  rw [number, embeds.part_eq within, number]

theorem Embeds.byte_eq (embeds : Embeds inner outer base) {offset : Nat} (within : offset < inner.length) :
    outer.byte (base + offset) = inner.byte offset := by
  rw [Slice.byte, Slice.byte, ← embeds.isPart, Slice.part, List.getD_eq_getElem?_getD,
    List.getD_eq_getElem?_getD, List.getElem?_take_of_lt within, List.getElem?_drop]

/-! ## Moved headers, layouts and trees -/

def Header.shift (base : Nat) (header : Header) : Header :=
  { header with
    bodyStart := base + header.bodyStart
    bodyEnd := base + header.bodyEnd
    next := base + header.next }

def Layout.shift (base : Nat) : Layout → Layout
  | .leaf => .leaf
  | .tiled first => .tiled (base + first)
  | .counted first count => .counted (base + first) count
  | .listed first count => .listed (base + first) count

namespace Boxes

def shift (base : Nat) : Boxes → Boxes
  | .empty => .empty
  | .box header content children rest =>
    .box (header.shift base) content (children.shift base) (rest.shift base)

@[simp] theorem count_shift (base : Nat) (boxes : Boxes) : (boxes.shift base).count = boxes.count := by
  induction boxes with
  | empty => rfl
  | box header content children rest _ restHypothesis => simp [shift, count, restHypothesis]

@[simp] theorem height_shift (base : Nat) (boxes : Boxes) : (boxes.shift base).height = boxes.height := by
  induction boxes with
  | empty => rfl
  | box header content children rest childrenHypothesis restHypothesis =>
    simp [shift, height, childrenHypothesis, restHypothesis]

@[simp] theorem contents_shift (base : Nat) (boxes : Boxes) :
    (boxes.shift base).contents = boxes.contents := by
  induction boxes with
  | empty => rfl
  | box header content children rest childrenHypothesis restHypothesis =>
    simp [shift, contents, childrenHypothesis, restHypothesis]

end Boxes

/-! ## Headers -/

theorem Embeds.headerLength_eq (embeds : Embeds inner outer base) {offset : Nat}
    (within : offset + 8 ≤ inner.length) : headerLength outer (base + offset) = headerLength inner offset := by
  rw [headerLength, headerLength, declaredSize, declaredSize, headerKind, headerKind,
    embeds.number_eq (by omega), Nat.add_assoc base, embeds.part_eq (by omega)]

theorem Embeds.boxLength_eq (embeds : Embeds inner outer base) {offset : Nat}
    (within : offset + 8 ≤ inner.length)
    (readableSize : declaredSize inner offset = 1 → offset + 16 ≤ inner.length) :
    boxLength outer (base + offset) (base + finish) = boxLength inner offset finish := by
  have sameSize : declaredSize outer (base + offset) = declaredSize inner offset :=
    embeds.number_eq (by omega)
  rw [boxLength, boxLength, sameSize, Nat.add_sub_add_left]
  split
  next => rfl
  next =>
    split
    next large => rw [Nat.add_assoc, embeds.number_eq (by have := readableSize large; omega)]
    next => rfl

/-- A header of the outer slice that lies in the part is one of the part. -/
theorem Embeds.headerAt (embeds : Embeds inner outer base) (within : finish ≤ inner.length) {offset : Nat}
    {header : Header} :
    HeaderAt outer (base + offset) (base + finish) header ↔
      ∃ original : Header, header = original.shift base ∧ HeaderAt inner offset finish original := by
  constructor
  · intro placed
    have readable := placed.readable
    have here : offset + 8 ≤ inner.length := by omega
    have sameSize : declaredSize outer (base + offset) = declaredSize inner offset :=
      embeds.number_eq (by omega)
    have readableSize : declaredSize inner offset = 1 → offset + 16 ≤ finish := by
      intro large
      have := placed.readableSize (sameSize.trans large)
      omega
    have sameKind : headerKind outer (base + offset) = headerKind inner offset := by
      rw [headerKind, headerKind, Nat.add_assoc, embeds.part_eq (by omega)]
    have sameHeader := embeds.headerLength_eq here
    have sameLength : boxLength outer (base + offset) (base + finish) = boxLength inner offset finish :=
      embeds.boxLength_eq here fun large => Nat.le_trans (readableSize large) within
    have isStart := placed.isBodyStart
    have isEnd := placed.isBodyEnd
    have covers := placed.covers
    have inside := placed.inside
    rw [sameHeader] at isStart
    rw [sameLength] at isEnd
    refine ⟨⟨headerKind inner offset, offset + headerLength inner offset, offset + boxLength inner offset finish,
      offset + boxLength inner offset finish⟩, ?_, ⟨by omega, readableSize, rfl, rfl, rfl, rfl, ?_, ?_⟩⟩
    · apply Header.ext
      · exact placed.isKind.trans sameKind
      · simp only [Header.shift]
        omega
      · simp only [Header.shift]
        omega
      · rw [placed.isNext]
        simp only [Header.shift]
        omega
    · simp only
      omega
    · simp only
      omega
  · intro moved
    obtain ⟨original, rfl, placed⟩ := moved
    have readable := placed.readable
    have here : offset + 8 ≤ inner.length := by omega
    have sameSize : declaredSize outer (base + offset) = declaredSize inner offset :=
      embeds.number_eq (by omega)
    have isStart := placed.isBodyStart
    have isEnd := placed.isBodyEnd
    have covers := placed.covers
    have inside := placed.inside
    constructor
    · omega
    · intro large
      have := placed.readableSize (sameSize.symm.trans large)
      omega
    · rw [headerKind, Nat.add_assoc, embeds.part_eq (by omega)]
      exact placed.isKind
    · rw [embeds.headerLength_eq here]
      simp only [Header.shift]
      omega
    · rw [embeds.boxLength_eq here fun large => Nat.le_trans (placed.readableSize large) within]
      simp only [Header.shift]
      omega
    · simp only [Header.shift]
      rw [placed.isNext]
    · simp only [Header.shift]
      omega
    · simp only [Header.shift]
      omega

/-! ## Reading -/

theorem rejectIf_mirrors {condition other : Prop} [Decidable condition] [Decidable other] {error : Error}
    (same : condition ↔ other) : Mirrors id (rejectIf condition error) (rejectIf other error) := by
  intro done
  rw [rejectIf_eq_ok, same]
  constructor
  · intro holds
    exact ⟨done, rejectIf_eq_ok.mpr holds, rfl⟩
  · intro accepts
    obtain ⟨_, accepts, _⟩ := accepts
    exact rejectIf_eq_ok.mp accepts

theorem Embeds.read (embeds : Embeds inner outer base) (within : finish ≤ inner.length) (offset length : Nat) :
    Mirrors id (Container.read outer (base + offset) length (base + finish))
      (Container.read inner offset length finish) := by
  have inside := embeds.inside
  intro bytes
  simp only [read_eq_ok within, read_eq_ok (show base + finish ≤ outer.length by omega), id_eq,
    exists_eq_right]
  constructor
  · intro reads
    obtain ⟨fits, isBytes⟩ := reads
    exact ⟨by omega, by rw [isBytes, embeds.part_eq (by omega)]⟩
  · intro reads
    obtain ⟨fits, isBytes⟩ := reads
    exact ⟨by omega, by rw [isBytes, embeds.part_eq (by omega)]⟩

theorem Embeds.readBigEndian (embeds : Embeds inner outer base) (within : finish ≤ inner.length)
    (offset width : Nat) :
    Mirrors id (Container.readBigEndian outer (base + offset) width (base + finish))
      (Container.readBigEndian inner offset width finish) :=
  (embeds.read within offset width).bind fun bytes _ => .refl (pure (ofBigEndian bytes))

/-- A string, and the offset after it. -/
theorem Embeds.readCstring (embeds : Embeds inner outer base) (within : finish ≤ inner.length)
    (offset : Nat) :
    Mirrors (fun found : List UInt8 × Nat => (found.1, base + found.2))
      (Container.readCstring outer (base + offset) (base + finish))
      (Container.readCstring inner offset finish) := by
  have inside := embeds.inside
  have sameCheck : base + finish < base + offset ∨ outer.length < base + finish ↔
      finish < offset ∨ inner.length < finish := by omega
  refine (rejectIf_mirrors sameCheck).bind fun _ accepted => ?_
  rw [rejectIf_eq_ok] at accepted
  have samePart : outer.part (base + offset) (finish - offset) = inner.part offset (finish - offset) :=
    embeds.part_eq (by omega)
  simp only [Nat.add_sub_add_left, samePart]
  split
  next length _ =>
    rw [show base + offset + length + 1 = base + (offset + length + 1) by omega]
    exact .pure _ (_, _)
  next => exact .pure _ (_, _)

theorem readInfe_mirrors (embeds : Embeds inner outer base) {header : Header}
    (within : header.bodyEnd ≤ inner.length) :
    Mirrors id (readInfe outer (header.shift base)) (readInfe inner header) := by
  refine (embeds.readBigEndian within header.bodyStart 1).bind fun version _ => ?_
  refine (Mirrors.refl _).bind fun _ _ => ?_
  simp only [Header.shift, id_eq, Nat.add_assoc base]
  split
  next =>
    refine (embeds.readBigEndian within _ 2).bind fun item _ => ?_
    refine (embeds.readCstring within _).bind fun name _ => ?_
    refine (embeds.readCstring within _).bind fun content _ => ?_
    exact (embeds.readCstring within _).bind fun _ _ => .refl _
  next =>
    refine (embeds.readBigEndian within _ _).bind fun item _ => ?_
    refine (embeds.read within _ 4).bind fun itemType _ => ?_
    refine (embeds.readCstring within _).bind fun name _ => ?_
    simp only [id_eq]
    have address (content : List UInt8) (offset : Nat) :
        Mirrors id
          (if itemType = fourcc 'u' 'r' 'i' ' ' then do
            let _ ← Container.readCstring outer (base + offset) (base + header.bodyEnd)
            pure (item, itemType, content)
          else do
            let _ ← pure (([] : List UInt8), base + offset)
            pure (item, itemType, content))
          (if itemType = fourcc 'u' 'r' 'i' ' ' then do
            let _ ← Container.readCstring inner offset header.bodyEnd
            pure (item, itemType, content)
          else do
            let _ ← pure (([] : List UInt8), offset)
            pure (item, itemType, content)) := by
      split
      next => exact (embeds.readCstring within offset).bind fun _ _ => .refl _
      next => exact .refl _
    split
    next => exact (embeds.readCstring within name.2).bind fun content _ => address content.1 content.2
    next => exact address [] name.2

theorem readFields_mirrors (embeds : Embeds inner outer base) {header : Header}
    (within : header.bodyEnd ≤ inner.length) :
    Mirrors id (readFields outer (header.shift base)) (readFields inner header) := by
  refine (embeds.readBigEndian within header.bodyStart 1).bind fun version _ => ?_
  refine (Mirrors.refl _).bind fun _ _ => ?_
  simp only [Header.shift, id_eq, Nat.add_assoc base]
  refine (embeds.readBigEndian within _ 2).bind fun widths _ => ?_
  exact .refl _

theorem readFtyp_mirrors (embeds : Embeds inner outer base) {header : Header}
    (within : header.bodyEnd ≤ inner.length) :
    Mirrors id (readFtyp outer (header.shift base)) (readFtyp inner header) := by
  rw [readFtyp, readFtyp]
  simp only [Header.shift, Nat.add_sub_add_left]
  exact (embeds.read within header.bodyStart _).bind fun body _ => .refl _

theorem readColr_mirrors (embeds : Embeds inner outer base) {header : Header}
    (within : header.bodyEnd ≤ inner.length) :
    Mirrors id (readColr outer (header.shift base)) (readColr inner header) := by
  rw [readColr, readColr]
  simp only [Header.shift, Nat.add_sub_add_left]
  exact (embeds.read within header.bodyStart _).bind fun body _ => .refl _

/-! ## Loops over records and lists -/

theorem Embeds.extentsAt (embeds : Embeds inner outer base) (within : finish ≤ inner.length) {fields : Fields}
    {lengths : List Nat} {offset next : Nat} :
    ExtentsAt outer fields (base + finish) lengths (base + offset) next ↔
      ∃ place, next = base + place ∧ ExtentsAt inner fields finish lengths offset place := by
  induction lengths generalizing offset next with
  | nil =>
    simp only [ExtentsAt]
    constructor
    · intro same
      exact ⟨offset, same, rfl⟩
    · intro moved
      obtain ⟨place, isNext, rfl⟩ := moved
      exact isNext
  | cons length lengths inductionHypothesis =>
    simp only [ExtentsAt, Nat.add_assoc base, Nat.add_le_add_iff_left, inductionHypothesis]
    constructor
    · intro extents
      obtain ⟨fits, isLength, place, isNext, later⟩ := extents
      rw [embeds.number_eq (by omega)] at isLength
      exact ⟨place, isNext, fits, isLength, later⟩
    · intro extents
      obtain ⟨place, isNext, fits, isLength, later⟩ := extents
      rw [← embeds.number_eq (by omega)] at isLength
      exact ⟨fits, isLength, place, isNext, later⟩

theorem Fields.extentCountAt_add (fields : Fields) (base offset : Nat) :
    fields.extentCountAt (base + offset) = base + fields.extentCountAt offset := by
  simp only [Fields.extentCountAt]
  omega

theorem Embeds.recordsAt (embeds : Embeds inner outer base) (within : finish ≤ inner.length) {fields : Fields}
    {records : List LocationRecord} {offset : Nat} :
    RecordsAt outer fields (base + finish) records (base + offset) ↔
      RecordsAt inner fields finish records offset := by
  induction records generalizing offset with
  | nil => exact Iff.rfl
  | cons record records inductionHypothesis =>
    have width : offset + fields.idSize ≤ fields.extentCountAt offset := by
      simp only [Fields.extentCountAt]
      omega
    simp only [RecordsAt, fields.extentCountAt_add, Nat.add_assoc base, Nat.add_le_add_iff_left]
    constructor
    · intro recordsAt
      obtain ⟨fits, isId, isCount, next, extents, later⟩ := recordsAt
      rw [embeds.number_eq (by omega)] at isId isCount
      obtain ⟨place, rfl, plain⟩ := (embeds.extentsAt within).mp extents
      exact ⟨fits, isId, isCount, place, plain, inductionHypothesis.mp later⟩
    · intro recordsAt
      obtain ⟨fits, isId, isCount, place, extents, later⟩ := recordsAt
      rw [← embeds.number_eq (by omega)] at isId isCount
      exact ⟨fits, isId, isCount, base + place, (embeds.extentsAt within).mpr ⟨place, rfl, extents⟩,
        inductionHypothesis.mpr later⟩

theorem Embeds.locationsAt (embeds : Embeds inner outer base) {header : Header}
    (within : header.bodyEnd ≤ inner.length) {records : List LocationRecord} {fields : Fields} :
    LocationsAt outer (header.shift base) records fields ↔ LocationsAt inner header records fields := by
  have sameFields : readFields outer (header.shift base) = .ok fields ↔ readFields inner header = .ok fields :=
    (readFields_mirrors embeds within).eq_ok
  have place : base + header.bodyStart + 6 + fields.idSize = base + (header.bodyStart + 6 + fields.idSize) := by
    omega
  have sameRecords : RecordsAt outer fields (base + header.bodyEnd) records
      (base + (header.bodyStart + 6 + fields.idSize)) ↔
      RecordsAt inner fields header.bodyEnd records (header.bodyStart + 6 + fields.idSize) :=
    embeds.recordsAt within
  constructor
  · intro locations
    have readable := locations.readable
    simp only [Header.shift] at readable
    refine ⟨sameFields.mp locations.isFields, by omega, ?_, ?_⟩
    · rw [locations.counted, ← embeds.number_eq (by omega)]
      rfl
    · refine sameRecords.mp ?_
      rw [← place]
      exact locations.isRecords
  · intro locations
    have readable := locations.readable
    refine ⟨sameFields.mpr locations.isFields, ?_, ?_, ?_⟩
    · simp only [Header.shift]
      omega
    · rw [locations.counted, ← embeds.number_eq (by omega)]
      rfl
    · have recordsAt := sameRecords.mpr locations.isRecords
      rw [← place] at recordsAt
      exact recordsAt

/-- Lists whose meaning does not depend on the place. -/
theorem Embeds.listsAt (embeds : Embeds inner outer base) (within : finish ≤ inner.length)
    {list plainList : Nat → Header → Nat → Prop}
    (same : ∀ offset child count, HeaderAt inner offset finish child →
      (list (base + offset) (child.shift base) count ↔ plainList offset child count))
    {counts : List Nat} {offset : Nat} :
    ListsAt outer list (base + finish) counts (base + offset) ↔
      ListsAt inner plainList finish counts offset := by
  induction counts generalizing offset with
  | nil => simp only [ListsAt, Nat.add_left_cancel_iff]
  | cons count counts inductionHypothesis =>
    simp only [ListsAt]
    constructor
    · intro lists
      obtain ⟨child, placed, meant, later⟩ := lists
      obtain ⟨original, rfl, plain⟩ := (embeds.headerAt within).mp placed
      exact ⟨original, plain, (same offset original count plain).mp meant, inductionHypothesis.mp later⟩
    · intro lists
      obtain ⟨original, placed, meant, later⟩ := lists
      refine ⟨original.shift base, (embeds.headerAt within).mpr ⟨original, rfl, placed⟩, ?_, ?_⟩
      · exact (same offset original count placed).mpr meant
      · exact inductionHypothesis.mpr later

theorem Embeds.itemReferencesAt (embeds : Embeds inner outer base) {header : Header}
    (within : header.bodyEnd ≤ inner.length) {counts : List Nat} :
    ItemReferencesAt outer (header.shift base) counts ↔ ItemReferencesAt inner header counts := by
  have lists (idSize : Nat) : ListsAt outer (fun _ => ItemList outer idSize) (base + header.bodyEnd) counts
      (base + (header.bodyStart + 4)) ↔
      ListsAt inner (fun _ => ItemList inner idSize) header.bodyEnd counts (header.bodyStart + 4) := by
    refine embeds.listsAt within ?_
    intro offset child count placed
    have inside := placed.inside
    have isCount (fills : child.bodyStart + (idSize + 2 + count * idSize) = child.bodyEnd) :
        number outer (base + child.bodyStart + idSize) 2 = number inner (child.bodyStart + idSize) 2 := by
      rw [Nat.add_assoc, embeds.number_eq (by omega)]
    constructor
    · intro list
      have fills : base + child.bodyStart + (idSize + 2 + count * idSize) = base + child.bodyEnd := list.fills
      have fillsToo : child.bodyStart + (idSize + 2 + count * idSize) = child.bodyEnd := by omega
      exact ⟨list.positive, list.isCount.trans (isCount fillsToo), fillsToo⟩
    · intro list
      have fills := list.fills
      refine ⟨list.positive, list.isCount.trans (isCount fills).symm, ?_⟩
      simp only [Header.shift]
      omega
  have sameVersion (readable : header.bodyStart + 4 ≤ header.bodyEnd) :
      number outer (base + header.bodyStart) 1 = number inner header.bodyStart 1 :=
    embeds.number_eq (by omega)
  constructor
  · intro references
    have readable := references.readable
    have supported := references.supported
    have isLists := references.isLists
    simp only [Header.shift, Nat.add_assoc base, Nat.add_le_add_iff_left] at readable supported isLists
    rw [referenceIdSize, sameVersion readable] at isLists
    rw [sameVersion readable] at supported
    exact ⟨readable, supported, (lists _).mp isLists⟩
  · intro references
    have readable := references.readable
    have sameSize : referenceIdSize outer (header.shift base) = referenceIdSize inner header := by
      rw [referenceIdSize, referenceIdSize, Header.shift, sameVersion readable]
    refine ⟨?_, ?_, ?_⟩
    · simp only [Header.shift]
      omega
    · rw [Header.shift, sameVersion readable]
      exact references.supported
    · rw [sameSize, Header.shift, Nat.add_assoc]
      exact (lists _).mpr references.isLists

theorem Embeds.trackLists (embeds : Embeds inner outer base) {header : Header}
    (within : header.bodyEnd ≤ inner.length) {counts : List Nat} :
    ListsAt outer (TrackList outer) (base + header.bodyEnd) counts (base + header.bodyStart) ↔
      ListsAt inner (TrackList inner) header.bodyEnd counts header.bodyStart := by
  refine embeds.listsAt within ?_
  intro offset child count placed
  have readable := placed.readable
  have sameSize : declaredSize outer (base + offset) = declaredSize inner offset :=
    embeds.number_eq (by omega)
  constructor
  · intro list
    have fills := list.fills
    simp only [Header.shift] at fills
    exact ⟨sameSize ▸ list.sized, list.positive, by omega⟩
  · intro list
    have fills := list.fills
    refine ⟨sameSize.symm ▸ list.sized, list.positive, ?_⟩
    simp only [Header.shift]
    omega

theorem Embeds.entriesAt (embeds : Embeds inner outer base) (within : finish ≤ inner.length)
    {idSize width offset : Nat} {counts : List Nat} :
    EntriesAt outer idSize width (base + finish) counts (base + offset) ↔
      EntriesAt inner idSize width finish counts offset := by
  induction counts generalizing offset with
  | nil => exact Iff.rfl
  | cons count counts inductionHypothesis =>
    simp only [EntriesAt, Nat.add_assoc base, Nat.add_le_add_iff_left, inductionHypothesis]
    constructor
    · intro entries
      obtain ⟨fits, isCount, later⟩ := entries
      rw [embeds.number_eq (by omega)] at isCount
      exact ⟨fits, isCount, later⟩
    · intro entries
      obtain ⟨fits, isCount, later⟩ := entries
      rw [← embeds.number_eq (by omega)] at isCount
      exact ⟨fits, isCount, later⟩

theorem Embeds.associationsAt (embeds : Embeds inner outer base) {header : Header}
    (within : header.bodyEnd ≤ inner.length) {counts : List Nat} :
    AssociationsAt outer (header.shift base) counts ↔ AssociationsAt inner header counts := by
  have numbers (readable : header.bodyStart + 8 ≤ header.bodyEnd) :
      number outer (base + header.bodyStart) 1 = number inner header.bodyStart 1 ∧
        number outer (base + (header.bodyStart + 3)) 1 = number inner (header.bodyStart + 3) 1 ∧
        number outer (base + (header.bodyStart + 4)) 4 = number inner (header.bodyStart + 4) 4 :=
    ⟨embeds.number_eq (by omega), embeds.number_eq (by omega), embeds.number_eq (by omega)⟩
  constructor
  · intro associations
    obtain ⟨readable, supported, counted, isEntries⟩ := associations
    simp only [Header.shift, Nat.add_assoc base, Nat.add_le_add_iff_left] at readable supported counted isEntries
    obtain ⟨sameVersion, sameFlags, sameCount⟩ := numbers readable
    rw [sameVersion] at supported
    rw [sameCount] at counted
    simp only [sameVersion, sameFlags, embeds.entriesAt within] at isEntries
    exact ⟨readable, supported, counted, isEntries⟩
  · intro associations
    obtain ⟨readable, supported, counted, isEntries⟩ := associations
    obtain ⟨sameVersion, sameFlags, sameCount⟩ := numbers readable
    rw [← sameVersion] at supported
    rw [← sameCount] at counted
    rw [← sameVersion, ← sameFlags, ← embeds.entriesAt within] at isEntries
    constructor
    · simp only [Header.shift]
      omega
    · exact supported
    · simp only [Header.shift, Nat.add_assoc base]
      exact counted
    · simp only [Header.shift, Nat.add_assoc base]
      exact isEntries

/-! ## What a box declares -/

/-- At both places the layout is the one of a box that has to be something else as well. -/
theorem Layout.moves {there here : Layout → Prop} (holds : Prop) (place : Layout)
    (isThere : ∀ layout, there layout ↔ holds ∧ layout = place.shift base)
    (isHere : ∀ layout, here layout ↔ holds ∧ layout = place) (layout : Layout) :
    there layout ↔ ∃ original : Layout, layout = original.shift base ∧ here original := by
  rw [isThere]
  constructor
  · intro moved
    exact ⟨place, moved.2, (isHere place).mpr ⟨moved.1, rfl⟩⟩
  · intro moved
    obtain ⟨original, isLayout, isOriginal⟩ := moved
    obtain ⟨isHeld, rfl⟩ := (isHere original).mp isOriginal
    exact ⟨isHeld, isLayout⟩

/-- A box declares the same at both places, and its children are moved with it. -/
theorem Embeds.holdsAt (embeds : Embeds inner outer base) {header : Header}
    (within : header.bodyEnd ≤ inner.length) (content : Content) (layout : Layout) :
    HoldsAt outer (header.shift base) content layout ↔
      ∃ original : Layout, layout = original.shift base ∧ HoldsAt inner header content original := by
  have sameKind : (header.shift base).kind = header.kind := rfl
  have sameStart : (header.shift base).bodyStart = base + header.bodyStart := rfl
  have sameEnd : (header.shift base).bodyEnd = base + header.bodyEnd := rfl
  revert layout
  cases kind : classify header.kind
  case metaBox =>
    refine Layout.moves (content = .metadata) (.tiled (header.bodyStart + 4)) ?_ ?_
    · intro layout
      simp only [HoldsAt, sameKind, kind, sameStart, Nat.add_assoc, Layout.shift]
    · intro layout
      simp only [HoldsAt, kind]
  case dref | urim =>
    refine Layout.moves (content = .plain) (.tiled (header.bodyStart + 8)) ?_ ?_
    · intro layout
      simp only [HoldsAt, sameKind, kind, sameStart, Nat.add_assoc, Layout.shift]
    · intro layout
      simp only [HoldsAt, kind]
  case container =>
    refine Layout.moves (content = .plain) (.tiled header.bodyStart) ?_ ?_
    · intro layout
      simp only [HoldsAt, sameKind, kind, sameStart, Layout.shift]
    · intro layout
      simp only [HoldsAt, kind]
  case mini =>
    refine Layout.moves (content = .minimised) .leaf ?_ ?_
    · intro layout
      simp only [HoldsAt, sameKind, kind, Layout.shift]
    · intro layout
      simp only [HoldsAt, kind]
  case other =>
    refine Layout.moves (content = .plain) .leaf ?_ ?_
    · intro layout
      simp only [HoldsAt, sameKind, kind, Layout.shift]
    · intro layout
      simp only [HoldsAt, kind]
  case colr =>
    refine Layout.moves (readColr inner header = .ok () ∧ content = .plain) .leaf ?_ ?_
    · intro layout
      simp only [HoldsAt, sameKind, kind, (readColr_mirrors embeds within).eq_ok, and_assoc, Layout.shift]
    · intro layout
      simp only [HoldsAt, kind, and_assoc]
  case ftyp =>
    refine Layout.moves (∃ sequence, readFtyp inner header = .ok sequence ∧ content = .fileType sequence)
      .leaf ?_ ?_
    · intro layout
      simp only [HoldsAt, sameKind, kind, (readFtyp_mirrors embeds within).eq_ok, ← and_assoc,
        exists_and_right, Layout.shift]
    · intro layout
      simp only [HoldsAt, kind, ← and_assoc, exists_and_right]
  case infe =>
    refine Layout.moves (∃ item itemType contentType, readInfe inner header = .ok (item, itemType, contentType) ∧
      content = .item item (isEager itemType contentType)) .leaf ?_ ?_
    · intro layout
      simp only [HoldsAt, sameKind, kind, (readInfe_mirrors embeds within).eq_ok, ← and_assoc,
        exists_and_right, Layout.shift]
    · intro layout
      simp only [HoldsAt, kind, ← and_assoc, exists_and_right]
  case iloc =>
    refine Layout.moves (∃ records, (∃ fields, LocationsAt inner header records fields) ∧
      content = .locations records) .leaf ?_ ?_
    · intro layout
      simp only [HoldsAt, sameKind, kind, embeds.locationsAt within, ← and_assoc, exists_and_right, Layout.shift]
    · intro layout
      simp only [HoldsAt, kind, ← and_assoc, exists_and_right]
  case iref =>
    refine Layout.moves (∃ counts, ItemReferencesAt inner header counts ∧ content = .references counts)
      .leaf ?_ ?_
    · intro layout
      simp only [HoldsAt, sameKind, kind, embeds.itemReferencesAt within, ← and_assoc, exists_and_right,
        Layout.shift]
    · intro layout
      simp only [HoldsAt, kind, ← and_assoc, exists_and_right]
  case ipma =>
    refine Layout.moves (∃ counts, AssociationsAt inner header counts ∧ content = .associations counts)
      .leaf ?_ ?_
    · intro layout
      simp only [HoldsAt, sameKind, kind, embeds.associationsAt within, ← and_assoc, exists_and_right,
        Layout.shift]
    · intro layout
      simp only [HoldsAt, kind, ← and_assoc, exists_and_right]
  case tref =>
    refine Layout.moves (∃ counts, ListsAt inner (TrackList inner) header.bodyEnd counts header.bodyStart ∧
      content = .references counts) .leaf ?_ ?_
    · intro layout
      simp only [HoldsAt, sameKind, kind, sameStart, sameEnd, embeds.trackLists within, ← and_assoc,
        exists_and_right, Layout.shift]
    · intro layout
      simp only [HoldsAt, kind, ← and_assoc, exists_and_right]
  case iinf =>
    by_cases readable : header.bodyStart + 6 ≤ header.bodyEnd
    · have sameVersion : number outer (base + header.bodyStart) 1 = number inner header.bodyStart 1 :=
        embeds.number_eq (by omega)
      have sameCount (width : Nat) (fits : header.bodyStart + 4 + width ≤ header.bodyEnd) :
          number outer (base + (header.bodyStart + 4)) width = number inner (header.bodyStart + 4) width :=
        embeds.number_eq (by omega)
      refine Layout.moves (header.bodyStart + 4 + referenceIdSize inner header ≤ header.bodyEnd ∧ content = .plain)
        (.counted (header.bodyStart + 4 + referenceIdSize inner header)
          (number inner (header.bodyStart + 4) (referenceIdSize inner header))) ?_ ?_
      · intro layout
        simp only [HoldsAt, sameKind, kind, sameStart, sameEnd, sameVersion, Nat.add_assoc base,
          Nat.add_le_add_iff_left, Layout.shift, and_assoc, referenceIdSize]
        apply and_congr_right
        intro fits
        rw [sameCount _ fits]
      · intro layout
        simp only [HoldsAt, kind, and_assoc, referenceIdSize]
    · -- The count has at least two bytes, and there is no room for them at either place.
      have unreadable (version : Nat) : ¬ header.bodyStart + 4 + (if version = 0 then 2 else 4) ≤ header.bodyEnd := by
        split <;> omega
      refine Layout.moves False .leaf ?_ ?_
      · intro layout
        simp only [HoldsAt, sameKind, kind, sameStart, sameEnd, Nat.add_assoc base, Nat.add_le_add_iff_left,
          unreadable, false_and]
      · intro layout
        simp only [HoldsAt, kind, unreadable, false_and]
  case stsd =>
    refine Layout.moves (header.bodyStart + 8 ≤ header.bodyEnd ∧ number inner header.bodyStart 1 = 0 ∧
      content = .plain) (.listed (header.bodyStart + 8) (number inner (header.bodyStart + 4) 4)) ?_ ?_
    · intro layout
      simp only [HoldsAt, sameKind, kind, sameStart, sameEnd, Nat.add_assoc, Nat.add_le_add_iff_left,
        Layout.shift, and_assoc]
      apply and_congr_right
      intro readable
      rw [embeds.number_eq (by omega), embeds.number_eq (by omega)]
    · intro layout
      simp only [HoldsAt, kind, and_assoc]
  case visualSampleEntry =>
    refine Layout.moves (header.bodyStart + visualSampleEntryPrefix ≤ header.bodyEnd ∧
      (inner.byte (header.bodyStart + visualSampleEntryNameLength)).toNat ≤ 31 ∧ content = .plain)
      (.tiled (header.bodyStart + visualSampleEntryPrefix)) ?_ ?_
    · intro layout
      simp only [HoldsAt, sameKind, kind, sameStart, sameEnd, Nat.add_assoc, Nat.add_le_add_iff_left,
        Layout.shift, and_assoc]
      apply and_congr_right
      intro readable
      rw [visualSampleEntryPrefix] at readable
      rw [embeds.byte_eq (by rw [visualSampleEntryNameLength]; omega)]
    · intro layout
      simp only [HoldsAt, kind, and_assoc]

/-! ## Trees -/

/-- The boxes of a part are boxes of the whole. -/
theorem Boxes.Placed.shift (embeds : Embeds inner outer base) {boxes : Boxes} {exact : Bool}
    {start : Nat} (within : finish ≤ inner.length) (placed : boxes.Placed inner exact start finish) :
    (boxes.shift base).Placed outer exact (base + start) (base + finish) := by
  induction boxes generalizing exact start finish with
  | empty =>
    intro isExact
    rw [placed isExact]
  | box header content children rest childrenHypothesis restHypothesis =>
    obtain ⟨isHeader, ⟨layout, holds, laid⟩, later⟩ := placed
    have inside : header.bodyEnd ≤ inner.length := Nat.le_trans isHeader.inside within
    refine ⟨(embeds.headerAt within).mpr ⟨header, rfl, isHeader⟩, ?_, restHypothesis within later⟩
    refine ⟨layout.shift base, (embeds.holdsAt inside content _).mpr ⟨layout, rfl, holds⟩, ?_⟩
    cases layout with
    | leaf =>
      rw [show children = .empty from laid]
      rfl
    | tiled first => exact ⟨Nat.add_le_add_left laid.1 base, childrenHypothesis inside laid.2⟩
    | counted first count =>
      exact ⟨(children.count_shift base).trans laid.1, childrenHypothesis inside laid.2⟩
    | listed first count =>
      exact ⟨(children.count_shift base).trans laid.1, childrenHypothesis inside laid.2⟩

/-- The boxes of the whole that lie in the part are those of the part. -/
theorem Boxes.Placed.unshift (embeds : Embeds inner outer base) {boxes : Boxes} {exact : Bool}
    {start : Nat} (within : finish ≤ inner.length)
    (placed : boxes.Placed outer exact (base + start) (base + finish)) :
    ∃ original : Boxes, boxes = original.shift base ∧ original.Placed inner exact start finish := by
  induction boxes generalizing exact start finish with
  | empty =>
    refine ⟨.empty, rfl, ?_⟩
    intro isExact
    exact Nat.add_left_cancel (placed isExact)
  | box header content children rest childrenHypothesis restHypothesis =>
    obtain ⟨isHeader, ⟨layout, holds, laid⟩, later⟩ := placed
    obtain ⟨header, rfl, isPlain⟩ := (embeds.headerAt within).mp isHeader
    have inside : header.bodyEnd ≤ inner.length := Nat.le_trans isPlain.inside within
    obtain ⟨rest, rfl, plainLater⟩ := restHypothesis within later
    obtain ⟨layout, rfl, plainHolds⟩ := (embeds.holdsAt inside content _).mp holds
    have plainLaid : ∃ original : Boxes, children = original.shift base ∧ layout.Holds inner header original := by
      cases layout with
      | leaf => exact ⟨.empty, laid, rfl⟩
      | tiled first =>
        obtain ⟨original, rfl, isPlaced⟩ := childrenHypothesis inside laid.2
        exact ⟨original, rfl, Nat.le_of_add_le_add_left laid.1, isPlaced⟩
      | counted first count =>
        obtain ⟨original, rfl, isPlaced⟩ := childrenHypothesis inside laid.2
        exact ⟨original, rfl, (original.count_shift base).symm.trans laid.1, isPlaced⟩
      | listed first count =>
        obtain ⟨original, rfl, isPlaced⟩ := childrenHypothesis inside laid.2
        exact ⟨original, rfl, (original.count_shift base).symm.trans laid.1, isPlaced⟩
    obtain ⟨children, rfl, plainLaid⟩ := plainLaid
    exact ⟨.box header content children rest, rfl, isPlain, ⟨layout, plainHolds, plainLaid⟩, plainLater⟩

end

end Genkan.DynamicWallpaper.Container
