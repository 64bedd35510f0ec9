import Genkan.DynamicWallpaper.BoxReading

/-! # The one tree of a file

The bytes of a file are at most one box tree.  Where a box starts and what type it has decide what it
declares and where its children are; how far the children reach is decided by the box or by their number.
-/

namespace Genkan.DynamicWallpaper.Container

open Foundations.Bytes Heic

section

variable {slice : Slice} {finish : Nat}

/-! ## What a box declares -/

theorem ExtentsAt.unique {fields : Fields} {lengths others : List Nat} {offset next after : Nat}
    (extents : ExtentsAt slice fields finish lengths offset next)
    (extentsToo : ExtentsAt slice fields finish others offset after) (sameCount : lengths.length = others.length) :
    lengths = others ∧ next = after := by
  induction lengths generalizing others offset with
  | nil =>
    cases others with
    | nil => exact ⟨rfl, Eq.trans extents (Eq.symm extentsToo)⟩
    | cons => contradiction
  | cons length lengths inductionHypothesis =>
    cases others with
    | nil => contradiction
    | cons other others =>
      obtain ⟨_, isLength, later⟩ := extents
      obtain ⟨_, isOther, laterToo⟩ := extentsToo
      obtain ⟨sameLengths, sameNext⟩ := inductionHypothesis later laterToo (Nat.succ.inj sameCount)
      exact ⟨by rw [isLength, isOther, sameLengths], sameNext⟩

theorem RecordsAt.unique {fields : Fields} {records others : List LocationRecord} {offset : Nat}
    (recordsAt : RecordsAt slice fields finish records offset)
    (othersAt : RecordsAt slice fields finish others offset) (sameCount : records.length = others.length) :
    records = others := by
  induction records generalizing others offset with
  | nil =>
    cases others with
    | nil => rfl
    | cons => contradiction
  | cons record records inductionHypothesis =>
    cases others with
    | nil => contradiction
    | cons other others =>
      obtain ⟨_, isId, isCount, next, extents, later⟩ := recordsAt
      obtain ⟨_, isIdToo, isCountToo, after, extentsToo, laterToo⟩ := othersAt
      obtain ⟨sameLengths, sameNext⟩ := extents.unique extentsToo (isCount.trans isCountToo.symm)
      subst sameNext
      have sameRecord : record = other := by
        cases record
        cases other
        exact congrArg₂ LocationRecord.mk (isId.trans isIdToo.symm) sameLengths
      rw [sameRecord, inductionHypothesis later laterToo (Nat.succ.inj sameCount)]

theorem LocationsAt.unique {header : Header} {records others : List LocationRecord} {fields otherFields : Fields}
    (locations : LocationsAt slice header records fields)
    (locationsToo : LocationsAt slice header others otherFields) : records = others := by
  have sameFields := Except.ok.inj (locations.isFields.symm.trans locationsToo.isFields)
  subst sameFields
  exact locations.isRecords.unique locationsToo.isRecords (locations.counted.trans locationsToo.counted.symm)

theorem ListsAt.unique {list : Nat → Header → Nat → Prop} {counts others : List Nat} {offset : Nat}
    (lists : ListsAt slice list finish counts offset)
    (determined : ∀ offset child count other, list offset child count → list offset child other → count = other)
    (listsToo : ListsAt slice list finish others offset) : counts = others := by
  induction counts generalizing others offset with
  | nil =>
    have ended : offset = finish := lists
    subst ended
    exact listsToo.ended.symm
  | cons count counts inductionHypothesis =>
    obtain ⟨child, placed, meant, later⟩ := lists
    have readable := placed.readable
    obtain ⟨other, others, otherChild, rfl, placedToo, meantToo, laterToo⟩ := listsToo.before (by omega)
    have sameChild := placed.unique placedToo
    subst sameChild
    rw [determined _ _ _ _ meant meantToo, inductionHypothesis later laterToo]

theorem ItemReferencesAt.unique {header : Header} {counts others : List Nat}
    (references : ItemReferencesAt slice header counts) (referencesToo : ItemReferencesAt slice header others) :
    counts = others := by
  refine references.isLists.unique ?_ referencesToo.isLists
  intro _ child count other list listToo
  exact list.isCount.trans listToo.isCount.symm

theorem TrackList.unique {offset : Nat} {child : Header} {count other : Nat}
    (list : TrackList slice offset child count) (listToo : TrackList slice offset child other) : count = other := by
  have fills := list.fills
  have fillsToo := listToo.fills
  omega

theorem EntriesAt.unique {idSize width offset : Nat} {counts others : List Nat}
    (entries : EntriesAt slice idSize width finish counts offset)
    (entriesToo : EntriesAt slice idSize width finish others offset) (sameCount : counts.length = others.length) :
    counts = others := by
  induction counts generalizing others offset with
  | nil =>
    cases others with
    | nil => rfl
    | cons => contradiction
  | cons count counts inductionHypothesis =>
    cases others with
    | nil => contradiction
    | cons other others =>
      obtain ⟨_, isCount, later⟩ := entries
      obtain ⟨_, isOther, laterToo⟩ := entriesToo
      have same : count = other := isCount.trans isOther.symm
      subst same
      rw [inductionHypothesis later laterToo (Nat.succ.inj sameCount)]

theorem AssociationsAt.unique {header : Header} {counts others : List Nat}
    (associations : AssociationsAt slice header counts) (associationsToo : AssociationsAt slice header others) :
    counts = others :=
  associations.isEntries.unique associationsToo.isEntries
    (associations.counted.trans associationsToo.counted.symm)

/-- The type and the bytes of a box decide what it declares and where its children are. -/
theorem HoldsAt.unique {header : Header} {content other : Content} {layout place : Layout}
    (holds : HoldsAt slice header content layout) (holdsToo : HoldsAt slice header other place) :
    content = other ∧ layout = place := by
  cases kind : classify header.kind <;> simp only [HoldsAt, kind] at holds holdsToo
  case infe =>
    obtain ⟨id, itemType, contentType, reads, rfl, rfl⟩ := holds
    obtain ⟨_, _, _, readsToo, rfl, rfl⟩ := holdsToo
    cases reads.symm.trans readsToo
    exact ⟨rfl, rfl⟩
  case ftyp =>
    obtain ⟨sequence, reads, rfl, rfl⟩ := holds
    obtain ⟨_, readsToo, rfl, rfl⟩ := holdsToo
    cases reads.symm.trans readsToo
    exact ⟨rfl, rfl⟩
  case iloc =>
    obtain ⟨records, fields, locations, rfl, rfl⟩ := holds
    obtain ⟨_, _, locationsToo, rfl, rfl⟩ := holdsToo
    exact ⟨congrArg Content.locations (locations.unique locationsToo), rfl⟩
  case iref =>
    obtain ⟨counts, references, rfl, rfl⟩ := holds
    obtain ⟨_, referencesToo, rfl, rfl⟩ := holdsToo
    exact ⟨congrArg Content.references (references.unique referencesToo), rfl⟩
  case ipma =>
    obtain ⟨counts, associations, rfl, rfl⟩ := holds
    obtain ⟨_, associationsToo, rfl, rfl⟩ := holdsToo
    exact ⟨congrArg Content.associations (associations.unique associationsToo), rfl⟩
  case tref =>
    obtain ⟨counts, lists, rfl, rfl⟩ := holds
    obtain ⟨_, listsToo, rfl, rfl⟩ := holdsToo
    have same := lists.unique (fun _ _ _ _ list listToo => TrackList.unique list listToo) listsToo
    exact ⟨congrArg Content.references same, rfl⟩
  case iinf | colr =>
    obtain ⟨_, rfl, rfl⟩ := holds
    obtain ⟨_, rfl, rfl⟩ := holdsToo
    exact ⟨rfl, rfl⟩
  case stsd | visualSampleEntry =>
    obtain ⟨_, _, rfl, rfl⟩ := holds
    obtain ⟨_, _, rfl, rfl⟩ := holdsToo
    exact ⟨rfl, rfl⟩
  case metaBox | dref | urim | container | mini | other =>
    exact ⟨holds.1.trans holdsToo.1.symm, holds.2.trans holdsToo.2.symm⟩

end

/-! ## The tree -/

/-- Boxes that fill a range, or of which there is a number, are the only ones there. -/
theorem Boxes.Placed.unique {slice : Slice} {boxes others : Boxes} {exact : Bool} {start finish : Nat}
    (placed : boxes.Placed slice exact start finish) (placedToo : others.Placed slice exact start finish)
    (sameCount : exact = false → boxes.count = others.count) : boxes = others := by
  induction boxes generalizing others exact start finish with
  | empty =>
    cases others with
    | empty => rfl
    | box header =>
      have readable := placedToo.1.readable
      cases exact with
      | false => exact absurd (sameCount rfl) (by simp [Boxes.count])
      | true =>
        have ended := placed rfl
        omega
  | box header content children rest childrenHypothesis restHypothesis =>
    cases others with
    | empty =>
      have readable := placed.1.readable
      cases exact with
      | false => exact absurd (sameCount rfl) (by simp [Boxes.count])
      | true =>
        have ended := placedToo rfl
        omega
    | box other =>
      obtain ⟨isHeader, ⟨layout, holds, laid⟩, later⟩ := placed
      obtain ⟨isHeaderToo, ⟨place, holdsToo, laidToo⟩, laterToo⟩ := placedToo
      have sameHeader := isHeader.unique isHeaderToo
      subst sameHeader
      obtain ⟨sameContent, sameLayout⟩ := holds.unique holdsToo
      subst sameContent sameLayout
      have sameRest := restHypothesis later laterToo fun counted => Nat.succ.inj (sameCount counted)
      have sameChildren := by
        cases layout with
        | leaf => exact Eq.trans laid (Eq.symm laidToo)
        | tiled first => exact childrenHypothesis laid.2 laidToo.2 (by simp)
        | counted first count => exact childrenHypothesis laid.2 laidToo.2 (by simp)
        | listed first count => exact childrenHypothesis laid.2 laidToo.2 fun _ => laid.1.trans laidToo.1.symm
      rw [sameRest, sameChildren]

end Genkan.DynamicWallpaper.Container
