import Mathlib.Tactic.MkIffOfInductiveProp
import Genkan.DynamicWallpaper.Container

/-! # The box tree of a container

What the bytes of a file mean as a tree of boxes, with no budget, and what the tree adds up to.
-/

namespace Genkan.DynamicWallpaper.Container

open Foundations.Bytes Heic

/-! ## Trees -/

/-- An item location record: the item, and the lengths of its extents. -/
structure LocationRecord where
  id : Nat
  lengths : List Nat
  deriving DecidableEq, Repr

/-- What a box declares besides its children. -/
inductive Content where
  | plain
  | metadata
  | minimised
  | fileType (sequence : Bool)
  | item (id : Nat) (eager : Bool)
  | locations (records : List LocationRecord)
  | references (counts : List Nat)
  /-- The number of associations of each entry. -/
  | associations (counts : List Nat)
  deriving DecidableEq, Repr

/-- A list of boxes: the first of them with its children, and the rest. -/
inductive Boxes where
  | empty
  | box (header : Header) (content : Content) (children rest : Boxes)
  deriving DecidableEq, Repr

/-- Where the children of a box are. -/
inductive Layout where
  | leaf
  /-- They fill the box from here. -/
  | tiled (first : Nat)
  /-- They fill the box from here, and there are as many as it declares. -/
  | counted (first count : Nat)
  /-- As many as the box declares start here; what follows them is not read. -/
  | listed (first count : Nat)
  deriving DecidableEq, Repr

namespace Boxes

/-- The number of boxes in the list, children not counted. -/
def count : Boxes → Nat
  | .empty => 0
  | .box _ _ _ rest => rest.count + 1

/-- The nesting depth, counted in boxes. -/
def height : Boxes → Nat
  | .empty => 0
  | .box _ _ children rest => max (children.height + 1) rest.height

/-- All that the boxes declare, in the order of the file. -/
def contents : Boxes → List Content
  | .empty => []
  | .box _ content children rest => content :: (children.contents ++ rest.contents)

end Boxes

/-! ## Headers -/

def declaredSize (slice : Slice) (offset : Nat) : Nat := number slice offset 4

def headerKind (slice : Slice) (offset : Nat) : List UInt8 := slice.part (offset + 4) 4

/-- A size of zero runs to the end of the parent, and a size of one is followed by the real one. -/
def boxLength (slice : Slice) (offset limit : Nat) : Nat :=
  if declaredSize slice offset = 0 then limit - offset
  else if declaredSize slice offset = 1 then number slice (offset + 8) 8
  else declaredSize slice offset

def headerLength (slice : Slice) (offset : Nat) : Nat :=
  (if declaredSize slice offset = 1 then 16 else 8) +
    (if headerKind slice offset = fourcc 'u' 'u' 'i' 'd' then 16 else 0)

/-- The header of a box that lies inside its parent. -/
@[mk_iff]
structure HeaderAt (slice : Slice) (offset limit : Nat) (header : Header) : Prop where
  readable : offset + 8 ≤ limit
  readableSize : declaredSize slice offset = 1 → offset + 16 ≤ limit
  isKind : header.kind = headerKind slice offset
  isBodyStart : header.bodyStart = offset + headerLength slice offset
  isBodyEnd : header.bodyEnd = offset + boxLength slice offset limit
  isNext : header.next = header.bodyEnd
  covers : header.bodyStart ≤ header.bodyEnd
  inside : header.bodyEnd ≤ limit

instance {slice : Slice} {offset limit : Nat} {header : Header} :
    Decidable (HeaderAt slice offset limit header) :=
  decidable_of_iff _ (headerAt_iff ..).symm

/-! ## What a box declares -/

/-- The extents of a record lie between the two offsets. -/
def ExtentsAt (slice : Slice) (fields : Fields) (finish : Nat) : List Nat → Nat → Nat → Prop
  | [], offset, next => next = offset
  | length :: lengths, offset, next =>
    let lengthOffset := offset + fields.indexSize + fields.offsetSize
    lengthOffset + fields.lengthSize ≤ finish ∧ length = number slice lengthOffset fields.lengthSize ∧
      ExtentsAt slice fields finish lengths (lengthOffset + fields.lengthSize) next

/-- The width of an item identifier, and of the number of records. -/
def Fields.idSize (fields : Fields) : Nat := if fields.version < 2 then 2 else 4

/-- Where a record counts its extents. -/
def Fields.extentCountAt (fields : Fields) (offset : Nat) : Nat :=
  offset + fields.idSize + (if 1 ≤ fields.version then 2 else 0) + 2 + fields.baseOffsetSize

def RecordsAt (slice : Slice) (fields : Fields) (finish : Nat) : List LocationRecord → Nat → Prop
  | [], _ => True
  | record :: records, offset =>
    fields.extentCountAt offset + 2 ≤ finish ∧ record.id = number slice offset fields.idSize ∧
      record.lengths.length = number slice (fields.extentCountAt offset) 2 ∧
      ∃ next, ExtentsAt slice fields finish record.lengths (fields.extentCountAt offset + 2) next ∧
        RecordsAt slice fields finish records next

structure LocationsAt (slice : Slice) (header : Header) (records : List LocationRecord) (fields : Fields) :
    Prop where
  isFields : readFields slice header = .ok fields
  readable : header.bodyStart + 6 + fields.idSize ≤ header.bodyEnd
  counted : records.length = number slice (header.bodyStart + 6) fields.idSize
  isRecords : RecordsAt slice fields header.bodyEnd records (header.bodyStart + 6 + fields.idSize)

/-- Reference lists that fill a range; `list` tells how many references the one of a header has. -/
def ListsAt (slice : Slice) (list : Nat → Header → Nat → Prop) (finish : Nat) : List Nat → Nat → Prop
  | [], offset => offset = finish
  | count :: counts, offset =>
    ∃ child, HeaderAt slice offset finish child ∧ list offset child count ∧
      ListsAt slice list finish counts child.next

/-- A list of an item reference box is not empty and fills its box. -/
structure ItemList (slice : Slice) (idSize : Nat) (child : Header) (count : Nat) : Prop where
  positive : 1 ≤ count
  isCount : count = number slice (child.bodyStart + idSize) 2
  fills : child.bodyStart + (idSize + 2 + count * idSize) = child.bodyEnd

/-- A list of a track reference box says its size, is not empty and fills its box. -/
structure TrackList (slice : Slice) (offset : Nat) (child : Header) (count : Nat) : Prop where
  sized : declaredSize slice offset ≠ 0
  positive : 1 ≤ count
  fills : child.bodyStart + count * 4 = child.bodyEnd

/-- The width of the identifiers of an item reference box. -/
def referenceIdSize (slice : Slice) (header : Header) : Nat :=
  if number slice header.bodyStart 1 = 0 then 2 else 4

structure ItemReferencesAt (slice : Slice) (header : Header) (counts : List Nat) : Prop where
  readable : header.bodyStart + 4 ≤ header.bodyEnd
  supported : number slice header.bodyStart 1 ≤ 1
  isLists : ListsAt slice (fun _ => ItemList slice (referenceIdSize slice header)) header.bodyEnd counts
    (header.bodyStart + 4)

/-- Entries of which each has an identifier, a count and as many associations. -/
def EntriesAt (slice : Slice) (idSize width finish : Nat) : List Nat → Nat → Prop
  | [], _ => True
  | count :: counts, offset =>
    offset + idSize + 1 + count * width ≤ finish ∧ count = number slice (offset + idSize) 1 ∧
      EntriesAt slice idSize width finish counts (offset + idSize + 1 + count * width)

structure AssociationsAt (slice : Slice) (header : Header) (counts : List Nat) : Prop where
  readable : header.bodyStart + 8 ≤ header.bodyEnd
  supported : number slice header.bodyStart 1 ≤ 1
  counted : counts.length = number slice (header.bodyStart + 4) 4
  isEntries : EntriesAt slice (if number slice header.bodyStart 1 < 1 then 2 else 4)
    (if number slice (header.bodyStart + 3) 1 % 2 = 1 then 2 else 1) header.bodyEnd counts
    (header.bodyStart + 8)

/-- Whether the parser loads an item while it parses. -/
def isEager (itemType contentType : List UInt8) : Bool :=
  !(isImageItem itemType contentType && itemType != mime)

/-- What a box of the header's type declares, and where its children are. -/
def HoldsAt (slice : Slice) (header : Header) (content : Content) (layout : Layout) : Prop :=
  match classify header.kind with
  | .metaBox => content = .metadata ∧ layout = .tiled (header.bodyStart + 4)
  | .iinf =>
    let width := if number slice header.bodyStart 1 = 0 then 2 else 4
    header.bodyStart + 4 + width ≤ header.bodyEnd ∧ content = .plain ∧
      layout = .counted (header.bodyStart + 4 + width) (number slice (header.bodyStart + 4) width)
  | .infe =>
    ∃ id itemType contentType, readInfe slice header = .ok (id, itemType, contentType) ∧
      content = .item id (isEager itemType contentType) ∧ layout = .leaf
  | .iloc =>
    ∃ records fields, LocationsAt slice header records fields ∧ content = .locations records ∧
      layout = .leaf
  | .iref => ∃ counts, ItemReferencesAt slice header counts ∧ content = .references counts ∧ layout = .leaf
  | .ipma => ∃ counts, AssociationsAt slice header counts ∧ content = .associations counts ∧ layout = .leaf
  | .stsd =>
    header.bodyStart + 8 ≤ header.bodyEnd ∧ number slice header.bodyStart 1 = 0 ∧ content = .plain ∧
      layout = .listed (header.bodyStart + 8) (number slice (header.bodyStart + 4) 4)
  | .dref => content = .plain ∧ layout = .tiled (header.bodyStart + 8)
  | .urim => content = .plain ∧ layout = .tiled (header.bodyStart + 8)
  | .tref =>
    ∃ counts, ListsAt slice (TrackList slice) header.bodyEnd counts header.bodyStart ∧
      content = .references counts ∧ layout = .leaf
  | .ftyp => ∃ sequence, readFtyp slice header = .ok sequence ∧ content = .fileType sequence ∧ layout = .leaf
  | .colr => readColr slice header = .ok () ∧ content = .plain ∧ layout = .leaf
  | .mini => content = .minimised ∧ layout = .leaf
  | .container => content = .plain ∧ layout = .tiled header.bodyStart
  | .visualSampleEntry =>
    header.bodyStart + visualSampleEntryPrefix ≤ header.bodyEnd ∧
      (slice.byte (header.bodyStart + visualSampleEntryNameLength)).toNat ≤ 31 ∧ content = .plain ∧
      layout = .tiled (header.bodyStart + visualSampleEntryPrefix)
  | .other => content = .plain ∧ layout = .leaf

/-! ## Where the boxes are -/

/-- The boxes follow each other from `start`, each inside the range and with its children where its
type has them.  If `exact`, they fill the range. -/
def Boxes.Placed (slice : Slice) : Boxes → Bool → Nat → Nat → Prop
  | .empty, exact, start, finish => exact = true → start = finish
  | .box header content children rest, exact, start, finish =>
    HeaderAt slice start finish header ∧
      (∃ layout, HoldsAt slice header content layout ∧
        match layout with
        | .leaf => children = .empty
        | .tiled first => first ≤ header.bodyEnd ∧ children.Placed slice true first header.bodyEnd
        | .counted first count =>
          children.count = count ∧ children.Placed slice true first header.bodyEnd
        | .listed first count =>
          children.count = count ∧ children.Placed slice false first header.bodyEnd) ∧
      rest.Placed slice exact header.next finish

/-! ## Totals -/

namespace Content

def items : Content → Nat
  | .item _ _ => 1
  | _ => 0

def ilocRecords : Content → Nat
  | .locations records => records.length
  | _ => 0

def referenceCount : Content → Nat
  | .references counts => counts.sum
  | _ => 0

def ipmaEntries : Content → Nat
  | .associations counts => counts.length
  | _ => 0

def ipmaAssociations : Content → Nat
  | .associations counts => counts.sum
  | _ => 0

def records : Content → List LocationRecord
  | .locations records => records
  | _ => []

/-- The item, if it is loaded eagerly. -/
def eagerItems : Content → List Nat
  | .item id true => [id]
  | _ => []

end Content

end Genkan.DynamicWallpaper.Container
