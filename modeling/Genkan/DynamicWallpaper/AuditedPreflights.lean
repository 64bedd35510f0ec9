import Genkan.DynamicWallpaper.ColorProfile
import Genkan.DynamicWallpaper.PropertyList
import Genkan.Foundations.Machine

/-! # The preflights of property lists and colour profiles with their panics and their turns

Both preflights again, with every operation that can panic, and with a log of the turns of their loops.
The loop over the stack has one turn for each object that may be expanded and one for the object that is
refused; one more is a panic.  Memory for what the limits allow is taken to be available.
-/

namespace Genkan.DynamicWallpaper.Heic.Audited

open Foundations Foundations.Audit Foundations.Bytes

/-- The loop that took a turn. -/
inductive Event where
  | byte
  | offset
  | object
  | reference
  | tag
  | record
  deriving DecidableEq, Repr

abbrev Task (Value : Type) := Audit Event Error Value

/-! ## Property lists -/

/-- The shift is by fewer bits than the word has. -/
def readBe (slice : Slice) (start length : Nat) : Task Nat := do
  let finish ← .of (okOr (checkedAdd start length) (.metadata "integer offset overflow"))
  let part ← .of (okOr (slice.get start finish) (.metadata "truncated property list integer"))
  loop .byte (fun value byte => .of (pushByte value byte)) part 0

def objectLength (slice : Slice) (objectOffset info finish : Nat) : Task (Nat × Nat) :=
  if info < 15 then do
    let start ← add objectOffset 1
    pure (info, start)
  else do
    let markerAt ← add objectOffset 1
    .of (checkedRange markerAt 1 finish)
    let marker ← index slice.bytes markerAt
    .of (rejectIf (marker.toNat / 16 ≠ 1 ∨ 3 < marker.toNat % 16)
      (.metadata "invalid extended object length"))
    let width ← shiftLeft 1 (marker.toNat % 16)
    let lengthAt ← add objectOffset 2
    let length ← readBe slice lengthAt width
    .of (checkedRange lengthAt width finish)
    let start ← add lengthAt width
    pure (length, start)

def readOffset (slice : Slice) (tableOffset offsetSize position : Nat) : Task Nat := do
  let skipped ← mul position offsetSize
  let start ← add tableOffset skipped
  let offset ← readBe slice start offsetSize
  .of (rejectIf (¬ (8 ≤ offset ∧ offset < tableOffset)) (.metadata "invalid object offset"))
  pure offset

def readTable (slice : Slice) (limits : Limits) : Task ObjectTable := do
  .of (rejectIf (slice.length < 40 ∨ slice.part 0 8 ≠ plistMagic)
    (.metadata "property is not a binary property list"))
  let trailer ← sub slice.length 32
  let offsetSizeAt ← add trailer 6
  let offsetSize ← index slice.bytes offsetSizeAt
  let referenceSizeAt ← add trailer 7
  let referenceSize ← index slice.bytes referenceSizeAt
  let offsetSize := offsetSize.toNat
  let referenceSize := referenceSize.toNat
  .of (rejectIf (¬ (1 ≤ offsetSize ∧ offsetSize ≤ 8) ∨ ¬ (1 ≤ referenceSize ∧ referenceSize ≤ 8))
    (.metadata "invalid property list integer width"))
  let objectCountAt ← add trailer 8
  let objectCount ← readBe slice objectCountAt 8
  let rootAt ← add trailer 16
  let root ← readBe slice rootAt 8
  let tableOffsetAt ← add trailer 24
  let tableOffset ← readBe slice tableOffsetAt 8
  .of (rejectIf (objectCount = 0 ∨ limits.maxPlistObjects.toNat < objectCount)
    (.limit "property list object count"))
  .of (rejectIf (objectCount ≤ root) (.metadata "invalid root object"))
  let tableBytes ← .of (okOr (checkedMul objectCount offsetSize) (.metadata "invalid offset table"))
  .of (rejectIf (tableOffset < 8 ∨ checkedAdd tableOffset tableBytes ≠ some trailer)
    (.metadata "invalid offset table"))
  let offsets ← each .offset (readOffset slice tableOffset offsetSize) (List.range objectCount)
  pure { referenceSize, objectCount, root, tableOffset, offsets }

/-- The depth of the child is one more than that of the object, for each child anew. -/
def readReference (slice : Slice) (table : ObjectTable) (start depth position : Nat) : Task Nat := do
  let skipped ← mul position table.referenceSize
  let referenceAt ← add start skipped
  let child ← readBe slice referenceAt table.referenceSize
  .of (rejectIf (table.objectCount ≤ child) (.metadata "invalid object reference"))
  let _ ← add depth 1
  pure child

def visitData (slice : Slice) (limits : Limits) (table : ObjectTable) (kind info offset : Nat)
    (expandedBytes : Nat) : Task Nat := do
  let (length, start) ← objectLength slice offset info table.tableOffset
  let size ← .of (okOr (checkedMul length (if kind = 6 then 2 else 1)) (.metadata "invalid data object"))
  .of (checkedRange start size table.tableOffset)
  let expandedSize ← .of (okOr (if kind = 6 then checkedMul length 3 else some length)
    (.limit "expanded property list memory"))
  .of (chargeExpandedBytes expandedBytes expandedSize limits)

def visitCollection (slice : Slice) (limits : Limits) (table : ObjectTable) (kind info offset depth : Nat)
    (expanded waiting expandedBytes : Nat) : Task (Nat × List Nat) := do
  let (length, start) ← objectLength slice offset info table.tableOffset
  let referenceCount ← .of (okOr (if kind = 13 then checkedMul length 2 else some length)
    (.metadata "invalid dictionary"))
  let size ← .of (okOr (checkedMul referenceCount table.referenceSize) (.metadata "invalid reference list"))
  .of (checkedRange start size table.tableOffset)
  let collectionBytes ← .of (okOr (checkedMul referenceCount 16) (.limit "expanded property list memory"))
  let expandedBytes ← .of (chargeExpandedBytes expandedBytes collectionBytes limits)
  let planned ← .of (okOr ((checkedAdd expanded waiting).bind (checkedAdd · referenceCount))
    (.limit "expanded property list object count"))
  .of (rejectIf (limits.maxExpandedPlistObjects.toNat < planned)
    (.limit "expanded property list object count"))
  let children ← each .reference (readReference slice table start depth) (List.range referenceCount)
  pure (expandedBytes, children)

def visitPayload (slice : Slice) (limits : Limits) (table : ObjectTable) (kind info offset depth : Nat)
    (expanded waiting expandedBytes : Nat) : Task (Nat × List Nat) :=
  match kind with
  | 0x0 => do
    .of (rejectIf (¬ (info = 0 ∨ info = 8 ∨ info = 9)) (.metadata "unsupported property list primitive"))
    pure (expandedBytes, [])
  | 0x1 | 0x2 => do
    let size ← shiftLeft 1 info
    let start ← add offset 1
    .of (checkedRange start size table.tableOffset)
    pure (expandedBytes, [])
  | 0x3 => do
    .of (rejectIf (info ≠ 3) (.metadata "invalid date object"))
    let start ← add offset 1
    .of (checkedRange start 8 table.tableOffset)
    pure (expandedBytes, [])
  | 0x4 | 0x5 | 0x6 => do
    let expandedBytes ← visitData slice limits table kind info offset expandedBytes
    pure (expandedBytes, [])
  | 0x8 => do
    let size ← add info 1
    let start ← add offset 1
    .of (checkedRange start size table.tableOffset)
    pure (expandedBytes, [])
  | 0xa | 0xc | 0xd =>
    visitCollection slice limits table kind info offset depth expanded waiting expandedBytes
  | _ => .of (.error (.metadata "unsupported property list object"))

def visitObject (slice : Slice) (limits : Limits) (table : ObjectTable) (reference depth : Nat)
    (expanded waiting expandedBytes : Nat) : Task (Nat × List Nat) := do
  let expandedBytes ← .of (chargeExpandedBytes expandedBytes 64 limits)
  .of (rejectIf (limits.maxPlistDepth.toNat < depth) (.limit "property list nesting depth"))
  let offset ← index table.offsets reference
  let marker ← index slice.bytes offset
  visitPayload slice limits table (marker.toNat / 16) (marker.toNat % 16) offset depth expanded waiting
    expandedBytes

/-- The first number is that of the turns that are left. -/
def expandObjects (slice : Slice) (limits : Limits) (table : ObjectTable) :
    Nat → Nat → Nat → List (Nat × Nat) → Task Unit
  | _, _, _, [] => pure ()
  | 0, _, _, _ :: _ => .panics
  | turns + 1, expanded, expandedBytes, (reference, depth) :: stack => do
    .log .object
    let expanded ← add expanded 1
    .of (rejectIf (limits.maxExpandedPlistObjects.toNat < expanded)
      (.limit "expanded property list object count"))
    let (expandedBytes, children) ←
      visitObject slice limits table reference depth expanded stack.length expandedBytes
    expandObjects slice limits table turns expanded expandedBytes
      (children.foldl (fun stack child => (child, depth + 1) :: stack) stack)

def preflightBinaryPlist (slice : Slice) (limits : Limits) : Task Unit := do
  let table ← readTable slice limits
  expandObjects slice limits table (limits.maxExpandedPlistObjects.toNat + 1) 0 0 [(table.root, 1)]

/-! ## Colour profiles -/

def byteAt (bytes : List UInt8) (start position : Nat) : Task UInt8 := do
  let place ← add start position
  index bytes place

/-- The integer of the four bytes from `start` on, each of them indexed. -/
def word (bytes : List UInt8) (start : Nat) : Task Nat := do
  let first ← byteAt bytes start 0
  let second ← byteAt bytes start 1
  let third ← byteAt bytes start 2
  let fourth ← byteAt bytes start 3
  pure (ofBigEndian [first, second, third, fourth])

def chargeIccRecords (tag : Slice) (limits : Limits) : Nat → Nat → Charges → Task Charges
  | 0, _, charges => pure charges
  | remaining + 1, record, charges => do
    .log .record
    match checkedAdd 28 (saturatingMul (record - 1) 12) with
    | none => pure charges
    | some start =>
      let finish ← add start 12
      match tag.get start finish with
      | none => pure charges
      | some header =>
        let offset ← word header 8
        let length ← word header 4
        let (fits, charges) ← .of (chargeIccRecord tag offset length limits charges)
        if fits then chargeIccRecords tag limits remaining (record + 1) charges else pure charges

def chargeLocalized (tag : Slice) (limits : Limits) (charges : Charges) : Task Charges :=
  if tag.length < 28 then pure charges
  else do
    let count ← word tag.bytes 8
    let offset ← word tag.bytes 24
    let length ← word tag.bytes 20
    let (fits, charges) ← .of (chargeIccRecord tag offset length limits charges)
    if fits then chargeIccRecords tag limits (count - 1) 1 charges else pure charges

def chargeUnicode (tag : Slice) (asciiEnd : Nat) (limits : Limits) (charges : Charges) : Task Charges := do
  let headerEnd ← add asciiEnd 8
  match tag.get asciiEnd headerEnd with
  | none => pure charges
  | some header =>
    let charges ← .of (countIccRecord limits charges)
    let units ← word header 4
    match checkedMul units 2 with
    | none => pure charges
    | some encoded =>
      if ((checkedAdd asciiEnd 8).bind (checkedAdd · encoded)).all (tag.length < ·) then pure charges
      else .of (chargeIccTextBytes (utf16TextBound encoded) limits charges)

def chargeDescription (tag : Slice) (limits : Limits) (charges : Charges) : Task Charges :=
  if tag.length < 12 then pure charges
  else do
    let ascii ← word tag.bytes 8
    match checkedAdd 12 ascii with
    | none => pure charges
    | some asciiEnd =>
      if tag.length < asciiEnd then pure charges
      else
        let charges ← .of (chargeIccTextBytes (lossyTextBound ascii) limits charges)
        chargeUnicode tag asciiEnd limits charges

/-- A range of bytes panics when it is reversed or ends past them. -/
def range (slice : Slice) (start finish : Nat) : Task Slice :=
  .expect (if start ≤ finish ∧ finish ≤ slice.length then some (slice.between start finish) else none)

def chargeIccText (tag : Slice) (limits : Limits) (charges : Charges) : Task Charges := do
  let kind ← range tag 0 4
  if kind.bytes = localizedType then chargeLocalized tag limits charges
  else if kind.bytes = descriptionType then chargeDescription tag limits charges
  else .of (chargeIccTextBytes (lossyTextBound (tag.length - 8)) limits charges)

def chargeIccTag (profile : Slice) (limits : Limits) (charges : Charges) (position : Nat) : Task Charges := do
  let skipped ← mul position 12
  let entry ← add 132 skipped
  let offsetAt ← add entry 4
  let offset ← word profile.bytes offsetAt
  let sizeAt ← add entry 8
  let size ← word profile.bytes sizeAt
  let finish ← .of (iccTagEnd profile offset size)
  .of (rejectIf (profile.length < offset ∨ profile.length < finish)
    (.unsupportedColor "malformed embedded ICC profile"))
  let tag ← range profile offset finish
  if iccTextTypes.any (fun kind => kind.isPrefixOf tag.bytes) then chargeIccText tag limits charges
  else pure charges

def preflightIccProfile (profile : Slice) (limits : Limits) : Task Unit := do
  .of (rejectIf (profile.length < 132) (.unsupportedColor "malformed embedded ICC profile"))
  let declared ← word profile.bytes 0
  .of (rejectIf (declared ≠ profile.length) (.unsupportedColor "embedded ICC profile extent"))
  let tagCount ← word profile.bytes 128
  .of (rejectIf (limits.maxColorProfileTags.toNat < tagCount) (.unsupportedColor "embedded ICC profile tag count"))
  let tableEnd ← .of (okOr ((checkedMul tagCount 12).bind (checkedAdd 132))
    (.unsupportedColor "malformed embedded ICC profile"))
  .of (rejectIf (profile.length < tableEnd) (.unsupportedColor "malformed embedded ICC profile"))
  let _ ← loop .tag (chargeIccTag profile limits) (List.range tagCount) (0, 0)
  pure ()

end Genkan.DynamicWallpaper.Heic.Audited
