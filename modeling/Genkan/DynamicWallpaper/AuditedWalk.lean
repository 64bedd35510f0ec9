import Genkan.DynamicWallpaper.Container
import Genkan.Foundations.Machine

/-! # The preflight with its panics and its log

The preflight again, with every operation that can panic: a sum, a difference or a product of machine
words, an index, and a range.  It logs each box that it visits, with its depth, and each turn of a loop.
A loop over boxes has as many turns as its range has bytes, and the recursion as many levels as the
stack; one more of either is a panic.
-/

namespace Genkan.DynamicWallpaper.Container.Audited

open Foundations Foundations.Audit Foundations.Bytes Heic

inductive Event where
  | visited (depth : Nat)
  /-- A turn of a loop over boxes, from a header to the next one. -/
  | header (offset next : Nat)
  /-- A turn of a loop over location records, over the extents of one, or over associations. -/
  | record (index : Nat)
  | extent (index : Nat)
  | entry (index : Nat)
  /-- A turn of the loops over the items that are loaded and over the records that are kept. -/
  | loads (index : Nat)
  | compares (index : Nat)
  deriving DecidableEq, Repr

abbrev Task (Value : Type) := Audit Event Error Value

/-! ## Operations that can panic -/

/-- The depth is of 32 bits. -/
def deeper (depth : Nat) : Task Nat := .expect (Checked.add 32 depth 1)

def indexes (bytes : List UInt8) (positions : List Nat) : Task (List UInt8) :=
  .expect (positions.mapM fun position => bytes[position]?)

def range (bytes : List UInt8) (start finish : Nat) : Task (List UInt8) :=
  .expect (if start ≤ finish ∧ finish ≤ bytes.length then some ((bytes.take finish).drop start) else none)

/-- The conversion to an array. -/
def sized (bytes : List UInt8) (width : Nat) : Task (List UInt8) :=
  .expect (if bytes.length = width then some bytes else none)

/-! ## Reading -/

def read (slice : Slice) (offset length finish : Nat) : Task (List UInt8) := do
  let stop ← .of (okOr (checkedAdd offset length) (.container "box offset overflow"))
  .of (rejectIf (finish < stop ∨ slice.length < stop) (.container "box is truncated"))
  .expect (slice.get offset stop)

def readBigEndian (slice : Slice) (offset width finish : Nat) : Task Nat := do
  let bytes ← read slice offset width finish
  let bytes ← indexes bytes (List.range width)
  pure (ofBigEndian bytes)

def readU8 (slice : Slice) (offset finish : Nat) : Task Nat := readBigEndian slice offset 1 finish

def readU16 (slice : Slice) (offset finish : Nat) : Task Nat := readBigEndian slice offset 2 finish

def readU32 (slice : Slice) (offset finish : Nat) : Task Nat := readBigEndian slice offset 4 finish

def readUint (slice : Slice) (offset width finish : Nat) : Task Nat :=
  match width with
  | 0 => pure 0
  | 4 => readU32 slice offset finish
  | 8 => do
    let high ← readU32 slice offset finish
    let lowAt ← add offset 4
    let low ← readU32 slice lowAt finish
    pure (high * 2 ^ 32 + low)
  | _ => .of (.error (.container "unsupported integer width"))

def readFourcc (slice : Slice) (offset finish : Nat) : Task (List UInt8) := do
  let bytes ← read slice offset 4 finish
  indexes bytes (List.range 4)

def readCstring (slice : Slice) (offset finish : Nat) : Task (List UInt8 × Nat) := do
  .of (rejectIf (finish < offset ∨ slice.length < finish) (.container "box is truncated"))
  let rest ← .expect (slice.get offset finish)
  match rest.findIdx? (· == 0) with
  | some length =>
    let value ← range rest 0 length
    let zeroAt ← add offset length
    let next ← add zeroAt 1
    pure (value, next)
  | none =>
    if rest = [] then pure (rest, finish)
    else
      let last ← sub rest.length 1
      let value ← range rest 0 last
      pure (value, finish)

def boxLengths (slice : Slice) (offset limit size : Nat) : Task (Nat × Nat) :=
  if size = 0 then do
    let length ← sub limit offset
    pure (length, 8)
  else if size = 1 then do
    let start ← .of (okOr (checkedAdd offset 8) (.container "box offset overflow"))
    let large ← read slice start 8 limit
    let large ← sized large 8
    pure (ofBigEndian large, 16)
  else pure (size, 8)

def readHeader (slice : Slice) (offset limit : Nat) : Task Header := do
  let header ← read slice offset 8 limit
  let size ← indexes header [0, 1, 2, 3]
  let kind ← indexes header [4, 5, 6, 7]
  let lengths ← boxLengths slice offset limit (ofBigEndian size)
  let headerLength ← (if kind = fourcc 'u' 'u' 'i' 'd' then add lengths.2 16 else pure lengths.2)
  .of (rejectIf (lengths.1 < headerLength) (.container "box is smaller than its header"))
  let bodyStart ← .of (okOr (checkedAdd offset headerLength) (.container "box offset overflow"))
  let bodyEnd ← .of (okOr (checkedAdd offset lengths.1) (.container "box offset overflow"))
  .of (rejectIf (limit < bodyEnd) (.container "box extends past its parent"))
  pure { kind, bodyStart, bodyEnd, next := bodyEnd }

/-- A loop over the boxes of a range.  `check` looks at the start of a box before its header is read, and
`body` is what is done with the box. -/
def boxLoop {State : Type} (slice : Slice) (check : Nat → Task Unit) (body : Header → State → Task State)
    (finish : Nat) : Nat → Nat → State → Task State
  | 0, offset, state => if offset < finish then .panics else pure state
  | turns + 1, offset, state =>
    if offset < finish then do
      check offset
      let child ← readHeader slice offset finish
      .log (.header offset child.next)
      let state ← body child state
      boxLoop slice check body finish turns child.next state
    else pure state

/-! ## Boxes without children -/

def readInfe (slice : Slice) (header : Header) : Task (Nat × List UInt8 × List UInt8) := do
  let finish := header.bodyEnd
  let version ← readU8 slice header.bodyStart finish
  .of (rejectIf (3 < version) (.container "unsupported item info version"))
  let offset ← add header.bodyStart 4
  if version ≤ 1 then
    let id ← readU16 slice offset finish
    let offset ← add offset 2
    let offset ← add offset 2
    let name ← readCstring slice offset finish
    let contentType ← readCstring slice name.2 finish
    let _ ← readCstring slice contentType.2 finish
    pure (id, [0, 0, 0, 0], contentType.1)
  else
    let width := if version = 2 then 2 else 4
    let id ← readBigEndian slice offset width finish
    let offset ← add offset width
    let offset ← add offset 2
    let itemType ← readFourcc slice offset finish
    let offset ← add offset 4
    let name ← readCstring slice offset finish
    let contentType ← (if itemType = mime then readCstring slice name.2 finish else pure ([], name.2))
    let _ ← (if itemType = fourcc 'u' 'r' 'i' ' ' then readCstring slice contentType.2 finish
      else pure ([], contentType.2))
    pure (id, itemType, contentType.1)

def parseInfe (slice : Slice) (budget : Budget) (header : Header) (walk : Walk) : Task Walk := do
  let (id, itemType, contentType) ← readInfe slice header
  let items ← .of (countUp walk.totals.items 1 budget.maxContainerItems "container item count")
  let walk := { walk with totals := { walk.totals with items := items } }
  if isImageItem itemType contentType ∧ itemType ≠ mime then pure walk
  else if id ∈ walk.metadataItems then pure walk
  else
    -- The length is cast to 32 bits.
    .of (rejectIf (budget.maxMetadataItems.toNat ≤ walk.metadataItems.length % 2 ^ 32)
      (.limit "metadata item count"))
    pure { walk with metadataItems := walk.metadataItems ++ [id] }

def extentLoop (slice : Slice) (fields : Fields) (finish : Nat) : Nat → Nat → Nat → Nat → Task (Nat × Nat)
  | 0, _, offset, total => pure (offset, total)
  | count + 1, index, offset, total => do
    .log (.extent index)
    let offset ← .of (advance offset fields.indexSize finish)
    let offset ← .of (advance offset fields.offsetSize finish)
    let length ← readUint slice offset fields.lengthSize finish
    let total ← .of (okOr (checkedAdd total length) (.limit "item extent bytes"))
    let offset ← .of (advance offset fields.lengthSize finish)
    extentLoop slice fields finish count (index + 1) offset total

def recordLoop (slice : Slice) (budget : Budget) (fields : Fields) (finish : Nat) :
    Nat → Nat → Nat → List Extent → Task (List Extent)
  | 0, _, _, extents => pure extents
  | count + 1, index, offset, extents => do
    .log (.record index)
    let width := if fields.version < 2 then 2 else 4
    let id ← readBigEndian slice offset width finish
    let offset ← add offset width
    let offset ← (if 1 ≤ fields.version then add offset 2 else pure offset)
    let offset ← add offset 2
    let offset ← .of (advance offset fields.baseOffsetSize finish)
    let extentCount ← readU16 slice offset finish
    let offset ← add offset 2
    .of (rejectIf (budget.maxItemExtents.toNat < extentCount) (.limit "item extent count"))
    let (offset, total) ← extentLoop slice fields finish extentCount 0 offset 0
    recordLoop slice budget fields finish count (index + 1) offset (extents ++ [{ id := id, bytes := total }])

def readFields (slice : Slice) (header : Header) : Task Fields := do
  let version ← readU8 slice header.bodyStart header.bodyEnd
  .of (rejectIf (2 < version) (.container "unsupported item location version"))
  let offset ← add header.bodyStart 4
  let widths ← readU16 slice offset header.bodyEnd
  let offsetSize := widths / 2 ^ 12 % 16
  let lengthSize := widths / 2 ^ 8 % 16
  let baseOffsetSize := widths / 2 ^ 4 % 16
  let indexSize := if 1 ≤ version then widths % 16 else 0
  .of (rejectIf (∃ width ∈ [offsetSize, lengthSize, baseOffsetSize, indexSize], ¬ width ∈ [0, 4, 8])
    (.container "unsupported item location field width"))
  pure { version, offsetSize, lengthSize, baseOffsetSize, indexSize }

def parseIloc (slice : Slice) (budget : Budget) (header : Header) (walk : Walk) : Task Walk := do
  let fields ← readFields slice header
  -- The widths are read after the version and the flags.
  let offset ← add header.bodyStart 4
  let offset ← add offset 2
  let width := if fields.version < 2 then 2 else 4
  let itemCount ← readBigEndian slice offset width header.bodyEnd
  let offset ← add offset width
  let records ← .of (countUp walk.totals.ilocRecords itemCount budget.maxContainerItems
    "item location record count")
  let extents ← recordLoop slice budget fields header.bodyEnd itemCount 0 offset walk.extents
  pure { walk with totals := { walk.totals with ilocRecords := records }, extents := extents }

def irefList (slice : Slice) (budget : Budget) (idSize : Nat) (child : Header) (references : Nat) :
    Task Nat := do
  let countAt ← add child.bodyStart idSize
  let count ← readU16 slice countAt child.bodyEnd
  .of (rejectIf (count = 0) (.container "reference list is empty"))
  let references ← .of (countUp references count budget.maxContainerItems "reference count")
  let first ← add idSize 2
  let ids ← mul count idSize
  let length ← add first ids
  let expected ← .of (okOr (checkedAdd child.bodyStart length) (.limit "reference count"))
  .of (rejectIf (expected ≠ child.bodyEnd) (.container "reference list does not fill its box"))
  pure references

def parseIref (slice : Slice) (budget : Budget) (header : Header) (walk : Walk) : Task Walk := do
  let prefixBytes ← read slice header.bodyStart 4 header.bodyEnd
  let version ← index prefixBytes 0
  .of (rejectIf (1 < version.toNat) (.container "unsupported reference version"))
  let idSize := if version.toNat = 0 then 2 else 4
  let offset ← add header.bodyStart 4
  let references ← boxLoop slice (fun _ => pure ()) (irefList slice budget idSize) header.bodyEnd
    (header.bodyEnd - offset) offset walk.totals.irefReferences
  pure { walk with totals := { walk.totals with irefReferences := references } }

def trefCheck (slice : Slice) (finish offset : Nat) : Task Unit := do
  let bytes ← read slice offset 4 finish
  let bytes ← sized bytes 4
  .of (rejectIf (ofBigEndian bytes = 0) (.container "track reference list has an unspecified size"))

def trefList (budget : Budget) (child : Header) (references : Nat) : Task Nat := do
  let length ← sub child.bodyEnd child.bodyStart
  .of (rejectIf (length < 4 ∨ length % 4 ≠ 0) (.container "track reference list has an invalid size"))
  let count ← .of (okOr (if length / 4 < 2 ^ 32 then some (length / 4) else none) (.limit "reference count"))
  .of (countUp references count budget.maxContainerItems "reference count")

def parseTref (slice : Slice) (budget : Budget) (header : Header) (walk : Walk) : Task Walk := do
  let references ← boxLoop slice (trefCheck slice header.bodyEnd) (trefList budget) header.bodyEnd
    (header.bodyEnd - header.bodyStart) header.bodyStart walk.totals.irefReferences
  pure { walk with totals := { walk.totals with irefReferences := references } }

def entryLoop (slice : Slice) (budget : Budget) (idSize width finish : Nat) :
    Nat → Nat → Nat → Nat → Task Nat
  | 0, _, _, associations => pure associations
  | count + 1, index, offset, associations => do
    .log (.entry index)
    let offset ← .of (advance offset idSize finish)
    let declared ← readU8 slice offset finish
    let offset ← add offset 1
    let associations ← .of (countUp associations declared budget.maxContainerAssociations
      "property association count")
    let length ← mul declared width
    let offset ← .of (advance offset length finish)
    entryLoop slice budget idSize width finish count (index + 1) offset associations

def parseIpma (slice : Slice) (budget : Budget) (header : Header) (walk : Walk) : Task Walk := do
  let version ← readU8 slice header.bodyStart header.bodyEnd
  .of (rejectIf (1 < version) (.container "unsupported property association version"))
  let flagsAt ← add header.bodyStart 3
  let flags ← readU8 slice flagsAt header.bodyEnd
  let offset ← add header.bodyStart 4
  let entryCount ← readU32 slice offset header.bodyEnd
  let offset ← add offset 4
  let entries ← .of (countUp walk.totals.ipmaEntries entryCount budget.maxContainerItems
    "property association count")
  let associations ← entryLoop slice budget (if version < 1 then 2 else 4) (if flags % 2 = 1 then 2 else 1)
    header.bodyEnd entryCount 0 offset walk.totals.ipmaAssociations
  pure { walk with
    totals := { walk.totals with ipmaEntries := entries, ipmaAssociations := associations } }

def readFtyp (slice : Slice) (header : Header) : Task Bool := do
  let length ← sub header.bodyEnd header.bodyStart
  let body ← read slice header.bodyStart length header.bodyEnd
  .of (rejectIf (body.length < 8) (.container "file type box is truncated"))
  let major ← range body 0 4
  if isSequenceBrand major then pure true
  else
    let brands ← range body 8 body.length
    pure ((List.range (brands.length / 4)).any fun index =>
      isSequenceBrand ((brands.drop (index * 4)).take 4))

def parseFtyp (slice : Slice) (header : Header) (walk : Walk) : Task Walk := do
  let sequence ← readFtyp slice header
  pure { walk with sequenceBrand := sequence }

def readColr (slice : Slice) (header : Header) : Task Unit := do
  let length ← sub header.bodyEnd header.bodyStart
  let body ← read slice header.bodyStart length header.bodyEnd
  .of (rejectIf (body.length < 4) (.container "colour information box is truncated"))
  let profile ← range body 0 4
  .of (rejectIf ((profile = fourcc 'p' 'r' 'o' 'f' ∨ profile = fourcc 'r' 'I' 'C' 'C') ∧ body.length = 4)
    (.container "embedded colour profile is empty"))

def parseColr (slice : Slice) (header : Header) (walk : Walk) : Task Walk := do
  readColr slice header
  pure walk

/-! ## The walk -/

/-- `visit` is what is done with a box at a depth. -/
def walkBoxes (slice : Slice) (visit : Nat → Header → Walk → Task Walk) (start finish depth : Nat)
    (walk : Walk) : Task Walk := do
  .of (rejectIf (finish < start) (.container "box is truncated"))
  boxLoop slice (fun _ => pure ()) (visit depth) finish (finish - start) start walk

/-- One entry of an item information box; the state is how many there were, and the walk. -/
def iinfEntry (visit : Nat → Header → Walk → Task Walk) (depth : Nat) (child : Header)
    (state : Nat × Walk) : Task (Nat × Walk) := do
  let childDepth ← deeper depth
  let walk ← visit childDepth child state.2
  let seen ← .of (okOr (if state.1 + 1 < 2 ^ 32 then some (state.1 + 1) else none)
    (.limit "container item count"))
  pure (seen, walk)

def parseIinf (slice : Slice) (visit : Nat → Header → Walk → Task Walk) (header : Header) (depth : Nat)
    (walk : Walk) : Task Walk := do
  let version ← readU8 slice header.bodyStart header.bodyEnd
  let offset ← add header.bodyStart 4
  let width := if version = 0 then 2 else 4
  let declared ← readBigEndian slice offset width header.bodyEnd
  let offset ← add offset width
  let (seen, walk) ← boxLoop slice (fun _ => pure ()) (iinfEntry visit depth) header.bodyEnd
    (header.bodyEnd - offset) offset (0, walk)
  .of (rejectIf (seen ≠ declared) (.container "item information count does not match its entries"))
  pure walk

def stsdLoop (slice : Slice) (visit : Nat → Header → Walk → Task Walk) (finish depth : Nat) :
    Nat → Nat → Walk → Task Walk
  | 0, _, walk => pure walk
  | count + 1, offset, walk => do
    .of (rejectIf (finish ≤ offset) (.container "sample description is truncated"))
    let child ← readHeader slice offset finish
    .log (.header offset child.next)
    let childDepth ← deeper depth
    let walk ← visit childDepth child walk
    stsdLoop slice visit finish depth count child.next walk

def parseStsd (slice : Slice) (visit : Nat → Header → Walk → Task Walk) (header : Header) (depth : Nat)
    (walk : Walk) : Task Walk := do
  let version ← readU8 slice header.bodyStart header.bodyEnd
  .of (rejectIf (version ≠ 0) (.container "unsupported sample description version"))
  let offset ← add header.bodyStart 4
  let count ← readU32 slice offset header.bodyEnd
  let offset ← add offset 4
  stsdLoop slice visit header.bodyEnd depth count offset walk

/-- The children of a box, from so many bytes after its header. -/
def walkBody (slice : Slice) (visit : Nat → Header → Walk → Task Walk) (header : Header)
    (skipped depth : Nat) (walk : Walk) : Task Walk := do
  let start ← add header.bodyStart skipped
  let childDepth ← deeper depth
  walkBoxes slice visit start header.bodyEnd childDepth walk

def walkVisualSampleEntry (slice : Slice) (visit : Nat → Header → Walk → Task Walk) (header : Header)
    (depth : Nat) (walk : Walk) : Task Walk := do
  let entry ← read slice header.bodyStart visualSampleEntryPrefix header.bodyEnd
  let nameLength ← index entry visualSampleEntryNameLength
  .of (rejectIf (31 < nameLength.toNat) (.container "sample entry compressor name is too long"))
  walkBody slice visit header visualSampleEntryPrefix depth walk

/-- The first argument is what is left of the stack. -/
def visit (slice : Slice) (budget : Budget) : Nat → Nat → Header → Walk → Task Walk
  | 0, _, _, _ => .panics
  | stack + 1, depth, header, walk => do
    .log (.visited depth)
    .of (rejectIf (budget.maxContainerDepth.toNat < depth) (.limit "box nesting depth"))
    let boxes ← .of (countUp walk.boxes 1 budget.maxContainerBoxes "box count")
    let walk := { walk with boxes := boxes }
    match classify header.kind with
    | .metaBox => walkBody slice (visit slice budget stack) header 4 depth { walk with sawMeta := true }
    | .iinf => parseIinf slice (visit slice budget stack) header depth walk
    | .infe => parseInfe slice budget header walk
    | .iloc => parseIloc slice budget header walk
    | .iref => parseIref slice budget header walk
    | .ipma => parseIpma slice budget header walk
    | .stsd => parseStsd slice (visit slice budget stack) header depth walk
    | .dref => walkBody slice (visit slice budget stack) header 8 depth walk
    | .urim => walkBody slice (visit slice budget stack) header 8 depth walk
    | .tref => parseTref slice budget header walk
    | .ftyp => parseFtyp slice header walk
    | .colr => parseColr slice header walk
    | .mini => pure { walk with sawMini := true }
    | .container => walkBody slice (visit slice budget stack) header 0 depth walk
    | .visualSampleEntry => walkVisualSampleEntry slice (visit slice budget stack) header depth walk
    | .other => pure walk

/-- The stack is for the boxes of the allowed depths and the one that is refused. -/
def walkFile (slice : Slice) (budget : Budget) : Task Walk :=
  walkBoxes slice (visit slice budget (budget.maxContainerDepth.toNat + 2)) 0 slice.length 0 {}

/-! ## The check of the declared bytes -/

def largestLoop (id : Nat) : Nat → List Extent → Nat → Task Nat
  | _, [], largest => pure largest
  | index, extent :: extents, largest => do
    .log (.compares index)
    largestLoop id (index + 1) extents (if extent.id = id then max largest extent.bytes else largest)

def loadLoop (extents : List Extent) : Nat → List Nat → Nat → Task Nat
  | _, [], total => pure total
  | index, id :: ids, total => do
    .log (.loads index)
    let largest ← largestLoop id 0 extents 0
    let total ← .of (okOr (checkedAdd total largest) (.limit "metadata extent bytes"))
    loadLoop extents (index + 1) ids total

def checkMetadataBytes (budget : Budget) (walk : Walk) : Task Unit := do
  let total ← loadLoop walk.extents 0 walk.metadataItems 0
  .of (rejectIf (budget.maxMetadataBytes.toNat < total) (.limit "metadata extent bytes"))

def preflight (slice : Slice) (budget : Budget) : Task Unit := do
  let walk ← walkFile slice budget
  .of (rejectIf (walk.sawMeta = false ∧ walk.sawMini = false ∧ walk.sequenceBrand = false)
    (.container "no metadata box"))
  checkMetadataBytes budget walk

end Genkan.DynamicWallpaper.Container.Audited
