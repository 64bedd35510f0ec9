import Genkan.DynamicWallpaper.Parsing
import Genkan.Foundations.Results

/-! # The preflight of a container

The boxes of a file are walked once, and what they declare is counted against a budget, before a
parser allocates it.
-/

namespace Genkan.DynamicWallpaper.Container

open Foundations.Bytes Foundations.Results Heic

structure Budget where
  maxContainerItems : UInt32
  maxContainerAssociations : UInt32
  maxMetadataItems : UInt32
  maxMetadataBytes : UInt64
  maxContainerBoxes : UInt32
  maxContainerDepth : UInt32
  maxItemExtents : UInt32
  deriving DecidableEq, Repr

structure Totals where
  items : Nat := 0
  ilocRecords : Nat := 0
  irefReferences : Nat := 0
  ipmaEntries : Nat := 0
  ipmaAssociations : Nat := 0
  deriving DecidableEq, Repr

/-- The declared bytes of one location record. -/
structure Extent where
  id : Nat
  bytes : Nat
  deriving DecidableEq, Repr

@[ext]
structure Header where
  kind : List UInt8
  bodyStart : Nat
  bodyEnd : Nat
  next : Nat
  deriving DecidableEq, Repr

structure Walk where
  totals : Totals := {}
  boxes : Nat := 0
  metadataItems : List Nat := []
  extents : List Extent := []
  sawMeta : Bool := false
  sawMini : Bool := false
  sequenceBrand : Bool := false
  deriving DecidableEq, Repr

/-! ## Codes -/

def fourcc (first second third fourth : Char) : List UInt8 :=
  [first, second, third, fourth].map fun character => UInt8.ofNat character.toNat

/-- Types whose children follow the header. -/
def isContainer (kind : List UInt8) : Bool :=
  [fourcc 'i' 'p' 'r' 'p', fourcc 'i' 'p' 'c' 'o', fourcc 'd' 'i' 'n' 'f', fourcc 'g' 'r' 'p' 'l',
    fourcc 'm' 'o' 'o' 'v', fourcc 't' 'r' 'a' 'k', fourcc 'm' 'd' 'i' 'a', fourcc 'm' 'i' 'n' 'f',
    fourcc 's' 't' 'b' 'l', fourcc 'e' 'd' 't' 's', fourcc 'j' '2' 'k' 'H'].contains kind

def isVisualSampleEntry (kind : List UInt8) : Bool :=
  [fourcc 'h' 'v' 'c' '1', fourcc 'a' 'v' '0' '1', fourcc 'v' 'v' 'c' '1', fourcc 'a' 'v' 'c' '1',
    fourcc 'm' 'j' 'p' 'g', fourcc 'j' '2' 'k' 'i'].contains kind

def isSequenceBrand (brand : List UInt8) : Bool :=
  [fourcc 'm' 's' 'f' '1', fourcc 'i' 's' 'o' 'm', fourcc 'm' 'p' '4' '1',
    fourcc 'm' 'p' '4' '2'].contains brand

def mime : List UInt8 := fourcc 'm' 'i' 'm' 'e'

/-- `image/jpeg`. -/
def imageJpeg : List UInt8 := [105, 109, 97, 103, 101, 47, 106, 112, 101, 103]

def isImageItem (itemType contentType : List UInt8) : Bool :=
  [fourcc 'h' 'v' 'c' '1', fourcc 'a' 'v' '0' '1', fourcc 'g' 'r' 'i' 'd', fourcc 't' 'i' 'l' 'i',
    fourcc 'i' 'd' 'e' 'n', fourcc 'i' 'o' 'v' 'l', fourcc 'a' 'v' 'c' '1', fourcc 'u' 'n' 'c' 'i',
    fourcc 'v' 'v' 'c' '1', fourcc 'j' 'p' 'e' 'g', fourcc 'j' '2' 'k' '1',
    fourcc 'm' 's' 'k' 'i'].contains itemType ||
    (itemType == mime && contentType == imageJpeg)

/-- The types that the walk tells apart. -/
inductive BoxKind where
  | metaBox | iinf | infe | iloc | iref | ipma | stsd | dref | urim | tref | ftyp | colr | mini
  | container
  | visualSampleEntry
  | other
  deriving DecidableEq, Repr

def classify (kind : List UInt8) : BoxKind :=
  if kind = fourcc 'm' 'e' 't' 'a' then .metaBox
  else if kind = fourcc 'i' 'i' 'n' 'f' then .iinf
  else if kind = fourcc 'i' 'n' 'f' 'e' then .infe
  else if kind = fourcc 'i' 'l' 'o' 'c' then .iloc
  else if kind = fourcc 'i' 'r' 'e' 'f' then .iref
  else if kind = fourcc 'i' 'p' 'm' 'a' then .ipma
  else if kind = fourcc 's' 't' 's' 'd' then .stsd
  else if kind = fourcc 'd' 'r' 'e' 'f' then .dref
  else if kind = fourcc 'u' 'r' 'i' 'm' then .urim
  else if kind = fourcc 't' 'r' 'e' 'f' then .tref
  else if kind = fourcc 'f' 't' 'y' 'p' then .ftyp
  else if kind = fourcc 'c' 'o' 'l' 'r' then .colr
  else if kind = fourcc 'm' 'i' 'n' 'i' then .mini
  else if isContainer kind then .container
  else if isVisualSampleEntry kind then .visualSampleEntry
  else .other

/-! ## Reading -/

def read (slice : Slice) (offset length finish : Nat) : Except Error (List UInt8) := do
  let stop ← okOr (checkedAdd offset length) (.container "box offset overflow")
  rejectIf (finish < stop ∨ slice.length < stop) (.container "box is truncated")
  pure (slice.part offset length)

def advance (offset length finish : Nat) : Except Error Nat := do
  let stop ← okOr (checkedAdd offset length) (.container "box offset overflow")
  rejectIf (finish < stop) (.container "box is truncated")
  pure stop

/-- The integer of `width` bytes. -/
def readBigEndian (slice : Slice) (offset width finish : Nat) : Except Error Nat := do
  let bytes ← read slice offset width finish
  pure (ofBigEndian bytes)

def readU8 (slice : Slice) (offset finish : Nat) : Except Error Nat := readBigEndian slice offset 1 finish

def readU16 (slice : Slice) (offset finish : Nat) : Except Error Nat := readBigEndian slice offset 2 finish

def readU32 (slice : Slice) (offset finish : Nat) : Except Error Nat := readBigEndian slice offset 4 finish

def readUint (slice : Slice) (offset width finish : Nat) : Except Error Nat :=
  match width with
  | 0 => .ok 0
  | 4 => readU32 slice offset finish
  | 8 => do
    let high ← readU32 slice offset finish
    let low ← readU32 slice (offset + 4) finish
    pure (high * 2 ^ 32 + low)
  | _ => .error (.container "unsupported integer width")

def readFourcc (slice : Slice) (offset finish : Nat) : Except Error (List UInt8) :=
  read slice offset 4 finish

/-- A string and the offset after it.  Without a terminating zero the last byte of the box is
dropped. -/
def readCstring (slice : Slice) (offset finish : Nat) : Except Error (List UInt8 × Nat) := do
  rejectIf (finish < offset ∨ slice.length < finish) (.container "box is truncated")
  let rest := slice.part offset (finish - offset)
  match rest.findIdx? (· == 0) with
  | some length => pure (rest.take length, offset + length + 1)
  | none => pure (rest.dropLast, finish)

/-- The length of a box and of its header before the extended type. -/
def boxLengths (slice : Slice) (offset limit size : Nat) : Except Error (Nat × Nat) :=
  if size = 0 then .ok (limit - offset, 8)
  else if size = 1 then do
    let start ← okOr (checkedAdd offset 8) (.container "box offset overflow")
    let large ← read slice start 8 limit
    pure (ofBigEndian large, 16)
  else .ok (size, 8)

def readHeader (slice : Slice) (offset limit : Nat) : Except Error Header := do
  let header ← read slice offset 8 limit
  let kind := header.drop 4
  let (boxLength, headerLength) ← boxLengths slice offset limit (ofBigEndian (header.take 4))
  let headerLength := if kind = fourcc 'u' 'u' 'i' 'd' then headerLength + 16 else headerLength
  rejectIf (boxLength < headerLength) (.container "box is smaller than its header")
  let bodyStart ← okOr (checkedAdd offset headerLength) (.container "box offset overflow")
  let bodyEnd ← okOr (checkedAdd offset boxLength) (.container "box offset overflow")
  rejectIf (limit < bodyEnd) (.container "box extends past its parent")
  pure { kind, bodyStart, bodyEnd, next := bodyEnd }

/-- A box ends after it starts, so that every loop over boxes advances. -/
theorem readHeader_next {slice : Slice} {offset limit : Nat} {header : Header}
    (reads : readHeader slice offset limit = .ok header) : offset < header.next := by
  simp only [readHeader, bind_eq_ok, pure_eq_ok, okOr_eq_ok, rejectIf_eq_ok, exists_const,
    Prod.exists, checkedAdd_eq_some, Nat.not_lt] at reads
  obtain ⟨_, _, boxLength, headerLength, lengths, longer, _, _, bodyEnd, ⟨isEnd, _⟩, _, isHeader⟩ := reads
  have positive : 8 ≤ headerLength := by
    simp only [boxLengths] at lengths
    split at lengths
    next =>
      cases lengths
      exact Nat.le_refl 8
    next =>
      split at lengths
      next =>
        simp only [bind_eq_ok, pure_eq_ok] at lengths
        obtain ⟨_, _, _, _, same⟩ := lengths
        cases same
        decide
      next =>
        cases lengths
        exact Nat.le_refl 8
  rw [← isHeader]
  simp only
  split at longer <;> omega

/-! ## Counting -/

/-- Adds to a 32-bit counter and enforces its ceiling. -/
def countUp (total amount : Nat) (ceiling : UInt32) (what : String) : Except Error Nat :=
  if total + amount < 2 ^ 32 then
    if ceiling.toNat < total + amount then .error (.limit what) else .ok (total + amount)
  else .error (.limit what)

/-! ## Boxes without children -/

/-- The identifier, the type and the content type of an item. -/
def readInfe (slice : Slice) (header : Header) : Except Error (Nat × List UInt8 × List UInt8) := do
  let finish := header.bodyEnd
  let version ← readU8 slice header.bodyStart finish
  rejectIf (3 < version) (.container "unsupported item info version")
  let offset := header.bodyStart + 4
  if version ≤ 1 then do
    let id ← readU16 slice offset finish
    -- The protection index follows the identifier.
    let (_, offset) ← readCstring slice (offset + 2 + 2) finish
    let (contentType, offset) ← readCstring slice offset finish
    let _ ← readCstring slice offset finish
    pure (id, [0, 0, 0, 0], contentType)
  else do
    let width := if version = 2 then 2 else 4
    let id ← readBigEndian slice offset width finish
    let itemType ← readFourcc slice (offset + width + 2) finish
    let (_, offset) ← readCstring slice (offset + width + 2 + 4) finish
    let (contentType, offset) ← if itemType = mime then readCstring slice offset finish
      else pure ([], offset)
    let _ ← if itemType = fourcc 'u' 'r' 'i' ' ' then readCstring slice offset finish
      else pure ([], offset)
    pure (id, itemType, contentType)

def parseInfe (slice : Slice) (budget : Budget) (header : Header) (walk : Walk) : Except Error Walk := do
  let (id, itemType, contentType) ← readInfe slice header
  let items ← countUp walk.totals.items 1 budget.maxContainerItems "container item count"
  let walk := { walk with totals := { walk.totals with items := items } }
  if isImageItem itemType contentType ∧ itemType ≠ mime then pure walk
  else if id ∈ walk.metadataItems then pure walk
  else do
    rejectIf (budget.maxMetadataItems.toNat ≤ walk.metadataItems.length) (.limit "metadata item count")
    pure { walk with metadataItems := walk.metadataItems ++ [id] }

/-- The widths of the fields of a location record. -/
structure Fields where
  version : Nat
  offsetSize : Nat
  lengthSize : Nat
  baseOffsetSize : Nat
  indexSize : Nat
  deriving DecidableEq, Repr

/-- The extents of one record: the offset after them and the sum of their lengths. -/
def extentLoop (slice : Slice) (fields : Fields) (finish : Nat) :
    Nat → Nat → Nat → Except Error (Nat × Nat)
  | 0, offset, total => .ok (offset, total)
  | count + 1, offset, total => do
    let offset ← advance offset fields.indexSize finish
    let offset ← advance offset fields.offsetSize finish
    let length ← readUint slice offset fields.lengthSize finish
    let total ← okOr (checkedAdd total length) (.limit "item extent bytes")
    let offset ← advance offset fields.lengthSize finish
    extentLoop slice fields finish count offset total

def recordLoop (slice : Slice) (budget : Budget) (fields : Fields) (finish : Nat) :
    Nat → Nat → List Extent → Except Error (List Extent)
  | 0, _, extents => .ok extents
  | count + 1, offset, extents => do
    let width := if fields.version < 2 then 2 else 4
    let id ← readBigEndian slice offset width finish
    -- The construction method, if the version has one, and the data reference index.
    let offset := offset + width + (if 1 ≤ fields.version then 2 else 0) + 2
    let offset ← advance offset fields.baseOffsetSize finish
    let extentCount ← readU16 slice offset finish
    rejectIf (budget.maxItemExtents.toNat < extentCount) (.limit "item extent count")
    let (offset, total) ← extentLoop slice fields finish extentCount (offset + 2) 0
    recordLoop slice budget fields finish count offset (extents ++ [{ id := id, bytes := total }])

def readFields (slice : Slice) (header : Header) : Except Error Fields := do
  let version ← readU8 slice header.bodyStart header.bodyEnd
  rejectIf (2 < version) (.container "unsupported item location version")
  let widths ← readU16 slice (header.bodyStart + 4) header.bodyEnd
  let offsetSize := widths / 2 ^ 12 % 16
  let lengthSize := widths / 2 ^ 8 % 16
  let baseOffsetSize := widths / 2 ^ 4 % 16
  let indexSize := if 1 ≤ version then widths % 16 else 0
  rejectIf (∃ width ∈ [offsetSize, lengthSize, baseOffsetSize, indexSize], ¬ width ∈ [0, 4, 8])
    (.container "unsupported item location field width")
  pure { version, offsetSize, lengthSize, baseOffsetSize, indexSize }

def parseIloc (slice : Slice) (budget : Budget) (header : Header) (walk : Walk) : Except Error Walk := do
  let fields ← readFields slice header
  let width := if fields.version < 2 then 2 else 4
  let itemCount ← readBigEndian slice (header.bodyStart + 6) width header.bodyEnd
  let records ← countUp walk.totals.ilocRecords itemCount budget.maxContainerItems
    "item location record count"
  let extents ← recordLoop slice budget fields header.bodyEnd itemCount (header.bodyStart + 6 + width)
    walk.extents
  pure { walk with totals := { walk.totals with ilocRecords := records }, extents := extents }

/-- Reference lists that follow each other.  `check` looks at the start of a list before its header is
read, and `list` counts what it refers to. -/
def listLoop (slice : Slice) (check : Nat → Except Error Unit)
    (list : Header → Nat → Except Error Nat) (finish offset references : Nat) : Except Error Nat :=
  if offset < finish then
    match check offset with
    | .error error => .error error
    | .ok () =>
      match reads : readHeader slice offset finish with
      | .error error => .error error
      | .ok child =>
        match list child references with
        | .error error => .error error
        | .ok references => listLoop slice check list finish child.next references
  else .ok references
termination_by finish - offset
decreasing_by
  have advances := readHeader_next reads
  omega

/-- One reference list of an item reference box. -/
def irefList (slice : Slice) (budget : Budget) (idSize : Nat) (child : Header) (references : Nat) :
    Except Error Nat := do
  let count ← readU16 slice (child.bodyStart + idSize) child.bodyEnd
  rejectIf (count = 0) (.container "reference list is empty")
  let references ← countUp references count budget.maxContainerItems "reference count"
  let expected ← okOr (checkedAdd child.bodyStart (idSize + 2 + count * idSize)) (.limit "reference count")
  rejectIf (expected ≠ child.bodyEnd) (.container "reference list does not fill its box")
  pure references

def parseIref (slice : Slice) (budget : Budget) (header : Header) (walk : Walk) : Except Error Walk := do
  let prefixBytes ← read slice header.bodyStart 4 header.bodyEnd
  let version := (prefixBytes.headD 0).toNat
  rejectIf (1 < version) (.container "unsupported reference version")
  let idSize := if version = 0 then 2 else 4
  let references ← listLoop slice (fun _ => .ok ()) (irefList slice budget idSize) header.bodyEnd
    (header.bodyStart + 4) walk.totals.irefReferences
  pure { walk with totals := { walk.totals with irefReferences := references } }

/-- A track reference list must say its size. -/
def trefCheck (slice : Slice) (finish offset : Nat) : Except Error Unit := do
  let declared ← readU32 slice offset finish
  rejectIf (declared = 0) (.container "track reference list has an unspecified size")

/-- One reference list of a track reference box. -/
def trefList (budget : Budget) (child : Header) (references : Nat) : Except Error Nat := do
  let length := child.bodyEnd - child.bodyStart
  rejectIf (length < 4 ∨ length % 4 ≠ 0) (.container "track reference list has an invalid size")
  let count ← okOr (if length / 4 < 2 ^ 32 then some (length / 4) else none) (.limit "reference count")
  countUp references count budget.maxContainerItems "reference count"

def parseTref (slice : Slice) (budget : Budget) (header : Header) (walk : Walk) : Except Error Walk := do
  let references ← listLoop slice (trefCheck slice header.bodyEnd) (trefList budget) header.bodyEnd
    header.bodyStart walk.totals.irefReferences
  pure { walk with totals := { walk.totals with irefReferences := references } }

/-- The entries of a property association box. -/
def entryLoop (slice : Slice) (budget : Budget) (idSize width finish : Nat) :
    Nat → Nat → Nat → Except Error Nat
  | 0, _, associations => .ok associations
  | count + 1, offset, associations => do
    let offset ← advance offset idSize finish
    let declared ← readU8 slice offset finish
    let associations ← countUp associations declared budget.maxContainerAssociations
      "property association count"
    let offset ← advance (offset + 1) (declared * width) finish
    entryLoop slice budget idSize width finish count offset associations

def parseIpma (slice : Slice) (budget : Budget) (header : Header) (walk : Walk) : Except Error Walk := do
  let version ← readU8 slice header.bodyStart header.bodyEnd
  rejectIf (1 < version) (.container "unsupported property association version")
  let flags ← readU8 slice (header.bodyStart + 3) header.bodyEnd
  let entryCount ← readU32 slice (header.bodyStart + 4) header.bodyEnd
  let entries ← countUp walk.totals.ipmaEntries entryCount budget.maxContainerItems
    "property association count"
  let associations ← entryLoop slice budget (if version < 1 then 2 else 4)
    (if flags % 2 = 1 then 2 else 1) header.bodyEnd entryCount (header.bodyStart + 8)
    walk.totals.ipmaAssociations
  pure { walk with
    totals := { walk.totals with ipmaEntries := entries, ipmaAssociations := associations } }

/-- Whether a brand of the file type box is one of a sequence. -/
def readFtyp (slice : Slice) (header : Header) : Except Error Bool := do
  let body ← read slice header.bodyStart (header.bodyEnd - header.bodyStart) header.bodyEnd
  rejectIf (body.length < 8) (.container "file type box is truncated")
  pure (isSequenceBrand (body.take 4) ||
    (List.range ((body.length - 8) / 4)).any fun index =>
      isSequenceBrand ((body.drop (8 + index * 4)).take 4))

def parseFtyp (slice : Slice) (header : Header) (walk : Walk) : Except Error Walk := do
  let sequence ← readFtyp slice header
  pure { walk with sequenceBrand := sequence }

def readColr (slice : Slice) (header : Header) : Except Error Unit := do
  let body ← read slice header.bodyStart (header.bodyEnd - header.bodyStart) header.bodyEnd
  rejectIf (body.length < 4) (.container "colour information box is truncated")
  let profile := body.take 4
  rejectIf ((profile = fourcc 'p' 'r' 'o' 'f' ∨ profile = fourcc 'r' 'I' 'C' 'C') ∧ body.length = 4)
    (.container "embedded colour profile is empty")

def parseColr (slice : Slice) (header : Header) (walk : Walk) : Except Error Walk := do
  readColr slice header
  pure walk

/-! ## The walk -/

/-- `visit` is what is done with each box of the range. -/
def walkLoop (slice : Slice) (visit : Header → Walk → Except Error Walk) (finish offset : Nat)
    (walk : Walk) : Except Error Walk :=
  if offset < finish then
    match reads : readHeader slice offset finish with
    | .error error => .error error
    | .ok header =>
      match visit header walk with
      | .error error => .error error
      | .ok walk => walkLoop slice visit finish header.next walk
  else .ok walk
termination_by finish - offset
decreasing_by
  have advances := readHeader_next reads
  omega

def walkBoxes (slice : Slice) (visit : Header → Walk → Except Error Walk) (start finish : Nat)
    (walk : Walk) : Except Error Walk := do
  rejectIf (finish < start) (.container "box is truncated")
  walkLoop slice visit finish start walk

/-- The entries of an item information box, and how many they are. -/
def iinfLoop (slice : Slice) (visit : Header → Walk → Except Error Walk) (finish offset seen : Nat)
    (walk : Walk) : Except Error (Nat × Walk) :=
  if offset < finish then
    match reads : readHeader slice offset finish with
    | .error error => .error error
    | .ok child =>
      match visit child walk with
      | .error error => .error error
      | .ok walk =>
        if seen + 1 < 2 ^ 32 then iinfLoop slice visit finish child.next (seen + 1) walk
        else .error (.limit "container item count")
  else .ok (seen, walk)
termination_by finish - offset
decreasing_by
  have advances := readHeader_next reads
  omega

def parseIinf (slice : Slice) (visit : Header → Walk → Except Error Walk) (header : Header)
    (walk : Walk) : Except Error Walk := do
  let version ← readU8 slice header.bodyStart header.bodyEnd
  let width := if version = 0 then 2 else 4
  let declared ← readBigEndian slice (header.bodyStart + 4) width header.bodyEnd
  let (seen, walk) ← iinfLoop slice visit header.bodyEnd (header.bodyStart + 4 + width) 0 walk
  rejectIf (seen ≠ declared) (.container "item information count does not match its entries")
  pure walk

/-- The declared entries of a sample description box. -/
def stsdLoop (slice : Slice) (visit : Header → Walk → Except Error Walk) (finish : Nat) :
    Nat → Nat → Walk → Except Error Walk
  | 0, _, walk => .ok walk
  | count + 1, offset, walk => do
    rejectIf (finish ≤ offset) (.container "sample description is truncated")
    let child ← readHeader slice offset finish
    let walk ← visit child walk
    stsdLoop slice visit finish count child.next walk

def parseStsd (slice : Slice) (visit : Header → Walk → Except Error Walk) (header : Header)
    (walk : Walk) : Except Error Walk := do
  let version ← readU8 slice header.bodyStart header.bodyEnd
  rejectIf (version ≠ 0) (.container "unsupported sample description version")
  let count ← readU32 slice (header.bodyStart + 4) header.bodyEnd
  stsdLoop slice visit header.bodyEnd count (header.bodyStart + 8) walk

def visualSampleEntryPrefix : Nat := 78

def visualSampleEntryNameLength : Nat := 42

def walkVisualSampleEntry (slice : Slice) (visit : Header → Walk → Except Error Walk) (header : Header)
    (walk : Walk) : Except Error Walk := do
  let entry ← read slice header.bodyStart visualSampleEntryPrefix header.bodyEnd
  rejectIf (31 < (entry.getD visualSampleEntryNameLength 0).toNat)
    (.container "sample entry compressor name is too long")
  walkBoxes slice visit (header.bodyStart + visualSampleEntryPrefix) header.bodyEnd walk

/-- Dispatches one box by its type.  `levels` is how many levels the depth ceiling still allows. -/
def visit (slice : Slice) (budget : Budget) : Nat → Header → Walk → Except Error Walk
  | 0, _, _ => .error (.limit "box nesting depth")
  | levels + 1, header, walk => do
    let boxes ← countUp walk.boxes 1 budget.maxContainerBoxes "box count"
    let walk := { walk with boxes := boxes }
    match classify header.kind with
    | .metaBox =>
      walkBoxes slice (visit slice budget levels) (header.bodyStart + 4) header.bodyEnd
        { walk with sawMeta := true }
    | .iinf => parseIinf slice (visit slice budget levels) header walk
    | .infe => parseInfe slice budget header walk
    | .iloc => parseIloc slice budget header walk
    | .iref => parseIref slice budget header walk
    | .ipma => parseIpma slice budget header walk
    | .stsd => parseStsd slice (visit slice budget levels) header walk
    | .dref => walkBoxes slice (visit slice budget levels) (header.bodyStart + 8) header.bodyEnd walk
    | .urim => walkBoxes slice (visit slice budget levels) (header.bodyStart + 8) header.bodyEnd walk
    | .tref => parseTref slice budget header walk
    | .ftyp => parseFtyp slice header walk
    | .colr => parseColr slice header walk
    | .mini => pure { walk with sawMini := true }
    | .container => walkBoxes slice (visit slice budget levels) header.bodyStart header.bodyEnd walk
    | .visualSampleEntry => walkVisualSampleEntry slice (visit slice budget levels) header walk
    | .other => pure walk

/-- The walk over the whole file, the boxes of which have depth zero. -/
def walkFile (slice : Slice) (budget : Budget) : Except Error Walk :=
  walkBoxes slice (visit slice budget (budget.maxContainerDepth.toNat + 1)) 0 slice.length {}

/-- The largest record of each item that is loaded eagerly. -/
def checkMetadataBytes (budget : Budget) (walk : Walk) : Except Error Unit := do
  let total ← walk.metadataItems.foldlM (fun total id =>
    let largest := walk.extents.foldl
      (fun largest extent => if extent.id = id then max largest extent.bytes else largest) 0
    okOr (checkedAdd total largest) (.limit "metadata extent bytes")) 0
  rejectIf (budget.maxMetadataBytes.toNat < total) (.limit "metadata extent bytes")

def preflight (slice : Slice) (budget : Budget) : Except Error Unit := do
  let walk ← walkFile slice budget
  rejectIf (walk.sawMeta = false ∧ walk.sawMini = false ∧ walk.sequenceBrand = false)
    (.container "no metadata box")
  checkMetadataBytes budget walk

end Genkan.DynamicWallpaper.Container
