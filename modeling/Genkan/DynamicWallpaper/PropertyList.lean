import Genkan.DynamicWallpaper.Parsing

/-! # The preflight of a binary property list

The object graph is walked, and what it would expand to is charged, before a parser allocates it.
-/

namespace Genkan.DynamicWallpaper.Heic

open Foundations.Bytes

/-! ## Integers, ranges and charges -/

/-- One more byte of an integer; the shift drops what leaves the 64 bits. -/
def pushByte (value : Nat) (byte : UInt8) : Except Error Nat :=
  okOr (checkedAdd (value * 256 % 2 ^ 64) byte.toNat) (.metadata "property list integer overflow")

def readBe (slice : Slice) (start length : Nat) : Except Error Nat := do
  let finish ← okOr (checkedAdd start length) (.metadata "integer offset overflow")
  let part ← okOr (slice.get start finish) (.metadata "truncated property list integer")
  part.foldlM pushByte 0

def checkedRange (start length finish : Nat) : Except Error Unit :=
  match checkedAdd start length with
  | none => .error (.metadata "truncated property list object")
  | some value =>
    if finish < value then .error (.metadata "truncated property list object") else .ok ()

/-- The length of an object, and where its payload starts. -/
def objectLength (slice : Slice) (objectOffset info finish : Nat) : Except Error (Nat × Nat) :=
  if info < 15 then .ok (info, objectOffset + 1)
  else do
    checkedRange (objectOffset + 1) 1 finish
    let marker := (slice.byte (objectOffset + 1)).toNat
    rejectIf (marker / 16 ≠ 1 ∨ 3 < marker % 16) (.metadata "invalid extended object length")
    let width := 2 ^ (marker % 16)
    let length ← readBe slice (objectOffset + 2) width
    checkedRange (objectOffset + 2) width finish
    pure (length, objectOffset + 2 + width)

def chargeExpandedBytes (total amount : Nat) (limits : Limits) : Except Error Nat :=
  match checkedAdd total amount with
  | none => .error (.limit "expanded property list memory")
  | some total =>
    if limits.maxExpandedPlistBytes.toNat < total then .error (.limit "expanded property list memory")
    else .ok total

/-! ## The trailer and the offset table -/

/-- What the walk needs of the trailer. -/
structure ObjectTable where
  referenceSize : Nat
  objectCount : Nat
  root : Nat
  tableOffset : Nat
  offsets : List Nat
  deriving DecidableEq, Repr

/-- `bplist00`. -/
def plistMagic : List UInt8 := [98, 112, 108, 105, 115, 116, 48, 48]

def readOffset (slice : Slice) (tableOffset offsetSize index : Nat) : Except Error Nat := do
  let offset ← readBe slice (tableOffset + index * offsetSize) offsetSize
  rejectIf (¬ (8 ≤ offset ∧ offset < tableOffset)) (.metadata "invalid object offset")
  pure offset

def readTable (slice : Slice) (limits : Limits) : Except Error ObjectTable := do
  rejectIf (slice.length < 40 ∨ slice.part 0 8 ≠ plistMagic)
    (.metadata "property is not a binary property list")
  let trailer := slice.length - 32
  let offsetSize := (slice.byte (trailer + 6)).toNat
  let referenceSize := (slice.byte (trailer + 7)).toNat
  rejectIf (¬ (1 ≤ offsetSize ∧ offsetSize ≤ 8) ∨ ¬ (1 ≤ referenceSize ∧ referenceSize ≤ 8))
    (.metadata "invalid property list integer width")
  let objectCount ← readBe slice (trailer + 8) 8
  let root ← readBe slice (trailer + 16) 8
  let tableOffset ← readBe slice (trailer + 24) 8
  rejectIf (objectCount = 0 ∨ limits.maxPlistObjects.toNat < objectCount)
    (.limit "property list object count")
  rejectIf (objectCount ≤ root) (.metadata "invalid root object")
  let tableBytes ← okOr (checkedMul objectCount offsetSize) (.metadata "invalid offset table")
  rejectIf (tableOffset < 8 ∨ checkedAdd tableOffset tableBytes ≠ some trailer)
    (.metadata "invalid offset table")
  let offsets ← (List.range objectCount).mapM (readOffset slice tableOffset offsetSize)
  pure { referenceSize, objectCount, root, tableOffset, offsets }

/-! ## The walk -/

/-- The objects that a collection refers to. -/
def readReference (slice : Slice) (table : ObjectTable) (start index : Nat) : Except Error Nat := do
  let child ← readBe slice (start + index * table.referenceSize) table.referenceSize
  rejectIf (table.objectCount ≤ child) (.metadata "invalid object reference")
  pure child

/-- Data and strings; a UTF-16 unit takes two bytes and up to three as UTF-8. -/
def visitData (slice : Slice) (limits : Limits) (table : ObjectTable) (kind info offset : Nat)
    (expandedBytes : Nat) : Except Error Nat := do
  let (length, start) ← objectLength slice offset info table.tableOffset
  let size ← okOr (checkedMul length (if kind = 6 then 2 else 1)) (.metadata "invalid data object")
  checkedRange start size table.tableOffset
  let expandedSize ← okOr (if kind = 6 then checkedMul length 3 else some length)
    (.limit "expanded property list memory")
  chargeExpandedBytes expandedBytes expandedSize limits

/-- Arrays, sets and dictionaries.  `expanded` objects were visited, and `waiting` are on the stack. -/
def visitCollection (slice : Slice) (limits : Limits) (table : ObjectTable) (kind info offset : Nat)
    (expanded waiting expandedBytes : Nat) : Except Error (Nat × List Nat) := do
  let (length, start) ← objectLength slice offset info table.tableOffset
  let referenceCount ← okOr (if kind = 13 then checkedMul length 2 else some length)
    (.metadata "invalid dictionary")
  let size ← okOr (checkedMul referenceCount table.referenceSize) (.metadata "invalid reference list")
  checkedRange start size table.tableOffset
  let collectionBytes ← okOr (checkedMul referenceCount 16) (.limit "expanded property list memory")
  let expandedBytes ← chargeExpandedBytes expandedBytes collectionBytes limits
  let planned ← okOr ((checkedAdd expanded waiting).bind (checkedAdd · referenceCount))
    (.limit "expanded property list object count")
  rejectIf (limits.maxExpandedPlistObjects.toNat < planned)
    (.limit "expanded property list object count")
  let children ← (List.range referenceCount).mapM (readReference slice table start)
  pure (expandedBytes, children)

/-- The dispatch on the kind of an object: the new charge, and the objects that are pushed. -/
def visitPayload (slice : Slice) (limits : Limits) (table : ObjectTable) (kind info offset : Nat)
    (expanded waiting expandedBytes : Nat) : Except Error (Nat × List Nat) :=
  match kind with
  | 0x0 => do
    rejectIf (¬ (info = 0 ∨ info = 8 ∨ info = 9)) (.metadata "unsupported property list primitive")
    pure (expandedBytes, [])
  | 0x1 | 0x2 => do
    checkedRange (offset + 1) (2 ^ info) table.tableOffset
    pure (expandedBytes, [])
  | 0x3 => do
    rejectIf (info ≠ 3) (.metadata "invalid date object")
    checkedRange (offset + 1) 8 table.tableOffset
    pure (expandedBytes, [])
  | 0x4 | 0x5 | 0x6 => do
    let expandedBytes ← visitData slice limits table kind info offset expandedBytes
    pure (expandedBytes, [])
  | 0x8 => do
    checkedRange (offset + 1) (info + 1) table.tableOffset
    pure (expandedBytes, [])
  | 0xa | 0xc | 0xd =>
    visitCollection slice limits table kind info offset expanded waiting expandedBytes
  | _ => .error (.metadata "unsupported property list object")

/-- The body of the loop for an object that was taken off the stack. -/
def visitObject (slice : Slice) (limits : Limits) (table : ObjectTable) (reference depth : Nat)
    (expanded waiting expandedBytes : Nat) : Except Error (Nat × List Nat) := do
  let expandedBytes ← chargeExpandedBytes expandedBytes 64 limits
  rejectIf (limits.maxPlistDepth.toNat < depth) (.limit "property list nesting depth")
  let offset := table.offsets.getD reference 0
  let marker := (slice.byte offset).toNat
  visitPayload slice limits table (marker / 16) (marker % 16) offset expanded waiting expandedBytes

/-- The loop.  The last reference of a collection is on top of the stack. -/
def expandObjects (slice : Slice) (limits : Limits) (table : ObjectTable) (expanded expandedBytes : Nat)
    (stack : List (Nat × Nat)) : Except Error Unit :=
  match stack with
  | [] => .ok ()
  | (reference, depth) :: stack =>
    if limits.maxExpandedPlistObjects.toNat < expanded + 1 then
      .error (.limit "expanded property list object count")
    else
      match visitObject slice limits table reference depth (expanded + 1) stack.length expandedBytes with
      | .error error => .error error
      | .ok (expandedBytes, children) =>
        let stack := children.foldl (fun stack child => (child, depth + 1) :: stack) stack
        expandObjects slice limits table (expanded + 1) expandedBytes stack
termination_by limits.maxExpandedPlistObjects.toNat + 1 - expanded

def preflightBinaryPlist (slice : Slice) (limits : Limits) : Except Error Unit := do
  let table ← readTable slice limits
  expandObjects slice limits table 0 0 [(table.root, 1)]

end Genkan.DynamicWallpaper.Heic
