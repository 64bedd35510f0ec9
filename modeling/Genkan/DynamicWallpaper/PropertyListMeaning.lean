import Genkan.DynamicWallpaper.PropertyList
import Genkan.Foundations.Results
import Genkan.Foundations.Unfolding

/-! # What the preflight of a property list accepts

A list is accepted when its trailer is well formed and the graph of its objects unfolds from the root
into a tree that the limits allow.
-/

namespace Genkan.DynamicWallpaper.Heic

open Foundations.Bytes Foundations.Results Foundations.Unfolding

/-! ## The meaning of the bytes -/

def offsetSize (slice : Slice) : Nat := (slice.byte (slice.length - 32 + 6)).toNat

/-- The trailer and the offset table are well formed, and every object starts before the table. -/
structure TableAt (slice : Slice) (limits : Limits) (table : ObjectTable) : Prop where
  long : 40 ≤ slice.length
  magic : slice.part 0 8 = plistMagic
  offsetWidth : 1 ≤ offsetSize slice ∧ offsetSize slice ≤ 8
  isReferenceSize : table.referenceSize = (slice.byte (slice.length - 32 + 7)).toNat
  referenceWidth : 1 ≤ table.referenceSize ∧ table.referenceSize ≤ 8
  isObjectCount : table.objectCount = number slice (slice.length - 32 + 8) 8
  isRoot : table.root = number slice (slice.length - 32 + 16) 8
  isTableOffset : table.tableOffset = number slice (slice.length - 32 + 24) 8
  counted : 1 ≤ table.objectCount ∧ table.objectCount ≤ limits.maxPlistObjects.toNat
  rooted : table.root < table.objectCount
  placed : 8 ≤ table.tableOffset ∧
    table.tableOffset + table.objectCount * offsetSize slice = slice.length - 32
  isOffsets : table.offsets = (List.range table.objectCount).map fun index =>
    number slice (table.tableOffset + index * offsetSize slice) (offsetSize slice)
  inside : ∀ offset ∈ table.offsets, 8 ≤ offset ∧ offset < table.tableOffset

/-- The length of an object, in its marker or in an integer after it, and the start of its payload. -/
def LengthAt (slice : Slice) (finish offset info length start : Nat) : Prop :=
  if info < 15 then length = info ∧ start = offset + 1
  else
    let marker := (slice.byte (offset + 1)).toNat
    marker / 16 = 1 ∧ marker % 16 ≤ 3 ∧ offset + 2 + 2 ^ (marker % 16) ≤ finish ∧
      length = number slice (offset + 2) (2 ^ (marker % 16)) ∧ start = offset + 2 + 2 ^ (marker % 16)

/-- A list of references to objects that exist. -/
structure ReferencesAt (slice : Slice) (table : ObjectTable) (start count : Nat)
    (children : List Nat) : Prop where
  within : start + count * table.referenceSize ≤ table.tableOffset
  isChildren : children = (List.range count).map fun index =>
    number slice (start + index * table.referenceSize) table.referenceSize
  exist : ∀ child ∈ children, child < table.objectCount

/-- What an object of this kind holds, all of it before the offset table: the objects that it refers
to, and what its expansion is charged beyond the node itself. -/
def PayloadAt (slice : Slice) (table : ObjectTable) (kind info offset : Nat) (children : List Nat)
    (payload : Nat) : Prop :=
  match kind with
  | 0x0 => (info = 0 ∨ info = 8 ∨ info = 9) ∧ children = [] ∧ payload = 0
  | 0x1 | 0x2 => offset + 1 + 2 ^ info ≤ table.tableOffset ∧ children = [] ∧ payload = 0
  | 0x3 => (info = 3 ∧ offset + 1 + 8 ≤ table.tableOffset) ∧ children = [] ∧ payload = 0
  | 0x4 | 0x5 =>
    ∃ length start, LengthAt slice table.tableOffset offset info length start ∧
      start + length ≤ table.tableOffset ∧ children = [] ∧ payload = length
  | 0x6 =>
    ∃ length start, LengthAt slice table.tableOffset offset info length start ∧
      start + length * 2 ≤ table.tableOffset ∧ children = [] ∧ payload = length * 3
  | 0x8 => offset + 1 + (info + 1) ≤ table.tableOffset ∧ children = [] ∧ payload = 0
  | 0xa | 0xc =>
    ∃ length start, LengthAt slice table.tableOffset offset info length start ∧
      ReferencesAt slice table start length children ∧ payload = length * 16
  | 0xd =>
    ∃ length start, LengthAt slice table.tableOffset offset info length start ∧
      ReferencesAt slice table start (length * 2) children ∧ payload = length * 2 * 16
  | _ => False

/-- The graph of the objects.  A node costs 64 and its payload. -/
def objectGraph (slice : Slice) (table : ObjectTable) : Graph Nat := fun reference children cost =>
  let offset := table.offsets.getD reference 0
  let marker := (slice.byte offset).toNat
  ∃ payload, PayloadAt slice table (marker / 16) (marker % 16) offset children payload ∧
    cost = 64 + payload

/-! ## Integers and ranges -/

/-- Up to eight bytes no bit is lost. -/
theorem foldlM_pushByte (front rest : List UInt8) (short : (front ++ rest).length ≤ 8) :
    rest.foldlM pushByte (ofBigEndian front) = .ok (ofBigEndian (front ++ rest)) := by
  induction rest generalizing front with
  | nil =>
    rw [List.append_nil]
    rfl
  | cons byte rest inductionHypothesis =>
    have isShort : front.length ≤ 7 := by
      rw [List.length_append, List.length_cons] at short
      omega
    have small : ofBigEndian front < 2 ^ 56 := by
      have bound := ofBigEndian_lt front
      have width : 256 ^ front.length ≤ 256 ^ 7 := Nat.pow_le_pow_right (by decide) isShort
      have isWidth : 256 ^ 7 = 2 ^ 56 := by decide
      omega
    have within := byte.toNat_lt
    have kept : ofBigEndian front * 256 % 2 ^ 64 = ofBigEndian front * 256 := by
      apply Nat.mod_eq_of_lt
      omega
    have pushed : pushByte (ofBigEndian front) byte = .ok (ofBigEndian (front ++ [byte])) := by
      rw [pushByte, okOr_eq_ok, checkedAdd_eq_some, kept, ofBigEndian_append_singleton]
      refine ⟨rfl, ?_⟩
      have isLimit : usizeLimit = 2 ^ 64 := rfl
      omega
    have isSame : front ++ byte :: rest = front ++ [byte] ++ rest := by simp
    rw [List.foldlM_cons, pushed]
    rw [isSame] at short ⊢
    exact inductionHypothesis _ short

theorem readBe_eq_ok {slice : Slice} {start length value : Nat} (narrow : length ≤ 8) :
    readBe slice start length = .ok value ↔
      start + length ≤ slice.length ∧ value = number slice start length := by
  have short : ([] ++ slice.part start length).length ≤ 8 := by
    rw [List.nil_append, Slice.part, List.length_take]
    omega
  have whole := foldlM_pushByte [] (slice.part start length) short
  have limit := Slice.length_lt slice
  simp only [readBe, bind_eq_ok, okOr_eq_ok, checkedAdd_eq_some]
  constructor
  · intro reads
    obtain ⟨finish, ⟨isFinish, _⟩, part, isPart, folds⟩ := reads
    subst isFinish
    rw [Slice.get] at isPart
    split at isPart
    next within =>
      rw [Nat.add_sub_cancel_left] at isPart
      cases isPart
      exact ⟨within.2, (Except.ok.inj (whole.symm.trans folds)).symm⟩
    next => contradiction
  · intro placed
    obtain ⟨within, isValue⟩ := placed
    refine ⟨start + length, ⟨rfl, Nat.lt_of_le_of_lt within limit⟩, slice.part start length, ?_, ?_⟩
    · rw [Slice.get, if_pos ⟨Nat.le_add_right _ _, within⟩, Nat.add_sub_cancel_left]
    · rw [isValue]
      exact whole

theorem checkedRange_eq_ok {start length finish : Nat} (bound : finish < usizeLimit) :
    checkedRange start length finish = .ok () ↔ start + length ≤ finish := by
  rw [checkedRange]
  cases sum : checkedAdd start length with
  | none =>
    have overflows : ¬ start + length < usizeLimit := by
      intro fits
      rw [checkedAdd, if_pos fits] at sum
      contradiction
    simp only [reduceCtorEq, false_iff]
    omega
  | some value =>
    obtain ⟨isValue, _⟩ := checkedAdd_eq_some.mp sum
    simp only
    split
    next exceeds =>
      simp only [reduceCtorEq, false_iff]
      omega
    next fits =>
      simp only [true_iff]
      omega

theorem chargeExpandedBytes_eq_ok {total amount charged : Nat} {limits : Limits} :
    chargeExpandedBytes total amount limits = .ok charged ↔
      charged = total + amount ∧ total + amount ≤ limits.maxExpandedPlistBytes.toNat := by
  have limit := limits.maxExpandedPlistBytes.toNat_lt
  have isLimit : usizeLimit = 2 ^ 64 := rfl
  rw [chargeExpandedBytes]
  cases sum : checkedAdd total amount with
  | none =>
    have overflows : ¬ total + amount < usizeLimit := by
      intro fits
      rw [checkedAdd, if_pos fits] at sum
      contradiction
    simp only [reduceCtorEq, false_iff]
    omega
  | some value =>
    obtain ⟨isValue, _⟩ := checkedAdd_eq_some.mp sum
    simp only
    split
    next exceeds =>
      simp only [reduceCtorEq, false_iff]
      omega
    next fits =>
      rw [Except.ok.injEq]
      omega

theorem objectLength_eq_ok {slice : Slice} {offset info finish length start : Nat}
    (bound : finish ≤ slice.length) :
    objectLength slice offset info finish = .ok (length, start) ↔
      LengthAt slice finish offset info length start := by
  have limit : finish < usizeLimit := Nat.lt_of_le_of_lt bound (Slice.length_lt slice)
  rw [objectLength, LengthAt]
  split
  next =>
    rw [Except.ok.injEq, Prod.mk.injEq]
    exact ⟨fun same => ⟨same.1.symm, same.2.symm⟩, fun same => ⟨same.1.symm, same.2.symm⟩⟩
  next =>
    simp only
    generalize (slice.byte (offset + 1)).toNat = marker
    simp only [bind_eq_ok, pure_eq_ok, checkedRange_eq_ok limit, rejectIf_eq_ok, exists_const,
      Prod.mk.injEq, not_or, not_not, Nat.not_lt]
    constructor
    · intro reads
      obtain ⟨_, ⟨isInteger, narrow⟩, value, isValue, within, isLength, isStart⟩ := reads
      obtain ⟨_, valueIs⟩ := (readBe_eq_ok (Nat.pow_le_pow_right (by decide) narrow)).mp isValue
      exact ⟨isInteger, narrow, within, isLength.symm.trans valueIs, isStart.symm⟩
    · intro placed
      obtain ⟨isInteger, narrow, within, isLength, isStart⟩ := placed
      have wide : 1 ≤ 2 ^ (marker % 16) := Nat.one_le_two_pow
      refine ⟨by omega, ⟨isInteger, narrow⟩, length, ?_, within, rfl, isStart.symm⟩
      exact (readBe_eq_ok (Nat.pow_le_pow_right (by decide) narrow)).mpr ⟨by omega, isLength⟩

/-! ## The trailer -/

theorem readOffset_eq_ok {slice : Slice} {tableOffset size index offset : Nat} (narrow : size ≤ 8)
    (within : tableOffset + index * size + size ≤ slice.length) :
    readOffset slice tableOffset size index = .ok offset ↔
      (8 ≤ number slice (tableOffset + index * size) size ∧
        number slice (tableOffset + index * size) size < tableOffset) ∧
      offset = number slice (tableOffset + index * size) size := by
  simp only [readOffset, bind_eq_ok, pure_eq_ok, rejectIf_eq_ok, exists_const, not_not,
    readBe_eq_ok narrow]
  constructor
  · intro reads
    obtain ⟨value, ⟨_, isValue⟩, inside, isOffset⟩ := reads
    rw [← isValue]
    exact ⟨inside, isOffset.symm⟩
  · intro placed
    exact ⟨_, ⟨within, rfl⟩, placed.1, placed.2.symm⟩

/-- The index of an entry keeps its bytes within the table. -/
theorem entry_within {index count : Nat} (size : Nat) (member : index ∈ List.range count) :
    index * size + size ≤ count * size := by
  have before : index + 1 ≤ count := List.mem_range.mp member
  rw [← Nat.succ_mul]
  exact Nat.mul_le_mul_right size before

theorem readOffsets_eq_ok {slice : Slice} {tableOffset size count : Nat} {offsets : List Nat}
    (narrow : size ≤ 8) (within : tableOffset + count * size ≤ slice.length) :
    (List.range count).mapM (readOffset slice tableOffset size) = .ok offsets ↔
      offsets = (List.range count).map (fun index => number slice (tableOffset + index * size) size) ∧
      ∀ offset ∈ offsets, 8 ≤ offset ∧ offset < tableOffset := by
  rw [mapM_eq_ok fun index member offset => readOffset_eq_ok narrow
    (Nat.le_trans (by rw [Nat.add_assoc]; exact Nat.add_le_add_left (entry_within _ member) _) within)]
  constructor
  · intro reads
    obtain ⟨inside, isOffsets⟩ := reads
    refine ⟨isOffsets, ?_⟩
    rw [isOffsets]
    exact List.forall_mem_map.mpr inside
  · intro placed
    obtain ⟨isOffsets, inside⟩ := placed
    rw [isOffsets] at inside
    exact ⟨List.forall_mem_map.mp inside, isOffsets⟩

theorem readTable_eq_ok {slice : Slice} {limits : Limits} {table : ObjectTable} :
    readTable slice limits = .ok table ↔ TableAt slice limits table := by
  have limit := Slice.length_lt slice
  have isSize : (slice.byte (slice.length - 32 + 6)).toNat = offsetSize slice := rfl
  simp only [readTable, bind_eq_ok, pure_eq_ok, okOr_eq_ok, checkedMul_eq_some, rejectIf_eq_ok,
    exists_const, not_or, not_not, Nat.not_lt, Nat.not_le, ne_eq, isSize]
  constructor
  · intro reads
    obtain ⟨⟨long, magic⟩, ⟨offsetWidth, referenceWidth⟩, count, readsCount, root, readsRoot, tableOffset,
      readsTableOffset, ⟨positive, counted⟩, rooted, tableBytes, ⟨isTableBytes, _⟩, ⟨placed, fills⟩,
      offsets, readsOffsets, isTable⟩ := reads
    obtain ⟨_, isCount⟩ := (readBe_eq_ok (by decide)).mp readsCount
    obtain ⟨_, isRoot⟩ := (readBe_eq_ok (by decide)).mp readsRoot
    obtain ⟨_, isTableOffset⟩ := (readBe_eq_ok (by decide)).mp readsTableOffset
    obtain ⟨isEnd, _⟩ := checkedAdd_eq_some.mp fills
    rw [← isTableBytes] at isEnd
    have within : tableOffset + count * offsetSize slice ≤ slice.length := by omega
    obtain ⟨isOffsets, inside⟩ := (readOffsets_eq_ok offsetWidth.2 within).mp readsOffsets
    subst isTable
    exact {
      long := long
      magic := magic
      offsetWidth := offsetWidth
      isReferenceSize := rfl
      referenceWidth := referenceWidth
      isObjectCount := isCount
      isRoot := isRoot
      isTableOffset := isTableOffset
      counted := ⟨Nat.one_le_iff_ne_zero.mpr positive, counted⟩
      rooted := rooted
      placed := ⟨placed, isEnd⟩
      isOffsets := isOffsets
      inside := inside }
  · intro whole
    have long := whole.long
    obtain ⟨placed, isEnd⟩ := whole.placed
    have counted := whole.counted
    have referenceWidth := whole.referenceWidth
    rw [whole.isReferenceSize] at referenceWidth
    refine ⟨⟨long, whole.magic⟩, ⟨whole.offsetWidth, referenceWidth⟩, table.objectCount, ?_, table.root,
      ?_, table.tableOffset, ?_, ⟨by omega, counted.2⟩, whole.rooted, _, ⟨rfl, ?_⟩, ⟨placed, ?_⟩,
      table.offsets, ?_, ?_⟩
    · exact (readBe_eq_ok (by decide)).mpr ⟨by omega, whole.isObjectCount⟩
    · exact (readBe_eq_ok (by decide)).mpr ⟨by omega, whole.isRoot⟩
    · exact (readBe_eq_ok (by decide)).mpr ⟨by omega, whole.isTableOffset⟩
    · omega
    · exact checkedAdd_eq_some.mpr ⟨isEnd, by omega⟩
    · exact (readOffsets_eq_ok whole.offsetWidth.2 (by omega)).mpr ⟨whole.isOffsets, whole.inside⟩
    · rw [← whole.isReferenceSize]

theorem TableAt.tableOffset_le {slice : Slice} {limits : Limits} {table : ObjectTable}
    (whole : TableAt slice limits table) : table.tableOffset ≤ slice.length := by
  have isEnd := whole.placed.2
  omega

/-! ## One object -/

section

variable {slice : Slice} {limits : Limits} {table : ObjectTable}

theorem readReferences_eq_ok {start count : Nat} {children : List Nat} (whole : TableAt slice limits table)
    (within : start + count * table.referenceSize ≤ table.tableOffset) :
    (List.range count).mapM (readReference slice table start) = .ok children ↔
      ReferencesAt slice table start count children := by
  have narrow := whole.referenceWidth.2
  have bound := whole.tableOffset_le
  have each : ∀ index ∈ List.range count, ∀ child, readReference slice table start index = .ok child ↔
      number slice (start + index * table.referenceSize) table.referenceSize < table.objectCount ∧
        child = number slice (start + index * table.referenceSize) table.referenceSize := by
    intro index member child
    have entry := entry_within table.referenceSize member
    simp only [readReference, bind_eq_ok, pure_eq_ok, rejectIf_eq_ok, exists_const, Nat.not_le,
      readBe_eq_ok narrow]
    constructor
    · intro reads
      obtain ⟨value, ⟨_, isValue⟩, exist, isChild⟩ := reads
      rw [← isValue]
      exact ⟨exist, isChild.symm⟩
    · intro placed
      exact ⟨_, ⟨by omega, rfl⟩, placed.1, placed.2.symm⟩
  rw [mapM_eq_ok each]
  constructor
  · intro reads
    obtain ⟨exist, isChildren⟩ := reads
    refine { within := within, isChildren := isChildren, exist := ?_ }
    rw [isChildren]
    exact List.forall_mem_map.mpr exist
  · intro references
    have exist := references.exist
    rw [references.isChildren] at exist
    exact ⟨List.forall_mem_map.mp exist, references.isChildren⟩

theorem visitData_eq_ok {kind info offset spent charged : Nat} (whole : TableAt slice limits table) :
    visitData slice limits table kind info offset spent = .ok charged ↔
      ∃ length start, LengthAt slice table.tableOffset offset info length start ∧
        start + length * (if kind = 6 then 2 else 1) ≤ table.tableOffset ∧
        charged = spent + length * (if kind = 6 then 3 else 1) ∧
        charged ≤ limits.maxExpandedPlistBytes.toNat := by
  have bound := whole.tableOffset_le
  have limit := Slice.length_lt slice
  have memory := limits.maxExpandedPlistBytes.toNat_lt
  have isLimit : usizeLimit = 2 ^ 64 := rfl
  have finish : table.tableOffset < usizeLimit := Nat.lt_of_le_of_lt bound limit
  simp only [visitData, bind_eq_ok, okOr_eq_ok, checkedMul_eq_some, checkedRange_eq_ok finish,
    chargeExpandedBytes_eq_ok, exists_const, Prod.exists, objectLength_eq_ok bound]
  by_cases wide : kind = 6
  · simp only [wide, if_true, checkedMul_eq_some]
    constructor
    · intro visits
      obtain ⟨length, start, isLength, _, ⟨isSize, _⟩, within, _, ⟨isCost, _⟩, isCharged, paid⟩ := visits
      exact ⟨length, start, isLength, by omega, by omega, by omega⟩
    · intro meaning
      obtain ⟨length, start, isLength, within, isCharged, paid⟩ := meaning
      exact ⟨length, start, isLength, _, ⟨rfl, by omega⟩, within, _, ⟨rfl, by omega⟩, isCharged,
        by omega⟩
  · simp only [wide, if_false, Nat.mul_one, Option.some.injEq]
    constructor
    · intro visits
      obtain ⟨length, start, isLength, _, ⟨isSize, _⟩, within, _, isCost, isCharged, paid⟩ := visits
      exact ⟨length, start, isLength, by omega, by omega, by omega⟩
    · intro meaning
      obtain ⟨length, start, isLength, within, isCharged, paid⟩ := meaning
      exact ⟨length, start, isLength, _, ⟨rfl, by omega⟩, within, _, rfl, isCharged, by omega⟩

theorem ReferencesAt.children_length {start count : Nat} {children : List Nat}
    (references : ReferencesAt slice table start count children) : children.length = count := by
  rw [references.isChildren, List.length_map, List.length_range]

/-- A dictionary refers to its keys and to its values. -/
theorem referenceCount_eq_some {kind length count : Nat} :
    (if kind = 13 then checkedMul length 2 else some length) = some count ↔
      count = (if kind = 13 then length * 2 else length) ∧ (kind = 13 → length * 2 < usizeLimit) := by
  split
  next isDictionary =>
    rw [checkedMul_eq_some]
    exact ⟨fun product => ⟨product.1.symm, fun _ => product.2⟩,
      fun product => ⟨product.1.symm, product.2 isDictionary⟩⟩
  next isOther =>
    rw [Option.some.injEq]
    exact ⟨fun same => ⟨same.symm, fun isDictionary => absurd isDictionary isOther⟩,
      fun same => same.1.symm⟩

theorem visitCollection_eq_ok {kind info offset expanded waiting spent charged : Nat}
    {children : List Nat} (whole : TableAt slice limits table) :
    visitCollection slice limits table kind info offset expanded waiting spent =
        .ok (charged, children) ↔
      ∃ length start, LengthAt slice table.tableOffset offset info length start ∧
        ReferencesAt slice table start (if kind = 13 then length * 2 else length) children ∧
        charged = spent + (if kind = 13 then length * 2 else length) * 16 ∧
        charged ≤ limits.maxExpandedPlistBytes.toNat ∧
        expanded + waiting + children.length ≤ limits.maxExpandedPlistObjects.toNat := by
  have bound := whole.tableOffset_le
  have limit := Slice.length_lt slice
  have memory := limits.maxExpandedPlistBytes.toNat_lt
  have objects := limits.maxExpandedPlistObjects.toNat_lt
  have isLimit : usizeLimit = 2 ^ 64 := rfl
  have finish : table.tableOffset < usizeLimit := Nat.lt_of_le_of_lt bound limit
  simp only [visitCollection, bind_eq_ok, pure_eq_ok, okOr_eq_ok, checkedMul_eq_some,
    checkedRange_eq_ok finish, chargeExpandedBytes_eq_ok, exists_const, Prod.exists,
    objectLength_eq_ok bound, rejectIf_eq_ok, Option.bind_eq_some_iff, checkedAdd_eq_some, Nat.not_lt,
    Prod.mk.injEq, referenceCount_eq_some]
  constructor
  · intro visits
    obtain ⟨length, start, isLength, count, ⟨isCount, _⟩, _, ⟨isSize, _⟩, within, _, ⟨isCost, _⟩, _,
      ⟨isSpent, paid⟩, _, ⟨_, ⟨isVisited, _⟩, isPlanned, _⟩, planned, _, readsChildren, isCharged,
      isChildren⟩ := visits
    subst isSize isChildren
    have references := (readReferences_eq_ok whole within).mp readsChildren
    have counted := references.children_length
    rw [isCount] at references
    refine ⟨length, start, isLength, references, ?_, ?_, ?_⟩
    · rw [← isCount]
      omega
    · omega
    · omega
  · intro meaning
    obtain ⟨length, start, isLength, references, isCharged, paid, planned⟩ := meaning
    have counted := references.children_length
    generalize isCount : (if kind = 13 then length * 2 else length) = count at references isCharged counted
    have within := references.within
    have atLeast : count ≤ count * table.referenceSize :=
      Nat.le_mul_of_pos_right count whole.referenceWidth.1
    have doubled : kind = 13 → length * 2 < usizeLimit := by
      intro isDictionary
      rw [if_pos isDictionary] at isCount
      omega
    exact ⟨length, start, isLength, count, ⟨isCount.symm, doubled⟩, _, ⟨rfl, by omega⟩, within, _,
      ⟨rfl, by omega⟩, _, ⟨rfl, by omega⟩, _, ⟨_, ⟨rfl, by omega⟩, rfl, by omega⟩, by omega, children,
      (readReferences_eq_ok whole within).mpr references, isCharged.symm, rfl⟩

/-- What holds after an object with this payload and these children. -/
def Charged (limits : Limits) (expanded waiting spent charged : Nat) (children : List Nat)
    (payload : Nat) : Prop :=
  charged = spent + payload ∧ charged ≤ limits.maxExpandedPlistBytes.toNat ∧
    expanded + waiting + children.length ≤ limits.maxExpandedPlistObjects.toNat

section

variable {kind info offset expanded waiting spent charged : Nat} {children : List Nat}

/-- An object without a payload charges nothing more. -/
theorem leaf_charged {valid : Prop} (paid : spent ≤ limits.maxExpandedPlistBytes.toNat)
    (planned : expanded + waiting ≤ limits.maxExpandedPlistObjects.toNat) :
    (valid ∧ (spent, []) = (charged, children)) ↔
      ∃ payload, (valid ∧ children = [] ∧ payload = 0) ∧
        Charged limits expanded waiting spent charged children payload := by
  constructor
  · intro accepted
    obtain ⟨isValid, same⟩ := accepted
    cases same
    exact ⟨0, ⟨isValid, rfl, rfl⟩, rfl, paid, planned⟩
  · intro accepted
    obtain ⟨_, ⟨isValid, isNil, isZero⟩, isCharged, _, _⟩ := accepted
    subst isNil isZero isCharged
    exact ⟨isValid, rfl⟩

theorem data_charged (kind unit factor : Nat) (whole : TableAt slice limits table)
    (planned : expanded + waiting ≤ limits.maxExpandedPlistObjects.toNat)
    (isUnit : (if kind = 6 then 2 else 1) = unit) (isFactor : (if kind = 6 then 3 else 1) = factor) :
    (∃ total, visitData slice limits table kind info offset spent = .ok total ∧
        (total, []) = (charged, children)) ↔
      ∃ payload, (∃ length start, LengthAt slice table.tableOffset offset info length start ∧
        start + length * unit ≤ table.tableOffset ∧ children = [] ∧ payload = length * factor) ∧
        Charged limits expanded waiting spent charged children payload := by
  simp only [visitData_eq_ok whole, isUnit, isFactor]
  constructor
  · intro accepted
    obtain ⟨total, ⟨length, start, isLength, within, isTotal, paid⟩, same⟩ := accepted
    cases same
    exact ⟨_, ⟨length, start, isLength, within, rfl, rfl⟩, isTotal, paid, planned⟩
  · intro accepted
    obtain ⟨_, ⟨length, start, isLength, within, isNil, isPayload⟩, isCharged, paid, _⟩ := accepted
    subst isNil isPayload
    exact ⟨charged, ⟨length, start, isLength, within, isCharged, paid⟩, rfl⟩

theorem collection_charged {count : Nat → Nat} (whole : TableAt slice limits table)
    (isCount : ∀ length, (if kind = 13 then length * 2 else length) = count length) :
    visitCollection slice limits table kind info offset expanded waiting spent =
        .ok (charged, children) ↔
      ∃ payload, (∃ length start, LengthAt slice table.tableOffset offset info length start ∧
        ReferencesAt slice table start (count length) children ∧ payload = count length * 16) ∧
        Charged limits expanded waiting spent charged children payload := by
  simp only [visitCollection_eq_ok whole, isCount]
  constructor
  · intro accepted
    obtain ⟨length, start, isLength, references, isCharged, bounds⟩ := accepted
    exact ⟨_, ⟨length, start, isLength, references, rfl⟩, isCharged, bounds⟩
  · intro accepted
    obtain ⟨_, ⟨length, start, isLength, references, isPayload⟩, isCharged, bounds⟩ := accepted
    subst isPayload
    exact ⟨length, start, isLength, references, isCharged, bounds⟩

/-- Where the charge and the stack were within their limits before, an object is accepted exactly if
it is well formed and its payload and its children stay within the limits. -/
theorem visitPayload_eq_ok (whole : TableAt slice limits table)
    (paid : spent ≤ limits.maxExpandedPlistBytes.toNat)
    (planned : expanded + waiting ≤ limits.maxExpandedPlistObjects.toNat) :
    visitPayload slice limits table kind info offset expanded waiting spent = .ok (charged, children) ↔
      ∃ payload, PayloadAt slice table kind info offset children payload ∧
        Charged limits expanded waiting spent charged children payload := by
  have finish : table.tableOffset < usizeLimit :=
    Nat.lt_of_le_of_lt whole.tableOffset_le (Slice.length_lt slice)
  unfold visitPayload
  split
  case h_1 =>
    simp only [PayloadAt, bind_eq_ok, pure_eq_ok, rejectIf_eq_ok, exists_const, not_not]
    exact leaf_charged paid planned
  case h_2 | h_3 =>
    simp only [PayloadAt, bind_eq_ok, pure_eq_ok, checkedRange_eq_ok finish, exists_const]
    exact leaf_charged paid planned
  case h_4 =>
    simp only [PayloadAt, bind_eq_ok, pure_eq_ok, rejectIf_eq_ok, checkedRange_eq_ok finish, exists_const,
      ne_eq, not_not]
    rw [← and_assoc]
    exact leaf_charged paid planned
  case h_5 =>
    simp only [PayloadAt, bind_eq_ok, pure_eq_ok]
    simpa only [Nat.mul_one] using data_charged 4 1 1 whole planned rfl rfl
  case h_6 =>
    simp only [PayloadAt, bind_eq_ok, pure_eq_ok]
    simpa only [Nat.mul_one] using data_charged 5 1 1 whole planned rfl rfl
  case h_7 =>
    simp only [PayloadAt, bind_eq_ok, pure_eq_ok]
    exact data_charged 6 2 3 whole planned rfl rfl
  case h_8 =>
    simp only [PayloadAt, bind_eq_ok, pure_eq_ok, checkedRange_eq_ok finish, exists_const]
    exact leaf_charged paid planned
  case h_9 | h_10 => exact collection_charged whole (fun _ => rfl)
  case h_11 => exact collection_charged whole (fun _ => rfl)
  case h_12 =>
    constructor
    · intro accepted
      contradiction
    · intro accepted
      obtain ⟨_, payloadAt, _⟩ := accepted
      unfold PayloadAt at payloadAt
      split at payloadAt <;> contradiction

theorem visitObject_eq_ok {reference depth : Nat} (whole : TableAt slice limits table)
    (planned : expanded + waiting ≤ limits.maxExpandedPlistObjects.toNat) :
    visitObject slice limits table reference depth expanded waiting spent = .ok (charged, children) ↔
      depth ≤ limits.maxPlistDepth.toNat ∧ ∃ cost, objectGraph slice table reference children cost ∧
        Charged limits expanded waiting spent charged children cost := by
  simp only [visitObject, bind_eq_ok, chargeExpandedBytes_eq_ok, rejectIf_eq_ok, exists_const,
    Nat.not_lt, objectGraph]
  constructor
  · intro visits
    obtain ⟨base, ⟨isBase, basePaid⟩, shallow, visits⟩ := visits
    subst isBase
    obtain ⟨payload, payloadAt, isCharged, bounds⟩ := (visitPayload_eq_ok whole basePaid planned).mp visits
    exact ⟨shallow, _, ⟨payload, payloadAt, rfl⟩, by rw [isCharged, Nat.add_assoc], bounds⟩
  · intro meaning
    obtain ⟨shallow, cost, ⟨payload, payloadAt, isCost⟩, isCharged, paid, bounds⟩ := meaning
    subst isCost
    have basePaid : spent + 64 ≤ limits.maxExpandedPlistBytes.toNat := by omega
    refine ⟨spent + 64, ⟨rfl, basePaid⟩, shallow, ?_⟩
    exact (visitPayload_eq_ok whole basePaid planned).mpr
      ⟨payload, payloadAt, by rw [isCharged, Nat.add_assoc], paid, bounds⟩

end

/-! ## The walk -/

theorem lengthAt_functional {finish offset info length start lengthToo startToo : Nat}
    (isLength : LengthAt slice finish offset info length start)
    (isLengthToo : LengthAt slice finish offset info lengthToo startToo) :
    length = lengthToo ∧ start = startToo := by
  simp only [LengthAt] at isLength isLengthToo
  split at isLength
  next short =>
    rw [if_pos short] at isLengthToo
    omega
  next long =>
    rw [if_neg long] at isLengthToo
    obtain ⟨_, _, _, isValue, isStart⟩ := isLength
    obtain ⟨_, _, _, isValueToo, isStartToo⟩ := isLengthToo
    exact ⟨isValue.trans isValueToo.symm, isStart.trans isStartToo.symm⟩

theorem payloadAt_functional {kind info offset payload payloadToo : Nat} {children childrenToo : List Nat}
    (payloadAt : PayloadAt slice table kind info offset children payload)
    (payloadAtToo : PayloadAt slice table kind info offset childrenToo payloadToo) :
    children = childrenToo ∧ payload = payloadToo := by
  unfold PayloadAt at payloadAt payloadAtToo
  split at payloadAt
  case h_12 => exact payloadAt.elim
  case h_5 | h_6 | h_7 =>
    obtain ⟨length, start, isLength, _, isNil, isPayload⟩ := payloadAt
    obtain ⟨lengthToo, startToo, isLengthToo, _, isNilToo, isPayloadToo⟩ := payloadAtToo
    obtain ⟨sameLength, _⟩ := lengthAt_functional isLength isLengthToo
    exact ⟨isNil.trans isNilToo.symm, by omega⟩
  case h_9 | h_10 | h_11 =>
    obtain ⟨length, start, isLength, references, isPayload⟩ := payloadAt
    obtain ⟨lengthToo, startToo, isLengthToo, referencesToo, isPayloadToo⟩ := payloadAtToo
    obtain ⟨sameLength, sameStart⟩ := lengthAt_functional isLength isLengthToo
    subst sameLength sameStart
    exact ⟨references.isChildren.trans referencesToo.isChildren.symm, by omega⟩
  all_goals exact ⟨payloadAt.2.1.trans payloadAtToo.2.1.symm, payloadAt.2.2.trans payloadAtToo.2.2.symm⟩

theorem objectGraph_functional (slice : Slice) (table : ObjectTable) :
    Functional (objectGraph slice table) := by
  intro reference children childrenToo cost costToo object objectToo
  obtain ⟨payload, payloadAt, isCost⟩ := object
  obtain ⟨payloadToo, payloadAtToo, isCostToo⟩ := objectToo
  obtain ⟨sameChildren, samePayload⟩ := payloadAt_functional payloadAt payloadAtToo
  exact ⟨sameChildren, by omega⟩

def Limits.budget (limits : Limits) : Budget where
  size := limits.maxExpandedPlistObjects.toNat
  height := limits.maxPlistDepth.toNat
  cost := limits.maxExpandedPlistBytes.toNat

/-- The references of a collection end up on the stack, the last one on top. -/
theorem push_eq (children : List Nat) (depth : Nat) (stack : List (Nat × Nat)) :
    (children.foldl (fun stack child => (child, depth) :: stack) stack).Perm
      ((children.map fun child => (child, depth)) ++ stack) := by
  induction children generalizing stack with
  | nil => exact List.Perm.refl _
  | cons child children inductionHypothesis =>
    rw [List.foldl_cons, List.map_cons, List.cons_append]
    exact (inductionHypothesis _).trans List.perm_middle

theorem expandObjects_eq_ok {expanded spent : Nat} {stack : List (Nat × Nat)}
    (whole : TableAt slice limits table) (paid : spent ≤ limits.maxExpandedPlistBytes.toNat)
    (planned : expanded + stack.length ≤ limits.maxExpandedPlistObjects.toNat) :
    expandObjects slice limits table expanded spent stack = .ok () ↔
      Affordable (objectGraph slice table) limits.budget expanded spent stack := by
  fun_induction expandObjects slice limits table expanded spent stack
  case case1 expanded spent =>
    rw [affordable_nil]
    exact ⟨fun _ => ⟨planned, paid⟩, fun _ => rfl⟩
  case case2 expanded spent reference depth stack exceeds =>
    rw [List.length_cons] at planned
    omega
  case case3 expanded spent reference depth stack fits error fails =>
    constructor
    · intro accepted
      contradiction
    · intro affordable
      obtain ⟨shallow, children, cost, object, rest⟩ := affordable_cons.mp affordable
      have ahead := rest.planned
      rw [List.length_append, List.length_map] at ahead
      have isCharged : Charged limits (expanded + 1) stack.length spent (spent + cost) children cost :=
        ⟨rfl, rest.paid, Nat.le_trans (by omega) ahead⟩
      rw [List.length_cons] at planned
      rw [(visitObject_eq_ok whole (by omega)).mpr ⟨shallow, cost, object, isCharged⟩] at fails
      contradiction
  case case4 expanded spent reference depth stack fits charged children visits pushed inductionHypothesis =>
    rw [List.length_cons] at planned
    obtain ⟨shallow, cost, object, isCharged, chargedPaid, ahead⟩ :=
      (visitObject_eq_ok whole (by omega)).mp visits
    have permuted : pushed.Perm ((children.map fun child => (child, depth + 1)) ++ stack) :=
      push_eq children (depth + 1) stack
    have length := permuted.length_eq
    rw [List.length_append, List.length_map] at length
    rw [inductionHypothesis chargedPaid (by omega), affordable_perm permuted, affordable_cons, isCharged]
    constructor
    · intro affordable
      exact ⟨shallow, children, cost, object, affordable⟩
    · intro affordable
      obtain ⟨_, childrenToo, costToo, objectToo, rest⟩ := affordable
      obtain ⟨sameChildren, sameCost⟩ := objectGraph_functional slice table _ _ _ _ _ objectToo object
      rw [← sameChildren, ← sameCost]
      exact rest

end

/-! ## The preflight -/

theorem expandObjects_root {slice : Slice} {limits : Limits} {table : ObjectTable}
    (whole : TableAt slice limits table) :
    expandObjects slice limits table 0 0 [(table.root, 1)] = .ok () ↔
      Affordable (objectGraph slice table) limits.budget 0 0 [(table.root, 1)] := by
  by_cases positive : 1 ≤ limits.maxExpandedPlistObjects.toNat
  · exact expandObjects_eq_ok whole (Nat.zero_le _) positive
  · have exceeds : limits.maxExpandedPlistObjects.toNat < 0 + 1 := by omega
    rw [expandObjects, if_pos exceeds]
    constructor
    · intro accepted
      contradiction
    · intro affordable
      exact absurd affordable.planned (Nat.not_le_of_lt exceeds)

/-- The tree is the unfolding of the object graph from the root. -/
structure UnfoldsFromRoot (slice : Slice) (table : ObjectTable) (tree : Forest Nat) : Prop where
  roots : tree.roots = [table.root]
  unfolds : tree.Unfolds (objectGraph slice table)

theorem preflight_eq_ok (slice : Slice) (limits : Limits) :
    preflightBinaryPlist slice limits = .ok () ↔
      ∃ table tree, TableAt slice limits table ∧ UnfoldsFromRoot slice table tree ∧
        tree.size ≤ limits.maxExpandedPlistObjects.toNat ∧
        tree.height ≤ limits.maxPlistDepth.toNat ∧
        tree.totalCost ≤ limits.maxExpandedPlistBytes.toNat := by
  simp only [preflightBinaryPlist, bind_eq_ok, readTable_eq_ok]
  constructor
  · intro accepted
    obtain ⟨table, whole, walks⟩ := accepted
    obtain ⟨tree, roots, unfolds, bounds⟩ :=
      (affordable_root table.root).mp ((expandObjects_root whole).mp walks)
    exact ⟨table, tree, whole, { roots := roots, unfolds := unfolds }, bounds⟩
  · intro meaning
    obtain ⟨table, tree, whole, unfolding, bounds⟩ := meaning
    exact ⟨table, whole, (expandObjects_root whole).mpr
      ((affordable_root table.root).mpr ⟨tree, unfolding.roots, unfolding.unfolds, bounds⟩)⟩

/-- The trailer has one reading. -/
theorem TableAt.unique {slice : Slice} {limits : Limits} {table tableToo : ObjectTable}
    (whole : TableAt slice limits table) (wholeToo : TableAt slice limits tableToo) :
    table = tableToo :=
  Except.ok.inj ((readTable_eq_ok.mpr whole).symm.trans (readTable_eq_ok.mpr wholeToo))

/-- The preflight accepts exactly the property lists that are well formed and that unfold into a tree
within the limits.  So it rejects every graph with a cycle that the root reaches, and every graph whose
sharing would expand beyond a limit. -/
theorem property_list_preflight (slice : Slice) (limits : Limits) :
    (preflightBinaryPlist slice limits = .ok () ↔
      ∃ table tree, TableAt slice limits table ∧ UnfoldsFromRoot slice table tree ∧
        tree.size ≤ limits.maxExpandedPlistObjects.toNat ∧
        tree.height ≤ limits.maxPlistDepth.toNat ∧
        tree.totalCost ≤ limits.maxExpandedPlistBytes.toNat) ∧
    (∀ table node, TableAt slice limits table →
      Relation.ReflTransGen (Child (objectGraph slice table)) table.root node →
      Relation.TransGen (Child (objectGraph slice table)) node node →
      preflightBinaryPlist slice limits ≠ .ok ()) ∧
    ∀ table tree, TableAt slice limits table → UnfoldsFromRoot slice table tree →
      limits.maxExpandedPlistObjects.toNat < tree.size →
      preflightBinaryPlist slice limits ≠ .ok () := by
  refine ⟨preflight_eq_ok slice limits, ?_, ?_⟩
  · intro table node whole reached cycle accepted
    obtain ⟨tableToo, tree, wholeToo, unfolding, _⟩ := (preflight_eq_ok slice limits).mp accepted
    rw [← whole.unique wholeToo] at unfolding
    exact unfolding.unfolds.acyclic (objectGraph_functional slice table) unfolding.roots reached cycle
  · intro table tree whole unfolding exceeds accepted
    obtain ⟨tableToo, treeToo, wholeToo, unfoldingToo, size, _⟩ :=
      (preflight_eq_ok slice limits).mp accepted
    rw [← whole.unique wholeToo] at unfoldingToo
    have same := unfolding.unfolds.unique (objectGraph_functional slice table) unfoldingToo.unfolds
      (unfolding.roots.trans unfoldingToo.roots.symm)
    rw [same] at exceeds
    exact absurd size (Nat.not_le_of_lt exceeds)

end Genkan.DynamicWallpaper.Heic
