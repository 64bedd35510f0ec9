import Genkan.DynamicWallpaper.BoxTree

/-! # Reading one box

Each reader of the walk succeeds exactly where the bytes have a meaning and the budget allows it.
-/

namespace Genkan.DynamicWallpaper.Container

open Foundations.Bytes Foundations.Results Heic

section

variable {slice : Slice} {finish : Nat}

/-! ## Bytes and integers -/

theorem read_eq_ok {offset length : Nat} {bytes : List UInt8} (bound : finish ≤ slice.length) :
    read slice offset length finish = .ok bytes ↔
      offset + length ≤ finish ∧ bytes = slice.part offset length := by
  have limit := Slice.length_lt slice
  simp only [read, bind_eq_ok, pure_eq_ok, okOr_eq_ok, rejectIf_eq_ok, exists_const,
    checkedAdd_eq_some, not_or, Nat.not_lt]
  constructor
  · intro reads
    obtain ⟨stop, ⟨isStop, _⟩, ⟨within, _⟩, isBytes⟩ := reads
    exact ⟨by omega, isBytes.symm⟩
  · intro placed
    obtain ⟨within, isBytes⟩ := placed
    exact ⟨_, ⟨rfl, by omega⟩, ⟨within, by omega⟩, isBytes.symm⟩

theorem advance_eq_ok {offset length stop : Nat} (bound : finish ≤ slice.length) :
    advance offset length finish = .ok stop ↔ offset + length ≤ finish ∧ stop = offset + length := by
  have limit := Slice.length_lt slice
  simp only [advance, bind_eq_ok, pure_eq_ok, okOr_eq_ok, rejectIf_eq_ok, exists_const,
    checkedAdd_eq_some, Nat.not_lt]
  constructor
  · intro advances
    obtain ⟨reached, ⟨isReached, _⟩, within, isStop⟩ := advances
    omega
  · intro placed
    obtain ⟨within, isStop⟩ := placed
    exact ⟨_, ⟨rfl, by omega⟩, within, isStop.symm⟩

theorem readBigEndian_eq_ok {offset width value : Nat} (bound : finish ≤ slice.length) :
    readBigEndian slice offset width finish = .ok value ↔
      offset + width ≤ finish ∧ value = number slice offset width := by
  simp only [readBigEndian, bind_eq_ok, pure_eq_ok, read_eq_ok bound]
  constructor
  · intro reads
    obtain ⟨bytes, ⟨within, isBytes⟩, isValue⟩ := reads
    rw [isBytes] at isValue
    exact ⟨within, isValue.symm⟩
  · intro placed
    exact ⟨_, ⟨placed.1, rfl⟩, placed.2.symm⟩

theorem readU8_eq_ok {offset value : Nat} (bound : finish ≤ slice.length) :
    readU8 slice offset finish = .ok value ↔ offset + 1 ≤ finish ∧ value = number slice offset 1 :=
  readBigEndian_eq_ok bound

theorem readU16_eq_ok {offset value : Nat} (bound : finish ≤ slice.length) :
    readU16 slice offset finish = .ok value ↔ offset + 2 ≤ finish ∧ value = number slice offset 2 :=
  readBigEndian_eq_ok bound

theorem readU32_eq_ok {offset value : Nat} (bound : finish ≤ slice.length) :
    readU32 slice offset finish = .ok value ↔ offset + 4 ≤ finish ∧ value = number slice offset 4 :=
  readBigEndian_eq_ok bound

theorem number_zero (slice : Slice) (offset : Nat) : number slice offset 0 = 0 := rfl

/-- An integer of eight bytes, by its halves. -/
theorem number_halves (slice : Slice) (offset : Nat) (within : offset + 8 ≤ slice.length) :
    number slice offset 8 = number slice offset 4 * 2 ^ 32 + number slice (offset + 4) 4 := by
  have parts : slice.part offset 8 = slice.part offset 4 ++ slice.part (offset + 4) 4 := by
    simp only [Slice.part]
    rw [← List.drop_drop, ← List.take_add]
  have width : (slice.part (offset + 4) 4).length = 4 := Slice.part_length (by omega)
  rw [number, parts, ofBigEndian_append, width]
  rfl

/-- The widths that the walk accepts. -/
theorem readUint_eq_ok {offset width value : Nat} (bound : finish ≤ slice.length)
    (supported : width ∈ [0, 4, 8]) (reached : offset + width ≤ finish) :
    readUint slice offset width finish = .ok value ↔ value = number slice offset width := by
  simp only [List.mem_cons, List.not_mem_nil, or_false] at supported
  obtain rfl | rfl | rfl := supported
  · simp only [readUint, number_zero, Except.ok.injEq]
    exact eq_comm
  · simp only [readUint, readU32_eq_ok bound]
    exact and_iff_right reached
  · simp only [readUint, bind_eq_ok, pure_eq_ok, readU32_eq_ok bound]
    rw [number_halves slice offset (Nat.le_trans reached bound)]
    constructor
    · intro reads
      obtain ⟨high, ⟨_, isHigh⟩, low, ⟨_, isLow⟩, isValue⟩ := reads
      rw [← isValue, isHigh, isLow]
    · intro isValue
      exact ⟨_, ⟨by omega, rfl⟩, _, ⟨by omega, rfl⟩, isValue.symm⟩

/-! ## Headers -/

theorem headerBytes_eq (slice : Slice) (offset : Nat) :
    ofBigEndian ((slice.part offset 8).take 4) = declaredSize slice offset ∧
      (slice.part offset 8).drop 4 = headerKind slice offset := by
  constructor
  · rw [declaredSize, number, Slice.part, Slice.part, List.take_take]
    rfl
  · rw [headerKind, Slice.part, Slice.part, List.drop_take, List.drop_drop]

theorem boxLengths_eq_ok {offset length width : Nat} (bound : finish ≤ slice.length) :
    boxLengths slice offset finish (declaredSize slice offset) = .ok (length, width) ↔
      (declaredSize slice offset = 1 → offset + 16 ≤ finish) ∧ length = boxLength slice offset finish ∧
        width = if declaredSize slice offset = 1 then 16 else 8 := by
  have limit := Slice.length_lt slice
  rw [boxLengths, boxLength]
  split
  next isZero =>
    simp only [isZero, Except.ok.injEq, Prod.mk.injEq, Nat.zero_ne_one, false_implies, true_and, if_false]
    exact and_congr eq_comm eq_comm
  next =>
    split
    next isOne =>
      simp only [bind_eq_ok, pure_eq_ok, okOr_eq_ok, checkedAdd_eq_some, read_eq_ok bound, Prod.mk.injEq,
        isOne, true_implies]
      constructor
      · intro reads
        obtain ⟨start, ⟨isStart, _⟩, large, ⟨within, isLarge⟩, isLength, isWidth⟩ := reads
        subst isStart isLarge
        exact ⟨within, isLength.symm, isWidth.symm⟩
      · intro placed
        obtain ⟨within, isLength, isWidth⟩ := placed
        exact ⟨_, ⟨rfl, by omega⟩, _, ⟨within, rfl⟩, isLength.symm, isWidth.symm⟩
    next isOther =>
      simp only [isOther, Except.ok.injEq, Prod.mk.injEq, false_implies, true_and]
      exact and_congr eq_comm eq_comm

theorem readHeader_eq_ok {offset : Nat} {header : Header} (bound : finish ≤ slice.length) :
    readHeader slice offset finish = .ok header ↔ HeaderAt slice offset finish header := by
  have limit := Slice.length_lt slice
  obtain ⟨isSize, isKind⟩ := headerBytes_eq slice offset
  simp only [readHeader, bind_eq_ok, pure_eq_ok, okOr_eq_ok, rejectIf_eq_ok, exists_const,
    checkedAdd_eq_some, Prod.exists, Nat.not_lt, read_eq_ok bound]
  constructor
  · intro reads
    obtain ⟨bytes, ⟨readable, isBytes⟩, length, width, lengths, longer, bodyStart, ⟨isStart, _⟩, bodyEnd,
      ⟨isEnd, _⟩, inside, isHeader⟩ := reads
    subst isBytes
    rw [isSize] at lengths
    obtain ⟨readableSize, isLength, isWidth⟩ := (boxLengths_eq_ok bound).mp lengths
    rw [isKind] at longer isStart isHeader
    have whole : (if headerKind slice offset = fourcc 'u' 'u' 'i' 'd' then width + 16 else width) =
        headerLength slice offset := by
      rw [headerLength, isWidth]
      split <;> rfl
    rw [whole] at longer isStart
    subst isHeader
    exact {
      readable := readable
      readableSize := readableSize
      isKind := rfl
      isBodyStart := isStart.symm
      isBodyEnd := by rw [← isLength]; exact isEnd.symm
      isNext := rfl
      covers := by simp only; omega
      inside := inside }
  · intro placed
    have readable := placed.readable
    have isStart := placed.isBodyStart
    have isEnd := placed.isBodyEnd
    have covers := placed.covers
    have inside := placed.inside
    have whole : (if headerKind slice offset = fourcc 'u' 'u' 'i' 'd'
        then (if declaredSize slice offset = 1 then 16 else 8) + 16
        else if declaredSize slice offset = 1 then 16 else 8) = headerLength slice offset := by
      rw [headerLength]
      split <;> rfl
    have lengths := (boxLengths_eq_ok bound).mpr ⟨placed.readableSize, rfl, rfl⟩
    rw [← isSize] at lengths
    refine ⟨_, ⟨readable, rfl⟩, _, _, lengths, ?_⟩
    rw [isKind, isSize, whole]
    refine ⟨by omega, _, ⟨rfl, by omega⟩, _, ⟨rfl, by omega⟩, by omega, ?_⟩
    rw [← placed.isKind, ← isStart, ← isEnd]
    exact Header.ext rfl rfl rfl placed.isNext.symm

/-! ## Location records -/

theorem countUp_eq_ok {total amount counted : Nat} {ceiling : UInt32} {what : String} :
    countUp total amount ceiling what = .ok counted ↔
      counted = total + amount ∧ total + amount ≤ ceiling.toNat := by
  have limit := ceiling.toNat_lt
  rw [countUp]
  split
  next fits =>
    split
    next exceeds =>
      simp only [reduceCtorEq, false_iff]
      omega
    next within =>
      rw [Except.ok.injEq]
      omega
  next overflows =>
    simp only [reduceCtorEq, false_iff]
    omega

theorem extentLoop_eq_ok {fields : Fields} {count offset total next sum : Nat}
    (bound : finish ≤ slice.length) (supported : fields.lengthSize ∈ [0, 4, 8])
    (fits : total < usizeLimit) :
    extentLoop slice fields finish count offset total = .ok (next, sum) ↔
      ∃ lengths, lengths.length = count ∧ ExtentsAt slice fields finish lengths offset next ∧
        sum = total + lengths.sum ∧ sum < usizeLimit := by
  induction count generalizing offset total with
  | zero =>
    simp only [extentLoop, Except.ok.injEq, Prod.mk.injEq]
    constructor
    · intro same
      obtain ⟨isNext, isSum⟩ := same
      subst isNext isSum
      exact ⟨[], rfl, rfl, rfl, fits⟩
    · intro meaning
      obtain ⟨lengths, isNil, extents, isSum, _⟩ := meaning
      rw [List.length_eq_zero_iff] at isNil
      subst isNil
      exact ⟨extents.symm, isSum.symm⟩
  | succ count inductionHypothesis =>
    simp only [extentLoop, bind_eq_ok, okOr_eq_ok, checkedAdd_eq_some, advance_eq_ok bound]
    constructor
    · intro reads
      obtain ⟨_, ⟨_, isIndexEnd⟩, _, ⟨_, isLengthAt⟩, length, isLength, _, ⟨isTotal, fitsToo⟩, _,
        ⟨reached, isAfter⟩, later⟩ := reads
      subst isIndexEnd isLengthAt isTotal isAfter
      rw [readUint_eq_ok bound supported reached] at isLength
      obtain ⟨lengths, isCount, extents, isSum, sumFits⟩ := (inductionHypothesis fitsToo).mp later
      refine ⟨length :: lengths, by rw [List.length_cons, isCount], ⟨reached, isLength, extents⟩, ?_, sumFits⟩
      rw [isSum, List.sum_cons, Nat.add_assoc]
    · intro meaning
      obtain ⟨lengths, isCount, extents, isSum, sumFits⟩ := meaning
      cases lengths with
      | nil => contradiction
      | cons length lengths =>
        obtain ⟨reached, isLength, extents⟩ := extents
        rw [List.sum_cons, ← Nat.add_assoc] at isSum
        refine ⟨_, ⟨by omega, rfl⟩, _, ⟨by omega, rfl⟩, length, ?_, _, ⟨rfl, by omega⟩, _, ⟨reached, rfl⟩, ?_⟩
        · exact (readUint_eq_ok bound supported reached).mpr isLength
        · exact (inductionHypothesis (by omega)).mpr
            ⟨lengths, Nat.succ.inj isCount, extents, isSum, sumFits⟩

/-- What the walk keeps of a record. -/
def LocationRecord.extent (record : LocationRecord) : Extent :=
  { id := record.id, bytes := record.lengths.sum }

/-- The extents of the record are within the budget, and their sum is a machine word. -/
structure LocationRecord.Fits (budget : Budget) (record : LocationRecord) : Prop where
  extents : record.lengths.length ≤ budget.maxItemExtents.toNat
  bytes : record.lengths.sum < usizeLimit

theorem recordLoop_eq_ok {budget : Budget} {fields : Fields} {count offset : Nat}
    {extents result : List Extent} (bound : finish ≤ slice.length)
    (supported : fields.lengthSize ∈ [0, 4, 8]) :
    recordLoop slice budget fields finish count offset extents = .ok result ↔
      ∃ records, records.length = count ∧ RecordsAt slice fields finish records offset ∧
        (∀ record ∈ records, record.Fits budget) ∧
        result = extents ++ records.map LocationRecord.extent := by
  have isZero : (0 : Nat) < usizeLimit := by decide
  induction count generalizing offset extents with
  | zero =>
    simp only [recordLoop, Except.ok.injEq]
    constructor
    · intro same
      exact ⟨[], rfl, trivial, by simp, by simp [same]⟩
    · intro meaning
      obtain ⟨records, isNil, _, _, isResult⟩ := meaning
      rw [List.length_eq_zero_iff] at isNil
      rw [isResult, isNil, List.map_nil, List.append_nil]
  | succ count inductionHypothesis =>
    simp only [recordLoop, bind_eq_ok, rejectIf_eq_ok, exists_const, advance_eq_ok bound,
      readBigEndian_eq_ok bound, readU16_eq_ok bound, Prod.exists, Nat.not_lt]
    constructor
    · intro reads
      obtain ⟨id, ⟨_, isId⟩, _, ⟨_, isCountAt⟩, extentCount, ⟨readable, isExtentCount⟩, within, next, sum,
        loops, later⟩ := reads
      subst isCountAt
      obtain ⟨lengths, isLengths, extentsAt, isSum, fits⟩ := (extentLoop_eq_ok bound supported isZero).mp loops
      obtain ⟨records, isCount, recordsAt, recordsFit, isResult⟩ := inductionHypothesis.mp later
      rw [Nat.zero_add] at isSum
      subst isSum
      refine ⟨⟨id, lengths⟩ :: records, by rw [List.length_cons, isCount], ?_, ?_, ?_⟩
      · exact ⟨readable, isId, isLengths.trans isExtentCount, next, extentsAt, recordsAt⟩
      · intro record member
        cases List.mem_cons.mp member with
        | inl isFirst =>
          subst isFirst
          exact { extents := by rw [isLengths]; exact within, bytes := fits }
        | inr isLater => exact recordsFit record isLater
      · rw [isResult, List.append_assoc]
        rfl
    · intro meaning
      obtain ⟨records, isCount, recordsAt, recordsFit, isResult⟩ := meaning
      cases records with
      | nil => contradiction
      | cons record records =>
        obtain ⟨readable, isId, isLengths, next, extentsAt, laterAt⟩ := recordsAt
        have recordFits := recordsFit record List.mem_cons_self
        have within := recordFits.extents
        rw [isLengths] at within
        simp only [Fields.extentCountAt, Fields.idSize] at readable isId isLengths extentsAt within
        refine ⟨record.id, ⟨by omega, isId⟩, _, ⟨by omega, rfl⟩, _, ⟨readable, rfl⟩, within, next,
          record.lengths.sum, ?_, ?_⟩
        · exact (extentLoop_eq_ok bound supported isZero).mpr
            ⟨record.lengths, isLengths, extentsAt, (Nat.zero_add _).symm, recordFits.bytes⟩
        · refine inductionHypothesis.mpr ⟨records, Nat.succ.inj isCount, laterAt, ?_, ?_⟩
          · intro later member
            exact recordsFit later (List.mem_cons_of_mem _ member)
          · rw [isResult, List.append_assoc]
            rfl

theorem readFields_supported {header : Header} {fields : Fields}
    (reads : readFields slice header = .ok fields) : fields.lengthSize ∈ [0, 4, 8] := by
  simp only [readFields, bind_eq_ok, pure_eq_ok, rejectIf_eq_ok, exists_const] at reads
  obtain ⟨version, _, _, widths, _, supported, isFields⟩ := reads
  subst isFields
  by_contra unsupported
  exact supported ⟨_, List.mem_cons_of_mem _ List.mem_cons_self, unsupported⟩

theorem parseIloc_eq_ok {budget : Budget} {header : Header} {walk result : Walk}
    (bound : header.bodyEnd ≤ slice.length) :
    parseIloc slice budget header walk = .ok result ↔
      ∃ records fields, LocationsAt slice header records fields ∧
        (∀ record ∈ records, record.Fits budget) ∧
        walk.totals.ilocRecords + records.length ≤ budget.maxContainerItems.toNat ∧
        result = { walk with
          totals := { walk.totals with ilocRecords := walk.totals.ilocRecords + records.length }
          extents := walk.extents ++ records.map LocationRecord.extent } := by
  simp only [parseIloc, bind_eq_ok, pure_eq_ok, readBigEndian_eq_ok bound, countUp_eq_ok]
  constructor
  · intro reads
    obtain ⟨fields, isFields, count, ⟨readable, isCount⟩, _, ⟨isTotal, within⟩, extents, loops, isResult⟩ :=
      reads
    obtain ⟨records, counted, isRecords, fit, isExtents⟩ :=
      (recordLoop_eq_ok bound (readFields_supported isFields)).mp loops
    subst isTotal isExtents
    rw [← counted] at within isResult
    exact ⟨records, fields, ⟨isFields, readable, counted.trans isCount, isRecords⟩, fit, within,
      isResult.symm⟩
  · intro meaning
    obtain ⟨records, fields, locations, fit, within, isResult⟩ := meaning
    refine ⟨fields, locations.isFields, records.length, ⟨locations.readable, locations.counted⟩, _,
      ⟨rfl, within⟩, _, ?_, isResult.symm⟩
    exact (recordLoop_eq_ok bound (readFields_supported locations.isFields)).mpr
      ⟨records, rfl, locations.isRecords, fit, rfl⟩

/-! ## References -/

/-- Two readings of a header agree. -/
theorem HeaderAt.unique {offset limit : Nat} {header other : Header}
    (placed : HeaderAt slice offset limit header) (placedToo : HeaderAt slice offset limit other) :
    header = other := by
  have sameEnd := placed.isBodyEnd.trans placedToo.isBodyEnd.symm
  exact Header.ext (placed.isKind.trans placedToo.isKind.symm)
    (placed.isBodyStart.trans placedToo.isBodyStart.symm) sameEnd
    ((placed.isNext.trans sameEnd).trans placedToo.isNext.symm)

theorem HeaderAt.next_le {offset limit : Nat} {header : Header}
    (placed : HeaderAt slice offset limit header) : header.next ≤ limit := by
  rw [placed.isNext]
  exact placed.inside

/-- Before the end of the range there is another list. -/
theorem ListsAt.before {means : Nat → Header → Nat → Prop} {sizes : List Nat} {offset : Nat}
    (lists : ListsAt slice means finish sizes offset) (before : offset < finish) :
    ∃ count counts child, sizes = count :: counts ∧ HeaderAt slice offset finish child ∧
      means offset child count ∧ ListsAt slice means finish counts child.next := by
  cases sizes with
  | nil =>
    have isEnd : offset = finish := lists
    omega
  | cons count counts =>
    obtain ⟨child, placed, meant, later⟩ := lists
    exact ⟨count, counts, child, rfl, placed, meant, later⟩

/-- At the end of the range there is none. -/
theorem ListsAt.ended {means : Nat → Header → Nat → Prop} {sizes : List Nat}
    (lists : ListsAt slice means finish sizes finish) : sizes = [] := by
  cases sizes with
  | nil => rfl
  | cons count counts =>
    obtain ⟨child, placed, _, _⟩ := lists
    have readable := placed.readable
    omega

/-- Where `list` accepts exactly what `means` says and the ceiling allows, so does the loop. -/
theorem listLoop_eq_ok {check : Nat → Except Error Unit} {list : Header → Nat → Except Error Nat}
    {means : Nat → Header → Nat → Prop} {ceiling offset references total : Nat}
    (bound : finish ≤ slice.length) (reached : offset ≤ finish) (within : references ≤ ceiling)
    (checks : ∀ offset child count, HeaderAt slice offset finish child → means offset child count →
      check offset = .ok ())
    (counts : ∀ offset child references total, HeaderAt slice offset finish child →
      check offset = .ok () → (list child references = .ok total ↔
        ∃ count, means offset child count ∧ total = references + count ∧ total ≤ ceiling)) :
    listLoop slice check list finish offset references = .ok total ↔
      ∃ sizes, ListsAt slice means finish sizes offset ∧ total = references + sizes.sum ∧
        total ≤ ceiling := by
  fun_induction listLoop slice check list finish offset references
  -- The check refuses, but accepts where any list follows.
  case case1 offset references before error fails =>
    constructor
    · intro accepted
      contradiction
    · intro meaning
      obtain ⟨sizes, lists, _⟩ := meaning
      obtain ⟨count, _, child, _, placed, meant, _⟩ := lists.before before
      rw [checks offset child count placed meant] at fails
      contradiction
  case case2 offset references before isChecked error fails =>
    constructor
    · intro accepted
      contradiction
    · intro meaning
      obtain ⟨sizes, lists, _⟩ := meaning
      obtain ⟨_, _, child, _, placed, _, _⟩ := lists.before before
      rw [(readHeader_eq_ok bound).mpr placed] at fails
      contradiction
  case case3 offset references before isChecked child reads error fails =>
    have placed := (readHeader_eq_ok bound).mp reads
    constructor
    · intro accepted
      contradiction
    · intro meaning
      obtain ⟨sizes, lists, isTotal, totalWithin⟩ := meaning
      obtain ⟨count, later, other, isSizes, placedToo, meant, _⟩ := lists.before before
      rw [← placed.unique placedToo] at meant
      rw [isSizes, List.sum_cons] at isTotal
      have accepted := (counts offset child references _ placed isChecked).mpr
        ⟨count, meant, rfl, by omega⟩
      rw [fails] at accepted
      contradiction
  case case4 offset references before isChecked child reads counted listed inductionHypothesis =>
    have placed := (readHeader_eq_ok bound).mp reads
    obtain ⟨count, meant, isCounted, countedWithin⟩ :=
      (counts offset child references counted placed isChecked).mp listed
    rw [inductionHypothesis placed.next_le countedWithin]
    constructor
    · intro meaning
      obtain ⟨sizes, lists, isTotal, totalWithin⟩ := meaning
      refine ⟨count :: sizes, ⟨child, placed, meant, lists⟩, ?_, totalWithin⟩
      rw [isTotal, isCounted, List.sum_cons, Nat.add_assoc]
    · intro meaning
      obtain ⟨sizes, lists, isTotal, totalWithin⟩ := meaning
      obtain ⟨countToo, later, other, isSizes, placedToo, meantToo, laterLists⟩ := lists.before before
      have same := placed.unique placedToo
      subst same
      rw [isSizes, List.sum_cons, ← Nat.add_assoc] at isTotal
      have accepted := (counts offset child references _ placed isChecked).mpr
        ⟨countToo, meantToo, rfl, by omega⟩
      have isSame : counted = references + countToo := Except.ok.inj (listed.symm.trans accepted)
      exact ⟨later, laterLists, by rw [isTotal, isSame], totalWithin⟩
  case case5 offset references past =>
    have isEnd : offset = finish := by omega
    subst isEnd
    rw [Except.ok.injEq]
    constructor
    · intro same
      subst same
      exact ⟨[], rfl, rfl, within⟩
    · intro meaning
      obtain ⟨sizes, lists, isTotal, _⟩ := meaning
      rw [lists.ended] at isTotal
      exact isTotal.symm

theorem irefList_eq_ok {budget : Budget} {idSize references total : Nat} {child : Header}
    (bound : child.bodyEnd ≤ slice.length) :
    irefList slice budget idSize child references = .ok total ↔
      ∃ count, ItemList slice idSize child count ∧ total = references + count ∧
        total ≤ budget.maxContainerItems.toNat := by
  have limit := Slice.length_lt slice
  simp only [irefList, bind_eq_ok, pure_eq_ok, okOr_eq_ok, rejectIf_eq_ok, exists_const, countUp_eq_ok,
    checkedAdd_eq_some, readU16_eq_ok bound, ne_eq, not_not]
  constructor
  · intro reads
    obtain ⟨count, ⟨_, isCount⟩, positive, _, ⟨isTotal, within⟩, _, ⟨isExpected, _⟩, fills, isResult⟩ := reads
    subst isTotal isExpected isResult
    exact ⟨count, ⟨Nat.one_le_iff_ne_zero.mpr positive, isCount, fills⟩, rfl, within⟩
  · intro meaning
    obtain ⟨count, list, isTotal, within⟩ := meaning
    subst isTotal
    have fills := list.fills
    have positive := list.positive
    have room : idSize ≤ count * idSize := Nat.le_mul_of_pos_left idSize positive
    exact ⟨count, ⟨by omega, list.isCount⟩, by omega, _, ⟨rfl, within⟩, _, ⟨rfl, by omega⟩, fills, rfl⟩

/-- The walk with so many references. -/
def Walk.withReferences (walk : Walk) (references : Nat) : Walk :=
  { walk with totals := { walk.totals with irefReferences := references } }

/-- The first of four bytes. -/
theorem firstByte_eq {header : Header} (bound : header.bodyEnd ≤ slice.length)
    (readable : header.bodyStart + 4 ≤ header.bodyEnd) :
    ((slice.part header.bodyStart 4).headD 0).toNat = number slice header.bodyStart 1 := by
  have width : (slice.part header.bodyStart 4).length = 4 := Slice.part_length (by omega)
  have front : slice.part header.bodyStart 1 = (slice.part header.bodyStart 4).take 1 := by
    rw [Slice.part, Slice.part, List.take_take]
    rfl
  rw [number, front]
  cases isPart : slice.part header.bodyStart 4 with
  | nil => simp [isPart] at width
  | cons byte bytes => simp [ofBigEndian]

theorem iref_lists_eq_ok {budget : Budget} {header : Header} {idSize references total : Nat}
    (bound : header.bodyEnd ≤ slice.length) (readable : header.bodyStart + 4 ≤ header.bodyEnd)
    (within : references ≤ budget.maxContainerItems.toNat) :
    listLoop slice (fun _ => .ok ()) (irefList slice budget idSize) header.bodyEnd
        (header.bodyStart + 4) references = .ok total ↔
      ∃ counts, ListsAt slice (fun _ => ItemList slice idSize) header.bodyEnd counts
        (header.bodyStart + 4) ∧ total = references + counts.sum ∧
        total ≤ budget.maxContainerItems.toNat := by
  apply listLoop_eq_ok bound readable within
  · intro offset child count _ _
    rfl
  · intro offset child references total placed _
    exact irefList_eq_ok (Nat.le_trans placed.inside bound)

theorem parseIref_eq_ok {budget : Budget} {header : Header} {walk result : Walk}
    (bound : header.bodyEnd ≤ slice.length)
    (within : walk.totals.irefReferences ≤ budget.maxContainerItems.toNat) :
    parseIref slice budget header walk = .ok result ↔
      ∃ counts, ItemReferencesAt slice header counts ∧
        walk.totals.irefReferences + counts.sum ≤ budget.maxContainerItems.toNat ∧
        result = walk.withReferences (walk.totals.irefReferences + counts.sum) := by
  simp only [parseIref, bind_eq_ok, pure_eq_ok, rejectIf_eq_ok, exists_const, read_eq_ok bound, Nat.not_lt]
  constructor
  · intro reads
    obtain ⟨_, ⟨readable, isPrefix⟩, supported, references, loops, isResult⟩ := reads
    subst isPrefix
    rw [firstByte_eq bound readable] at supported loops
    obtain ⟨counts, lists, isTotal, totalWithin⟩ :=
      (iref_lists_eq_ok bound readable within).mp loops
    rw [isTotal] at isResult totalWithin
    exact ⟨counts, ⟨readable, supported, lists⟩, totalWithin, isResult.symm⟩
  · intro meaning
    obtain ⟨counts, references, totalWithin, isResult⟩ := meaning
    have readable := references.readable
    refine ⟨_, ⟨readable, rfl⟩, ?_⟩
    rw [firstByte_eq bound readable]
    exact ⟨references.supported, _, (iref_lists_eq_ok bound readable within).mpr
      ⟨counts, references.isLists, rfl, totalWithin⟩, isResult.symm⟩

theorem trefCheck_eq_ok {offset : Nat} (bound : finish ≤ slice.length) (readable : offset + 4 ≤ finish) :
    trefCheck slice finish offset = .ok () ↔ declaredSize slice offset ≠ 0 := by
  simp only [trefCheck, bind_eq_ok, rejectIf_eq_ok, readU32_eq_ok bound]
  constructor
  · intro reads
    obtain ⟨declared, ⟨_, isDeclared⟩, sized⟩ := reads
    rw [isDeclared] at sized
    exact sized
  · intro sized
    exact ⟨_, ⟨readable, rfl⟩, sized⟩

theorem trefList_eq_ok {budget : Budget} {offset references total : Nat} {child : Header}
    (covers : child.bodyStart ≤ child.bodyEnd) (sized : declaredSize slice offset ≠ 0) :
    trefList budget child references = .ok total ↔
      ∃ count, TrackList slice offset child count ∧ total = references + count ∧
        total ≤ budget.maxContainerItems.toNat := by
  have ceiling := budget.maxContainerItems.toNat_lt
  simp only [trefList, bind_eq_ok, okOr_eq_ok, rejectIf_eq_ok, exists_const, countUp_eq_ok, not_or,
    Nat.not_lt, ne_eq, not_not]
  constructor
  · intro reads
    obtain ⟨⟨long, whole⟩, count, isCount, isTotal, within⟩ := reads
    split at isCount
    next =>
      cases isCount
      exact ⟨_, ⟨sized, by omega, by omega⟩, isTotal, isTotal ▸ within⟩
    next => contradiction
  · intro meaning
    obtain ⟨count, list, isTotal, within⟩ := meaning
    have fills := list.fills
    have positive := list.positive
    have isCount : (child.bodyEnd - child.bodyStart) / 4 = count := by omega
    refine ⟨⟨by omega, by omega⟩, count, ?_, isTotal, isTotal ▸ within⟩
    rw [isCount, if_pos (by omega)]

theorem parseTref_eq_ok {budget : Budget} {header : Header} {walk result : Walk}
    (bound : header.bodyEnd ≤ slice.length) (covers : header.bodyStart ≤ header.bodyEnd)
    (within : walk.totals.irefReferences ≤ budget.maxContainerItems.toNat) :
    parseTref slice budget header walk = .ok result ↔
      ∃ counts, ListsAt slice (TrackList slice) header.bodyEnd counts header.bodyStart ∧
        walk.totals.irefReferences + counts.sum ≤ budget.maxContainerItems.toNat ∧
        result = walk.withReferences (walk.totals.irefReferences + counts.sum) := by
  have loop : ∀ total, listLoop slice (trefCheck slice header.bodyEnd) (trefList budget) header.bodyEnd
      header.bodyStart walk.totals.irefReferences = .ok total ↔
      ∃ counts, ListsAt slice (TrackList slice) header.bodyEnd counts header.bodyStart ∧
        total = walk.totals.irefReferences + counts.sum ∧
        total ≤ budget.maxContainerItems.toNat := by
    intro total
    apply listLoop_eq_ok bound covers within
    · intro offset child count placed list
      have readable := placed.readable
      exact (trefCheck_eq_ok bound (by omega)).mpr list.sized
    · intro offset child references total placed isChecked
      have readable := placed.readable
      exact trefList_eq_ok placed.covers ((trefCheck_eq_ok bound (by omega)).mp isChecked)
  simp only [parseTref, bind_eq_ok, pure_eq_ok, loop]
  constructor
  · intro reads
    obtain ⟨total, ⟨counts, lists, isTotal, totalWithin⟩, isResult⟩ := reads
    subst isTotal
    exact ⟨counts, lists, totalWithin, isResult.symm⟩
  · intro meaning
    obtain ⟨counts, lists, totalWithin, isResult⟩ := meaning
    exact ⟨_, ⟨counts, lists, rfl, totalWithin⟩, isResult.symm⟩

/-! ## Associations -/

theorem entryLoop_eq_ok {budget : Budget} {idSize width count offset associations total : Nat}
    (bound : finish ≤ slice.length)
    (within : associations ≤ budget.maxContainerAssociations.toNat) :
    entryLoop slice budget idSize width finish count offset associations = .ok total ↔
      ∃ counts, counts.length = count ∧ EntriesAt slice idSize width finish counts offset ∧
        total = associations + counts.sum ∧ total ≤ budget.maxContainerAssociations.toNat := by
  induction count generalizing offset associations with
  | zero =>
    simp only [entryLoop, Except.ok.injEq]
    constructor
    · intro same
      subst same
      exact ⟨[], rfl, trivial, rfl, within⟩
    · intro meaning
      obtain ⟨counts, isNil, _, isTotal, _⟩ := meaning
      rw [List.length_eq_zero_iff] at isNil
      rw [isTotal, isNil]
      rfl
  | succ count inductionHypothesis =>
    simp only [entryLoop, bind_eq_ok, advance_eq_ok bound, readU8_eq_ok bound, countUp_eq_ok]
    constructor
    · intro reads
      obtain ⟨_, ⟨_, isDeclaredAt⟩, declared, ⟨_, isDeclared⟩, _, ⟨isCounted, countedWithin⟩, _,
        ⟨reached, isNext⟩, later⟩ := reads
      subst isDeclaredAt isCounted isNext
      obtain ⟨counts, isCount, entries, isTotal, totalWithin⟩ :=
        (inductionHypothesis countedWithin).mp later
      refine ⟨declared :: counts, by rw [List.length_cons, isCount], ⟨reached, isDeclared, entries⟩, ?_,
        totalWithin⟩
      rw [isTotal, List.sum_cons, Nat.add_assoc]
    · intro meaning
      obtain ⟨counts, isCount, entries, isTotal, totalWithin⟩ := meaning
      cases counts with
      | nil => contradiction
      | cons declared counts =>
        obtain ⟨reached, isDeclared, entries⟩ := entries
        rw [List.sum_cons, ← Nat.add_assoc] at isTotal
        refine ⟨_, ⟨by omega, rfl⟩, declared, ⟨by omega, isDeclared⟩, _, ⟨rfl, by omega⟩, _,
          ⟨reached, rfl⟩, ?_⟩
        exact (inductionHypothesis (by omega)).mpr
          ⟨counts, Nat.succ.inj isCount, entries, isTotal, totalWithin⟩

theorem parseIpma_eq_ok {budget : Budget} {header : Header} {walk result : Walk}
    (bound : header.bodyEnd ≤ slice.length)
    (within : walk.totals.ipmaAssociations ≤ budget.maxContainerAssociations.toNat) :
    parseIpma slice budget header walk = .ok result ↔
      ∃ counts, AssociationsAt slice header counts ∧
        walk.totals.ipmaEntries + counts.length ≤ budget.maxContainerItems.toNat ∧
        walk.totals.ipmaAssociations + counts.sum ≤ budget.maxContainerAssociations.toNat ∧
        result = { walk with
          totals := { walk.totals with
            ipmaEntries := walk.totals.ipmaEntries + counts.length
            ipmaAssociations := walk.totals.ipmaAssociations + counts.sum } } := by
  simp only [parseIpma, bind_eq_ok, pure_eq_ok, rejectIf_eq_ok, exists_const, readU8_eq_ok bound,
    readU32_eq_ok bound, countUp_eq_ok, entryLoop_eq_ok bound within, Nat.not_lt]
  constructor
  · intro reads
    obtain ⟨version, ⟨_, isVersion⟩, supported, flags, ⟨_, isFlags⟩, count, ⟨readable, isCount⟩, _,
      ⟨isEntries, entriesWithin⟩, _, ⟨counts, counted, entries, isTotal, totalWithin⟩, isResult⟩ := reads
    subst isVersion isFlags isEntries isTotal
    rw [← counted] at entriesWithin isResult
    exact ⟨counts, ⟨readable, supported, counted.trans isCount, entries⟩, entriesWithin, totalWithin,
      isResult.symm⟩
  · intro meaning
    obtain ⟨counts, associations, entriesWithin, totalWithin, isResult⟩ := meaning
    have readable := associations.readable
    exact ⟨_, ⟨by omega, rfl⟩, associations.supported, _, ⟨by omega, rfl⟩, counts.length,
      ⟨readable, associations.counted⟩, _, ⟨rfl, entriesWithin⟩, _,
      ⟨counts, rfl, associations.isEntries, rfl, totalWithin⟩, isResult.symm⟩

end

end Genkan.DynamicWallpaper.Container
