import Genkan.DynamicWallpaper.AuditedWalk
import Genkan.DynamicWallpaper.BoxReading

/-! # Reading without panics

Each reader of the preflight does what the plain one does, without a panic.  An offset that is advanced
without a check is still in memory, since what was read before it was.
-/

namespace Genkan.DynamicWallpaper.Container.Audited

open Foundations Foundations.Audit Foundations.Bytes Foundations.Results Heic

/-! ## Operations -/

theorem deeper_eq {depth : Nat} (fits : depth + 1 < 2 ^ 32) : deeper depth = .of (.ok (depth + 1)) := by
  rw [deeper, Checked.add_eq fits]
  rfl

section

variable {bytes : List UInt8}

theorem indexes_eq {start length : Nat} (within : start + length ≤ bytes.length) :
    indexes bytes (List.range' start length) = .of (.ok ((bytes.drop start).take length)) := by
  have reads : (List.range' start length).mapM (fun position => bytes[position]?) =
      some ((bytes.drop start).take length) := by
    induction length generalizing start with
    | zero => rfl
    | succ length inductionHypothesis =>
      have first : start < bytes.length := by omega
      rw [List.range'_succ, List.mapM_cons, inductionHypothesis (by omega), List.getElem?_eq_getElem first,
        List.drop_eq_getElem_cons first, List.take_succ_cons]
      rfl
  rw [indexes, reads]
  rfl

theorem indexes_all : indexes bytes (List.range bytes.length) = .of (.ok bytes) := by
  rw [List.range_eq_range', indexes_eq (by omega), List.drop_zero, List.take_length]

theorem range_eq {start finish : Nat} (order : start ≤ finish) (within : finish ≤ bytes.length) :
    range bytes start finish = .of (.ok ((bytes.take finish).drop start)) := by
  rw [range, if_pos ⟨order, within⟩]
  rfl

theorem sized_eq {width : Nat} (isWidth : bytes.length = width) : sized bytes width = .of (.ok bytes) := by
  rw [sized, if_pos isWidth]
  rfl

end

section

variable {slice : Slice}

theorem get_eq {start finish : Nat} (order : start ≤ finish) (within : finish ≤ slice.length) :
    (.expect (slice.get start finish) : Task (List UInt8)) =
      .of (.ok (slice.part start (finish - start))) := by
  rw [Slice.get, if_pos ⟨order, within⟩]
  rfl

/-! ## Bytes and integers -/

theorem read_ok {offset length finish : Nat} {bytes : List UInt8}
    (reads : Container.read slice offset length finish = .ok bytes) :
    offset + length ≤ finish ∧ offset + length ≤ slice.length ∧ bytes = slice.part offset length ∧
      bytes.length = length := by
  simp only [Container.read, bind_eq_ok, pure_eq_ok, okOr_eq_ok, rejectIf_eq_ok, exists_const,
    checkedAdd_eq_some, not_or, Nat.not_lt] at reads
  obtain ⟨stop, ⟨rfl, _⟩, ⟨within, inside⟩, rfl⟩ := reads
  exact ⟨within, inside, rfl, Slice.part_length inside⟩

theorem read_eq (offset length finish : Nat) :
    read slice offset length finish = .of (Container.read slice offset length finish) := by
  refine of_bind fun stop isStop => of_bind fun _ inside => ?_
  rw [okOr_eq_ok, checkedAdd_eq_some] at isStop
  rw [rejectIf_eq_ok, not_or, Nat.not_lt, Nat.not_lt] at inside
  obtain ⟨rfl, _⟩ := isStop
  rw [get_eq (Nat.le_add_right _ _) inside.2, Nat.add_sub_cancel_left]
  rfl

theorem readBigEndian_ok {offset width finish value : Nat}
    (reads : Container.readBigEndian slice offset width finish = .ok value) :
    offset + width ≤ finish ∧ offset + width ≤ slice.length ∧ value < 256 ^ width := by
  obtain ⟨bytes, isBytes, isValue⟩ := bind_eq_ok.mp reads
  obtain ⟨within, inside, _, isWidth⟩ := read_ok isBytes
  refine ⟨within, inside, ?_⟩
  rw [← pure_eq_ok.mp isValue, ← isWidth]
  exact ofBigEndian_lt bytes

theorem readBigEndian_eq (offset width finish : Nat) :
    readBigEndian slice offset width finish = .of (Container.readBigEndian slice offset width finish) := by
  rw [readBigEndian, read_eq]
  refine of_bind fun bytes isBytes => ?_
  obtain ⟨_, _, _, isWidth⟩ := read_ok isBytes
  rw [← isWidth, indexes_all, of_ok_bind]
  rfl

theorem readU8_eq (offset finish : Nat) :
    readU8 slice offset finish = .of (Container.readU8 slice offset finish) := readBigEndian_eq offset 1 finish

theorem readU16_eq (offset finish : Nat) :
    readU16 slice offset finish = .of (Container.readU16 slice offset finish) :=
  readBigEndian_eq offset 2 finish

theorem readU32_eq (offset finish : Nat) :
    readU32 slice offset finish = .of (Container.readU32 slice offset finish) :=
  readBigEndian_eq offset 4 finish

theorem readUint_eq (offset width finish : Nat) :
    readUint slice offset width finish = .of (Container.readUint slice offset width finish) := by
  have limit := slice.length_bounded
  rw [readUint.eq_def]
  split
  next => rfl
  next => exact readU32_eq offset finish
  next =>
    rw [readU32_eq]
    refine of_bind fun high isHigh => ?_
    have inside := (readBigEndian_ok isHigh).2.1
    rw [add_eq (by omega), of_ok_bind, readU32_eq]
    exact of_bind fun _ _ => rfl
  next isZero isFour isEight => rw [Container.readUint.eq_4 _ _ _ _ isZero isFour isEight]

theorem readFourcc_eq (offset finish : Nat) :
    readFourcc slice offset finish = .of (Container.readFourcc slice offset finish) := by
  have whole : Container.readFourcc slice offset finish =
      (Container.read slice offset 4 finish >>= fun bytes => .ok bytes) := by
    rw [Container.readFourcc]
    cases Container.read slice offset 4 finish <;> rfl
  rw [readFourcc, read_eq, whole]
  refine of_bind fun bytes isBytes => ?_
  obtain ⟨_, _, _, isWidth⟩ := read_ok isBytes
  rw [← isWidth, indexes_all]

theorem readCstring_eq (offset finish : Nat) :
    readCstring slice offset finish = .of (Container.readCstring slice offset finish) := by
  have limit := slice.length_bounded
  refine of_bind fun _ inside => ?_
  rw [rejectIf_eq_ok, not_or, Nat.not_lt, Nat.not_lt] at inside
  have length : (slice.part offset (finish - offset)).length = finish - offset :=
    Slice.part_length (by omega)
  rw [get_eq inside.1 inside.2, of_ok_bind]
  have bound := inside.2
  generalize slice.part offset (finish - offset) = rest at length
  dsimp only
  cases found : rest.findIdx? (· == 0) with
  | some position =>
    have within : position < rest.length := (List.findIdx?_eq_some_iff_getElem.mp found).1
    simp only
    rw [range_eq (Nat.zero_le _) (Nat.le_of_lt within), of_ok_bind, add_eq (by omega), of_ok_bind,
      add_eq (by omega), of_ok_bind, List.drop_zero]
    rfl
  | none =>
    simp only
    split
    next isNil =>
      subst isNil
      rfl
    next notNil =>
      have positive := List.length_pos_iff.mpr notNil
      rw [sub_eq positive, of_ok_bind, range_eq (Nat.zero_le _) (Nat.sub_le _ _), of_ok_bind,
        List.drop_zero, List.dropLast_eq_take]
      rfl

/-! ## Headers -/

theorem boxLengths_eq {offset limit : Nat} (order : offset ≤ limit) (size : Nat) :
    boxLengths slice offset limit size = .of (Container.boxLengths slice offset limit size) := by
  simp only [boxLengths, Container.boxLengths]
  split
  next =>
    rw [sub_eq order, of_ok_bind]
    rfl
  next =>
    split
    next =>
      refine of_bind fun start _ => ?_
      rw [read_eq]
      refine of_bind fun large isLarge => ?_
      rw [sized_eq (read_ok isLarge).2.2.2, of_ok_bind]
      rfl
    next => rfl

theorem boxLengths_le {offset limit size : Nat} {lengths : Nat × Nat}
    (reads : Container.boxLengths slice offset limit size = .ok lengths) : lengths.2 ≤ 16 := by
  simp only [Container.boxLengths] at reads
  split at reads
  next =>
    cases reads
    change 8 ≤ 16
    decide
  next =>
    split at reads
    next =>
      simp only [bind_eq_ok, pure_eq_ok] at reads
      obtain ⟨_, _, _, _, rfl⟩ := reads
      exact Nat.le_refl 16
    next =>
      cases reads
      change 8 ≤ 16
      decide

theorem readHeader_eq (offset limit : Nat) :
    readHeader slice offset limit = .of (Container.readHeader slice offset limit) := by
  rw [readHeader, read_eq]
  refine of_bind fun header isHeader => ?_
  obtain ⟨within, _, _, length⟩ := read_ok isHeader
  have front : 0 + 4 ≤ header.length := by omega
  have back : 4 + 4 ≤ header.length := by omega
  have size : indexes header [0, 1, 2, 3] = .of (.ok (header.take 4)) := indexes_eq front
  have kind : indexes header [4, 5, 6, 7] = .of (.ok (header.drop 4)) := by
    have tail : (header.drop 4).take 4 = header.drop 4 := by
      rw [List.take_of_length_le]
      simp [length]
    rw [← tail]
    exact indexes_eq back
  rw [size, of_ok_bind, kind, of_ok_bind, boxLengths_eq (by omega)]
  refine of_bind fun lengths isLengths => ?_
  have bound := boxLengths_le isLengths
  obtain ⟨boxLength, headerLength⟩ := lengths
  have isLength : (if header.drop 4 = fourcc 'u' 'u' 'i' 'd' then add headerLength 16
      else pure headerLength : Task Nat) =
      .of (.ok (if header.drop 4 = fourcc 'u' 'u' 'i' 'd' then headerLength + 16 else headerLength)) := by
    split
    next => exact add_eq (by simp only at bound; omega)
    next => rfl
  simp only
  rw [isLength, of_ok_bind]
  exact of_bind fun _ _ => of_bind fun bodyStart _ => of_bind fun bodyEnd _ => of_bind fun _ _ => rfl

/-! ## Boxes without children -/

theorem readInfe_eq (header : Header) :
    readInfe slice header = .of (Container.readInfe slice header) := by
  have limit := slice.length_bounded
  rw [readInfe, readU8_eq]
  refine of_bind fun version isVersion => of_bind fun _ _ => ?_
  have start := (readBigEndian_ok isVersion).2.1
  rw [add_eq (by omega), of_ok_bind]
  split
  next =>
    rw [readU16_eq]
    refine of_bind fun id isId => ?_
    have inside := (readBigEndian_ok isId).2.1
    rw [add_eq (by omega), of_ok_bind, add_eq (by omega), of_ok_bind, readCstring_eq]
    refine of_bind fun name _ => ?_
    rw [readCstring_eq]
    refine of_bind fun contentType _ => ?_
    rw [readCstring_eq]
    exact of_bind fun _ _ => rfl
  next =>
    simp only
    generalize width : (if version = 2 then 2 else 4) = idSize
    have small : idSize ≤ 4 := by
      rw [← width]
      split <;> omega
    rw [readBigEndian_eq]
    refine of_bind fun id isId => ?_
    have inside := (readBigEndian_ok isId).2.1
    rw [add_eq (by omega), of_ok_bind, add_eq (by omega), of_ok_bind, readFourcc_eq]
    refine of_bind fun itemType isType => ?_
    have insideType := (read_ok isType).2.1
    rw [add_eq (by omega), of_ok_bind, readCstring_eq]
    refine of_bind fun name _ => ?_
    have last : ∀ contentType : List UInt8 × Nat,
        (do
          let _ ← (if itemType = fourcc 'u' 'r' 'i' ' ' then readCstring slice contentType.2 header.bodyEnd
            else pure ([], contentType.2))
          pure (id, itemType, contentType.1) : Task (Nat × List UInt8 × List UInt8)) =
        .of (do
          let _ ← if itemType = fourcc 'u' 'r' 'i' ' '
            then Container.readCstring slice contentType.2 header.bodyEnd else pure ([], contentType.2)
          pure (id, itemType, contentType.1)) := by
      intro contentType
      split
      next =>
        rw [readCstring_eq]
        exact of_bind fun _ _ => rfl
      next => rfl
    by_cases isMime : itemType = mime
    · simp only [if_pos isMime]
      rw [readCstring_eq]
      exact of_bind fun contentType _ => last contentType
    · simp only [if_neg isMime]
      exact (of_ok_bind _ _).trans (last ([], name.2))

theorem readFields_eq (header : Header) :
    readFields slice header = .of (Container.readFields slice header) := by
  have limit := slice.length_bounded
  rw [readFields, readU8_eq]
  refine of_bind fun version isVersion => of_bind fun _ _ => ?_
  have start := (readBigEndian_ok isVersion).2.1
  rw [add_eq (by omega), of_ok_bind, readU16_eq]
  exact of_bind fun widths _ => of_bind fun _ _ => rfl

theorem irefList_eq {budget : Budget} {idSize : Nat} (small : idSize ≤ 4) {child : Header}
    (covers : child.bodyStart ≤ child.bodyEnd) (bound : child.bodyEnd ≤ slice.length) (references : Nat) :
    irefList slice budget idSize child references =
      .of (Container.irefList slice budget idSize child references) := by
  have limit := slice.length_bounded
  rw [irefList, add_eq (by omega), of_ok_bind, readU16_eq]
  refine of_bind fun count isCount => of_bind fun _ _ => of_bind fun counted _ => ?_
  have few : count < 256 ^ 2 := (readBigEndian_ok isCount).2.2
  have ids : count * idSize ≤ count * 4 := Nat.mul_le_mul_left count small
  rw [add_eq (by omega), of_ok_bind, mul_eq (by omega), of_ok_bind, add_eq (by omega), of_ok_bind]
  exact of_bind fun expected _ => of_bind fun _ _ => rfl

theorem trefCheck_eq (finish offset : Nat) :
    trefCheck slice finish offset = .of (Container.trefCheck slice finish offset) := by
  rw [trefCheck, read_eq, Container.trefCheck, Container.readU32, Container.readBigEndian, bind_assoc]
  refine of_bind fun bytes isBytes => ?_
  rw [sized_eq (read_ok isBytes).2.2.2, of_ok_bind]
  rfl

theorem trefList_eq {budget : Budget} {child : Header} (covers : child.bodyStart ≤ child.bodyEnd)
    (references : Nat) :
    trefList budget child references = .of (Container.trefList budget child references) := by
  rw [trefList, sub_eq covers, of_ok_bind]
  exact of_bind fun _ _ => of_bind fun _ _ => rfl

theorem readFtyp_eq {header : Header} (covers : header.bodyStart ≤ header.bodyEnd) :
    readFtyp slice header = .of (Container.readFtyp slice header) := by
  rw [readFtyp, sub_eq covers, of_ok_bind, read_eq]
  refine of_bind fun body _ => of_bind fun _ long => ?_
  rw [rejectIf_eq_ok, Nat.not_lt] at long
  rw [range_eq (Nat.zero_le _) (by omega), of_ok_bind, List.drop_zero]
  split
  next isSequence =>
    simp only [isSequence, Bool.true_or]
    rfl
  next notSequence =>
    rw [range_eq long (Nat.le_refl _), of_ok_bind, List.take_length, List.length_drop]
    simp only [List.drop_drop, notSequence, Bool.false_or]
    rfl

theorem readColr_eq {header : Header} (covers : header.bodyStart ≤ header.bodyEnd) :
    readColr slice header = .of (Container.readColr slice header) := by
  rw [readColr, sub_eq covers, of_ok_bind, read_eq]
  refine of_bind fun body _ => of_bind fun _ long => ?_
  rw [rejectIf_eq_ok, Nat.not_lt] at long
  rw [range_eq (Nat.zero_le _) long, of_ok_bind, List.drop_zero]

end

end Genkan.DynamicWallpaper.Container.Audited
