import Genkan.DynamicWallpaper.ColorProfileBudget
import Genkan.DynamicWallpaper.PropertyListSafety
import Genkan.Foundations.Lists

/-! # The preflight of a colour profile is safe on all bytes

A turn over the records either counts a record or ends the walk of its tag, so that the turns are within
two for a tag and one for a record that the limits allow.
-/

namespace Genkan.DynamicWallpaper.Heic.Audited

open Foundations Foundations.Audit Foundations.Bytes Foundations.Metered Foundations.Results

variable {limit count : Nat} {limits : Limits} {tag profile : Slice} {charges : Charges}

/-! ## Integers -/

theorem word_eq {bytes : List UInt8} {start : Nat} (within : start + 4 ≤ bytes.length)
    (memory : bytes.length < 2 ^ 63) :
    word bytes start = .of (.ok (ofBigEndian ((bytes.drop start).take 4))) := by
  have byte : ∀ position, position < 4 → byteAt bytes start position = .of (.ok (bytes.getD (start + position) 0)) := by
    intro position inside
    rw [byteAt, add_eq (by omega), of_ok_bind]
    exact index_getD (by omega) 0
  rw [word, byte 0 (by decide), of_ok_bind, byte 1 (by decide), of_ok_bind, byte 2 (by decide), of_ok_bind,
    byte 3 (by decide), of_ok_bind, Lists.take_four 0 within]
  rfl

theorem word_number {slice : Slice} {start : Nat} (within : start + 4 ≤ slice.length) :
    word slice.bytes start = .of (.ok (number slice start 4)) :=
  word_eq within slice.bounded

theorem get_length {slice : Slice} {start length : Nat} {bytes : List UInt8}
    (found : slice.get start (start + length) = some bytes) : bytes.length = length := by
  rw [Slice.get] at found
  split at found
  next inside => rw [← Option.some.inj found, Slice.part_length (by omega), Nat.add_sub_cancel_left]
  next => contradiction

theorem range_eq {slice : Slice} {start finish : Nat} (order : start ≤ finish) (within : finish ≤ slice.length) :
    range slice start finish = .of (.ok (slice.between start finish)) := by
  rw [range, if_pos ⟨order, within⟩]
  rfl

/-! ## Records -/

/-- A record that fits is counted, and the count stays within the limit. -/
theorem chargeIccRecord_counts {offset length : Nat} {fits : Bool} {result : Charges}
    (room : charges.2 + 1 < 2 ^ 64) (charged : chargeIccRecord tag offset length limits charges = .ok (fits, result)) :
    (fits = false ∧ result = charges) ∨
      (fits = true ∧ result.2 = charges.2 + 1 ∧ result.2 ≤ limits.maxColorProfileTextRecords.toNat) := by
  have counts : saturatingAdd charges.2 1 = charges.2 + 1 := Nat.min_eq_left (Nat.le_sub_one_of_lt room)
  rw [chargeIccRecord] at charged
  split at charged
  next =>
    cases charged
    exact .inl ⟨rfl, rfl⟩
  next =>
    simp only [countIccRecord, chargeIccTextBytes, bind_eq_ok, pure_eq_ok, rejectIf_eq_ok, exists_const, counts,
      Nat.not_lt, Prod.mk.injEq] at charged
    obtain ⟨counted, ⟨few, isCounted⟩, text, ⟨total, _, _, isText⟩, isTrue, isResult⟩ := charged
    subst isCounted isText isResult
    exact .inr ⟨isTrue.symm, rfl, few⟩

theorem chargeIccRecords_meets {remaining record : Nat} (counted : charges.2 ≤ limits.maxColorProfileTextRecords.toNat)
    (room : charges.2 + remaining < 2 ^ 64) (bounded : record + remaining ≤ 2 ^ 32)
    (within : count + (limits.maxColorProfileTextRecords.toNat - charges.2) + 1 ≤ limit) :
    Meets (account limit) count (chargeIccRecords tag limits remaining record charges)
      (Heic.chargeIccRecords tag limits remaining record charges)
      fun reached result => reached + charges.2 ≤ count + result.2 + 1 := by
  induction remaining generalizing record charges count with
  | zero => exact .pure (by omega)
  | succ remaining inductionHypothesis =>
    have product : saturatingMul (record - 1) 12 ≤ 2 ^ 32 * 12 :=
      Nat.le_trans (Nat.min_le_left _ _) (Nat.mul_le_mul_right 12 (by omega))
    have ended : count + 1 + charges.2 ≤ count + charges.2 + 1 := by omega
    rw [chargeIccRecords, Heic.chargeIccRecords]
    refine .log trivial ?_
    change Meets (account limit) (count + 1) _ _ _
    cases isStart : checkedAdd 28 (saturatingMul (record - 1) 12) with
    | none => exact .pure ended
    | some start =>
      obtain ⟨rfl, _⟩ := checkedAdd_eq_some.mp isStart
      simp only [Option.bind_some]
      rw [add_eq (by omega), of_ok_bind]
      cases isHeader : tag.get _ _ with
      | none => exact .pure ended
      | some header =>
        have length : header.length = 12 := get_length isHeader
        simp only
        rw [word_eq (by omega) (by omega), of_ok_bind, word_eq (by omega) (by omega), of_ok_bind]
        refine .of_bind (show count + 1 ≤ limit by omega) ?_
        rintro ⟨fits, next⟩ charged
        cases chargeIccRecord_counts (by omega) charged with
        | inl ends =>
          obtain ⟨rfl, rfl⟩ := ends
          exact .pure ended
        | inr continues =>
          obtain ⟨rfl, isNext, few⟩ := continues
          refine (inductionHypothesis few (by omega) (by omega) (by omega)).mono ?_
          intro reached result _ paid
          omega

theorem chargeLocalized_meets (counted : charges.2 ≤ limits.maxColorProfileTextRecords.toNat)
    (room : charges.2 + 2 ^ 32 < 2 ^ 64)
    (within : count + (limits.maxColorProfileTextRecords.toNat - charges.2) + 1 ≤ limit) :
    Meets (account limit) count (chargeLocalized tag limits charges) (Heic.chargeLocalized tag limits charges)
      fun reached result => reached + charges.2 ≤ count + result.2 + 1 := by
  have declared := number_small tag 8
  rw [chargeLocalized, Heic.chargeLocalized]
  split
  next => exact .pure (by omega)
  next long =>
    rw [word_number (by omega), of_ok_bind, word_number (by omega), of_ok_bind, word_number (by omega), of_ok_bind]
    refine .of_bind (show count ≤ limit by omega) ?_
    rintro ⟨fits, next⟩ charged
    cases chargeIccRecord_counts (by omega) charged with
    | inl ends =>
      obtain ⟨rfl, rfl⟩ := ends
      exact .pure (by omega)
    | inr continues =>
      obtain ⟨rfl, isNext, few⟩ := continues
      refine (chargeIccRecords_meets few (by omega) (by omega) (by omega)).mono ?_
      intro reached result _ paid
      omega

/-! ## Descriptions -/

theorem chargeUnicode_eq {asciiEnd : Nat} (inside : asciiEnd ≤ tag.length) :
    chargeUnicode tag asciiEnd limits charges = .of (Heic.chargeUnicode tag asciiEnd limits charges) := by
  have memory := tag.length_bounded
  rw [chargeUnicode, Heic.chargeUnicode, add_eq (by omega), of_ok_bind]
  cases isHeader : tag.get asciiEnd (asciiEnd + 8) with
  | none => rfl
  | some header =>
    have length : header.length = 8 := get_length isHeader
    refine of_bind fun counted _ => ?_
    rw [word_eq (by omega) (by omega), of_ok_bind]
    have isField : ofBigEndian ((header.drop 4).take 4) = field header 4 := rfl
    rw [isField]
    cases checkedMul (field header 4) 2 with
    | none => rfl
    | some encoded =>
      simp only
      split
      next => rfl
      next => rfl

theorem chargeDescription_eq :
    chargeDescription tag limits charges = .of (Heic.chargeDescription tag limits charges) := by
  rw [chargeDescription, Heic.chargeDescription]
  split
  next => rfl
  next long =>
    rw [word_number (by omega), of_ok_bind]
    simp only
    cases checkedAdd 12 (number tag 8 4) with
    | none => rfl
    | some asciiEnd =>
      simp only
      split
      next => rfl
      next inside => exact of_bind fun counted _ => chargeUnicode_eq (Nat.not_lt.mp inside)

/-! ## Tags -/

/-- A text of any kind takes at most one turn more than the records that it counts. -/
theorem chargeIccText_meets (kind : tag.part 0 4 ∈ iccTextTypes) (small : Small tag.length)
    (spent : charges ≤ limits.charges) (room : charges.2 + 2 ^ 32 < 2 ^ 64)
    (within : count + (limits.maxColorProfileTextRecords.toNat - charges.2) + 1 ≤ limit) :
    Meets (account limit) count (chargeIccText tag limits charges) (Heic.chargeIccText tag limits charges)
      fun reached result => reached + charges.2 ≤ count + result.2 + 1 := by
  have fits : count ≤ limit := by omega
  have long : 4 ≤ tag.length := by
    have fourBytes : ∀ kind ∈ iccTextTypes, kind.length = 4 := by decide
    have four := fourBytes _ kind
    rw [Slice.part, List.drop_zero, List.length_take] at four
    change 4 ≤ tag.bytes.length
    omega
  -- No charge is taken back, which bounds the turns by the records that were counted.
  have grows : ∀ result, Heic.chargeIccText tag limits charges = .ok result → charges.2 ≤ result.2 := by
    intro result charged
    have records := tagRecords_small tag
    have inRoom : charges + tagCost tag ∈ countable := show charges.2 + tagRecords tag < usizeLimit by
      rw [usizeLimit]
      omega
    obtain ⟨_, _, rfl⟩ := (chargeIccText_meters small kind charges result spent inRoom).mp charged
    exact Nat.le_add_right _ _
  rw [Heic.chargeIccText] at grows ⊢
  rw [chargeIccText, range_eq (Nat.zero_le 4) long, of_ok_bind]
  change Meets _ _ (if tag.part 0 4 = localizedType then _ else if tag.part 0 4 = descriptionType then _ else _) _ _
  by_cases localized : tag.part 0 4 = localizedType
  · rw [if_pos localized, if_pos localized]
    exact chargeLocalized_meets spent.2 room within
  · -- The other kinds have no loops.
    have quiet : ∀ plain : Except Error Charges, (∀ result, plain = .ok result → charges.2 ≤ result.2) →
        Meets (account limit) count (.of plain) plain
          (fun reached result => reached + charges.2 ≤ count + result.2 + 1) := by
      intro plain grows
      have fitsAccount : count ≤ (account limit).limit := fits
      refine Meets.of fitsAccount ?_
      intro result charged
      have more := grows result charged
      omega
    rw [if_neg localized] at grows
    rw [if_neg localized, if_neg localized]
    by_cases description : tag.part 0 4 = descriptionType
    · rw [if_pos description] at grows
      rw [if_pos description, if_pos description, chargeDescription_eq]
      exact quiet _ grows
    · rw [if_neg description] at grows
      rw [if_neg description, if_neg description]
      exact quiet _ grows

theorem chargeIccTag_meets {position : Nat} (small : Small profile.length)
    (inTable : 132 + position * 12 + 12 ≤ profile.length) (spent : charges ≤ limits.charges)
    (room : charges.2 + 2 ^ 32 < 2 ^ 64)
    (within : count + (limits.maxColorProfileTextRecords.toNat - charges.2) + 1 ≤ limit) :
    Meets (account limit) count (chargeIccTag profile limits charges position)
      (Heic.chargeIccTag profile limits charges position)
      fun reached result => reached + charges.2 ≤ count + result.2 + 1 := by
  have fits : count ≤ limit := by omega
  rw [chargeIccTag, mul_eq (by omega), of_ok_bind, add_eq (by omega), of_ok_bind, add_eq (by omega), of_ok_bind,
    word_number (by omega), of_ok_bind, add_eq (by omega), of_ok_bind, word_number (by omega), of_ok_bind]
  refine .of_bind fits fun finish isFinish => .of_bind fits fun _ inside => ?_
  rw [rejectIf_eq_ok, not_or, Nat.not_lt, Nat.not_lt] at inside
  have order : number profile (132 + position * 12 + 4) 4 ≤ finish := by
    rw [iccTagEnd] at isFinish
    split at isFinish
    next => exact Except.ok.inj isFinish ▸ inside.1
    next =>
      rw [okOr_eq_ok, checkedAdd_eq_some] at isFinish
      exact isFinish.1 ▸ Nat.le_add_right _ _
  have shorter : (profile.between (number profile (132 + position * 12 + 4) 4) finish).length ≤ profile.length := by
    rw [Slice.length_between order inside.2]
    exact Nat.le_trans (Nat.sub_le _ _) inside.2
  rw [range_eq order inside.2, of_ok_bind]
  simp only [tag_kind]
  split
  next kind => exact chargeIccText_meets kind (Nat.lt_of_le_of_lt shorter small) spent room within
  next => exact .pure (by omega)

/-! ## The profile -/

/-- Two turns for each tag, and one for each record. -/
def colorProfileTurns (limits : Limits) : Nat :=
  limits.maxColorProfileTags.toNat * 2 + limits.maxColorProfileTextRecords.toNat

/-- Before the tags at these positions: they are in the table, the charges are within the limits and have
room for the records of these tags, and so do the turns. -/
structure Remaining (profile : Slice) (limits : Limits) (positions : List Nat) (count : Nat)
    (charges : Charges) : Prop where
  inTable : ∀ position ∈ positions, position < tagCount profile
  spent : charges ≤ limits.charges
  room : charges.2 + positions.length * 2 ^ 32 < 2 ^ 64
  turns : count + positions.length * 2 + (limits.maxColorProfileTextRecords.toNat - charges.2) ≤
    colorProfileTurns limits

theorem Remaining.turn {position : Nat} {positions : List Nat} (small : Small profile.length)
    (table : 132 + tagCount profile * 12 ≤ profile.length)
    (remaining : Remaining profile limits (position :: positions) count charges) :
    Meets (account (colorProfileTurns limits)) (count + 1) (chargeIccTag profile limits charges position)
      (Heic.chargeIccTag profile limits charges position) (Remaining profile limits positions) := by
  obtain ⟨inTable, spent, room, turns⟩ := remaining
  obtain ⟨placed, rest⟩ := List.forall_mem_cons.mp inTable
  rw [List.length_cons] at room turns
  refine (chargeIccTag_meets small (by omega) spent (by omega) (by omega)).mono ?_
  intro reached result charged paid
  have records := tagRecords_small (tagAt profile position)
  have inRoom : charges + tagCost (tagAt profile position) ∈ countable :=
    show charges.2 + tagRecords (tagAt profile position) < usizeLimit by
      rw [usizeLimit]
      omega
  obtain ⟨_, within, isSum⟩ := (chargeIccTag_meters small position charges result spent inRoom).mp charged
  have isRecords : result.2 = charges.2 + tagRecords (tagAt profile position) := congrArg Prod.snd isSum
  have few : result.2 ≤ limits.maxColorProfileTextRecords.toNat := isSum ▸ within.2
  exact ⟨rest, isSum ▸ within, by omega, by omega⟩

theorem preflightIccProfile_meets (profile : Slice) (limits : Limits) :
    Meets (account (colorProfileTurns limits)) 0 (preflightIccProfile profile limits)
      (Heic.preflightIccProfile profile limits) fun reached _ => reached ≤ colorProfileTurns limits := by
  have fits : 0 ≤ colorProfileTurns limits := Nat.zero_le _
  have declared := number_small profile 128
  refine .of_bind fits fun _ long => ?_
  rw [rejectIf_eq_ok, Nat.not_lt] at long
  rw [word_number (by omega), of_ok_bind]
  refine .of_bind fits fun _ extent => ?_
  rw [rejectIf_eq_ok, Classical.not_not] at extent
  have small : Small profile.length := extent ▸ number_small profile 0
  rw [word_number (by omega), of_ok_bind]
  refine .of_bind fits fun _ few => .of_bind fits fun tableEnd isEnd => .of_bind fits fun _ table => ?_
  rw [rejectIf_eq_ok, Nat.not_lt] at few table
  rw [okOr_eq_ok, Option.bind_eq_some_iff] at isEnd
  obtain ⟨size, isSize, isEnd⟩ := isEnd
  rw [checkedMul_eq_some] at isSize
  rw [checkedAdd_eq_some] at isEnd
  have tableFits : 132 + tagCount profile * 12 ≤ profile.length := by
    rw [tagCount]
    omega
  have start : Remaining profile limits (List.range (tagCount profile)) 0 (0, 0) := by
    have length : (List.range (tagCount profile)).length = number profile 128 4 := List.length_range
    refine ⟨fun position member => List.mem_range.mp member, ⟨Nat.zero_le _, Nat.zero_le _⟩, ?_, ?_⟩
    · rw [length]
      omega
    · rw [length, colorProfileTurns]
      omega
  refine Meets.bind (Meets.loop (Remaining profile limits) trivial ?_ start) ?_
  · intro position positions count charges remaining
    exact remaining.turn small tableFits
  · intro reached charges _ remaining
    have turns := remaining.turns
    exact .pure (by omega)

/-- On all bytes and for all limits both preflights return what the plain ones do, so that they do not
panic and their loops end, and the loops have no more turns than the limits allow. -/
theorem preflights_safe (slice : Slice) (limits : Limits) :
    (∃ events, preflightBinaryPlist slice limits = some (events, Heic.preflightBinaryPlist slice limits) ∧
      events.length ≤ propertyListTurns limits) ∧
    (∃ events, preflightIccProfile slice limits = some (events, Heic.preflightIccProfile slice limits) ∧
      events.length ≤ colorProfileTurns limits) := by
  constructor
  · exact turns_le (preflightBinaryPlist_meets slice limits)
  · exact turns_le (preflightIccProfile_meets slice limits)

end Genkan.DynamicWallpaper.Heic.Audited
