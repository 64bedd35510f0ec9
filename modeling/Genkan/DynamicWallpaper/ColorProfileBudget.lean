import Genkan.DynamicWallpaper.ColorProfile
import Genkan.Foundations.Metered
import Mathlib.Algebra.Order.BigOperators.Group.List
import Mathlib.Algebra.Order.Group.Nat

/-! # What a colour profile may make its parser decode

A profile conforms when its extent, its tags and the sums of its records and of its decoded texts are
within bounds.  The preflight accepts exactly these profiles.
-/

namespace Genkan.DynamicWallpaper.Heic

open Foundations.Bytes Foundations.Metered Foundations.Results

/-! ## The texts of a tag -/

/-- What the parser decodes: bytes as UTF-16, or bytes as UTF-8 with replacements. -/
inductive TextRange where
  | utf16 (bytes : Nat)
  | lossy (bytes : Nat)
  deriving DecidableEq, Repr

/-- The worst case.  A unit of two bytes decodes to three, and so does a byte that is replaced. -/
def TextRange.decodedSize : TextRange → Nat
  | utf16 bytes => bytes * 3 / 2
  | lossy bytes => bytes * 3

/-- All records have the layout of the first: the header of each is twelve bytes after the one before. -/
def recordLength (tag : Slice) (record : Nat) : Nat := number tag (20 + record * 12) 4

def recordOffset (tag : Slice) (record : Nat) : Nat := number tag (24 + record * 12) 4

/-- The header and the text of the record are in the tag. -/
def RecordFits (tag : Slice) (record : Nat) : Prop :=
  28 + record * 12 ≤ tag.length ∧ recordOffset tag record + recordLength tag record ≤ tag.length

instance (tag : Slice) (record : Nat) : Decidable (RecordFits tag record) := instDecidableAnd

/-- The records before the first that does not fit; one is read whatever is declared. -/
def reachedRecords (tag : Slice) : List Nat :=
  (List.range (max 1 (number tag 8 4))).takeWhile fun record => RecordFits tag record

def asciiEnd (tag : Slice) : Nat := 12 + number tag 8 4

def unicodeBytes (tag : Slice) : Nat := number tag (asciiEnd tag + 4) 4 * 2

def descriptionTexts (tag : Slice) : List TextRange :=
  if asciiEnd tag ≤ tag.length then
    .lossy (number tag 8 4) ::
      if asciiEnd tag + 8 + unicodeBytes tag ≤ tag.length then [.utf16 (unicodeBytes tag)] else []
  else []

def tagTexts (tag : Slice) : List TextRange :=
  if tag.part 0 4 = localizedType then (reachedRecords tag).map fun record => .utf16 (recordLength tag record)
  else if tag.part 0 4 = descriptionType then descriptionTexts tag
  else if tag.part 0 4 = textType then [.lossy (tag.length - 8)]
  else []

/-- The Unicode section of a description is a record as soon as its header is there. -/
def tagRecords (tag : Slice) : Nat :=
  if tag.part 0 4 = localizedType then (reachedRecords tag).length
  else if tag.part 0 4 = descriptionType then if asciiEnd tag + 8 ≤ tag.length then 1 else 0
  else 0

/-! ## Conforming profiles -/

def tagCount (profile : Slice) : Nat := number profile 128 4

def tagStart (profile : Slice) (index : Nat) : Nat := number profile (136 + index * 12) 4

def tagFinish (profile : Slice) (index : Nat) : Nat :=
  if number profile (140 + index * 12) 4 = 0 then profile.length
  else tagStart profile index + number profile (140 + index * 12) 4

/-- The tag lies inside the profile. -/
def TagInside (profile : Slice) (index : Nat) : Prop :=
  tagStart profile index ≤ profile.length ∧ tagFinish profile index ≤ profile.length

instance (profile : Slice) (index : Nat) : Decidable (TagInside profile index) := instDecidableAnd

def tagAt (profile : Slice) (index : Nat) : Slice :=
  profile.between (tagStart profile index) (tagFinish profile index)

def tags (profile : Slice) : List Slice := (List.range (tagCount profile)).map (tagAt profile)

/-- The records are counted by `recordsOf`. -/
structure Conforms (recordsOf : Slice → Nat) (profile : Slice) (limits : Limits) : Prop where
  extent : number profile 0 4 = profile.length
  count : tagCount profile ≤ limits.maxColorProfileTags.toNat
  table : 132 + tagCount profile * 12 ≤ profile.length
  inside : ∀ index < tagCount profile, TagInside profile index
  records : ((tags profile).map recordsOf).sum ≤ limits.maxColorProfileTextRecords.toNat
  text : (((tags profile).flatMap tagTexts).map TextRange.decodedSize).sum ≤
    limits.maxColorProfileTextBytes.toNat

/-! ## Charging -/

/-- The limits on text and records. -/
def Limits.charges (limits : Limits) : Charges :=
  (limits.maxColorProfileTextBytes.toNat, limits.maxColorProfileTextRecords.toNat)

/-- The count of records has room in its machine integer. -/
def countable : LowerSet Charges where
  carrier := { charges | charges.2 < usizeLimit }
  lower' := fun _ _ below counts => Nat.lt_of_le_of_lt below.2 counts

variable {limits : Limits}

theorem chargeIccTextBytes_meters (limits : Limits) (decoded : Nat) :
    Meters limits.charges countable True (decoded, 0) (chargeIccTextBytes decoded limits) := by
  rintro ⟨text, records⟩ ⟨resultText, resultRecords⟩ within _
  have machine := limits.maxColorProfileTextBytes.toNat_lt
  simp only [Limits.charges, Prod.mk_le_mk, Prod.mk_add_mk, Nat.add_zero, Prod.mk.injEq] at within ⊢
  simp only [chargeIccTextBytes, bind_eq_ok, pure_eq_ok, okOr_eq_ok, rejectIf_eq_ok, exists_const,
    checkedAdd_eq_some, Nat.not_lt, Prod.mk.injEq]
  constructor
  · intro succeeds
    obtain ⟨total, ⟨rfl, _⟩, fits, isText, isRecords⟩ := succeeds
    exact ⟨trivial, ⟨fits, within.2⟩, isText.symm, isRecords.symm⟩
  · intro holds
    obtain ⟨_, ⟨fits, _⟩, isText, isRecords⟩ := holds
    exact ⟨_, ⟨rfl, Nat.lt_of_le_of_lt fits machine⟩, fits, isText.symm, isRecords.symm⟩

theorem countIccRecord_meters : Meters limits.charges countable True (0, 1) (countIccRecord limits) := by
  rintro ⟨text, records⟩ ⟨resultText, resultRecords⟩ within inRoom
  have counts : saturatingAdd records 1 = records + 1 := by
    have below : records + 1 < usizeLimit := inRoom
    exact Nat.min_eq_left (Nat.le_sub_one_of_lt below)
  simp only [Limits.charges, Prod.mk_le_mk, Prod.mk_add_mk, Nat.add_zero, Prod.mk.injEq] at within ⊢
  simp only [countIccRecord, bind_eq_ok, pure_eq_ok, rejectIf_eq_ok, exists_const, counts, Nat.not_lt,
    Prod.mk.injEq]
  constructor
  · intro succeeds
    obtain ⟨fits, isText, isRecords⟩ := succeeds
    exact ⟨trivial, ⟨within.1, fits⟩, isText.symm, isRecords.symm⟩
  · intro holds
    obtain ⟨_, ⟨_, fits⟩, isText, isRecords⟩ := holds
    exact ⟨fits, isText.symm, isRecords.symm⟩

/-- Nothing is charged. -/
theorem uncharged : Meters limits.charges countable True 0 (Except.ok : Charges → Except Error Charges) :=
  .free

/-! ## Records -/

/-- Sizes of a tag are below this, since those of its profile are declared in 32 bits. -/
abbrev Small (size : Nat) : Prop := size < 2 ^ 32

theorem number_small (slice : Slice) (start : Nat) : Small (number slice start 4) := number_lt slice start 4

theorem utf16TextBound_eq {bytes : Nat} (small : Small bytes) : utf16TextBound bytes = bytes * 3 / 2 := by
  rw [utf16TextBound, saturatingMul, usizeLimit, Nat.min_eq_left (by omega)]

theorem lossyTextBound_eq {bytes : Nat} (small : Small bytes) : lossyTextBound bytes = bytes * 3 := by
  rw [lossyTextBound, saturatingMul, usizeLimit, Nat.min_eq_left (by omega)]

theorem field_part (slice : Slice) (start : Nat) {length position : Nat} (within : position + 4 ≤ length) :
    field (slice.part start length) position = number slice (start + position) 4 := by
  rw [field, number, Slice.part, Slice.part, List.drop_take, List.drop_drop, List.take_take,
    Nat.min_eq_left (by omega)]

theorem ends_past {left right finish : Nat} (small : left + right < usizeLimit) :
    (checkedAdd left right).all (finish < ·) = decide (finish < left + right) := by
  rw [checkedAdd, if_pos small, Option.all_some]

/-- The code after a record runs where the record fits. -/
theorem chargeIccRecord_meters (tag : Slice) {offset length : Nat} (offsetSmall : Small offset)
    (lengthSmall : Small length) {cost : Charges} {next : Charges → Except Error Charges}
    (continues : Meters limits.charges countable True cost next) :
    Meters limits.charges countable True
      (if offset + length ≤ tag.length then (length * 3 / 2, 1) + cost else 0) (fun charges => do
        let (fits, charges) ← chargeIccRecord tag offset length limits charges
        if fits then next charges else pure charges) := by
  have total : offset + length < usizeLimit := by
    rw [usizeLimit]
    omega
  simp only [chargeIccRecord, ends_past total, decide_eq_true_eq, utf16TextBound_eq lengthSmall]
  by_cases fits : offset + length ≤ tag.length
  · have counted := countIccRecord_meters.andThen (chargeIccTextBytes_meters limits (length * 3 / 2))
    have all := counted.andThen continues
    have sum : ((0, 1) + (length * 3 / 2, 0) : Charges) = (length * 3 / 2, 1) := by
      rw [Prod.mk_add_mk, Nat.zero_add]
    rw [if_pos fits, ← sum]
    simp only [if_neg (Nat.not_lt.mpr fits), bind_assoc, pure_bind, if_true] at all ⊢
    exact all
  · rw [if_neg fits]
    simp only [if_pos (Nat.lt_of_not_le fits)]
    exact uncharged

def recordCost (tag : Slice) (record : Nat) : Charges := (recordLength tag record * 3 / 2, 1)

/-- The costs of the records that are reached, up to the first that does not fit. -/
def recordsCost (tag : Slice) (records : List Nat) : Charges :=
  ((records.takeWhile fun record => RecordFits tag record).map (recordCost tag)).sum

theorem recordsCost_cons (tag : Slice) (record : Nat) (records : List Nat) :
    recordsCost tag (record :: records) =
      if RecordFits tag record then recordCost tag record + recordsCost tag records else 0 := by
  rw [recordsCost, List.takeWhile_cons]
  by_cases fits : RecordFits tag record
  · rw [if_pos fits, if_pos (decide_eq_true fits), List.map_cons, List.sum_cons, recordsCost]
  · rw [if_neg fits, if_neg (by simpa using fits), List.map_nil, List.sum_nil]

/-- The header of the record, where it is in the tag. -/
theorem record_header (tag : Slice) {record : Nat} (bounded : record < 2 ^ 32) :
    ((checkedAdd 28 (saturatingMul (record + 1 - 1) 12)).bind fun start => tag.get start (start + 12)) =
      if 28 + (record + 1) * 12 ≤ tag.length then some (tag.part (28 + record * 12) 12) else none := by
  have product : saturatingMul (record + 1 - 1) 12 = record * 12 := by
    rw [saturatingMul, usizeLimit, Nat.add_sub_cancel, Nat.min_eq_left (by omega)]
  rw [product, checkedAdd, if_pos (by rw [usizeLimit]; omega), Option.bind_some, Slice.get]
  by_cases inside : 28 + (record + 1) * 12 ≤ tag.length
  · rw [if_pos (by omega), if_pos inside, Nat.add_sub_cancel_left]
  · rw [if_neg (by omega), if_neg inside]

/-- The loop from any record but the first. -/
theorem chargeIccRecords_meters (limits : Limits) (tag : Slice) {remaining record : Nat}
    (bounded : record + remaining < 2 ^ 32) :
    Meters limits.charges countable True (recordsCost tag (List.range' (record + 1) remaining))
      (chargeIccRecords tag limits remaining (record + 1)) := by
  induction remaining generalizing record with
  | zero => exact uncharged
  | succ remaining inductionHypothesis =>
    have header := record_header tag (show record < 2 ^ 32 by omega)
    rw [List.range'_succ, recordsCost_cons]
    by_cases inside : 28 + (record + 1) * 12 ≤ tag.length
    · have rest := inductionHypothesis (show record + 1 + remaining < 2 ^ 32 by omega)
      have continues := chargeIccRecord_meters tag (number_small tag (24 + (record + 1) * 12))
        (number_small tag (20 + (record + 1) * 12)) rest
      have lengthField : 28 + record * 12 + 4 = 20 + (record + 1) * 12 := by omega
      have offsetField : 28 + record * 12 + 8 = 24 + (record + 1) * 12 := by omega
      have fits : RecordFits tag (record + 1) ↔
          recordOffset tag (record + 1) + recordLength tag (record + 1) ≤ tag.length := and_iff_right inside
      rw [if_congr fits rfl rfl]
      refine continues.congr ?_
      intro charges
      rw [chargeIccRecords, header, if_pos inside]
      simp only [field_part tag (28 + record * 12) (show 4 + 4 ≤ 12 by decide),
        field_part tag (28 + record * 12) (show 8 + 4 ≤ 12 by decide), lengthField, offsetField]
    · rw [if_neg fun fits => inside fits.1]
      refine uncharged.congr ?_
      intro charges
      rw [chargeIccRecords, header, if_neg inside]

theorem chargeLocalized_meters (tag : Slice) :
    Meters limits.charges countable True (recordsCost tag (List.range (max 1 (number tag 8 4))))
      (chargeLocalized tag limits) := by
  have declared := number_small tag 8
  have split : max 1 (number tag 8 4) = number tag 8 4 - 1 + 1 := by omega
  have rest := chargeIccRecords_meters limits tag (show 0 + (number tag 8 4 - 1) < 2 ^ 32 by omega)
  have continues := chargeIccRecord_meters tag (number_small tag 24) (number_small tag 20) rest
  rw [split, List.range_eq_range', List.range'_succ, recordsCost_cons]
  by_cases short : tag.length < 28
  · have misses : ¬ RecordFits tag 0 := fun fits => Nat.not_lt.mpr fits.1 short
    rw [if_neg misses]
    refine uncharged.congr ?_
    intro charges
    rw [chargeLocalized, if_pos short]
  · have fits : RecordFits tag 0 ↔ recordOffset tag 0 + recordLength tag 0 ≤ tag.length :=
      and_iff_right (Nat.not_lt.mp short)
    rw [if_congr fits rfl rfl]
    refine continues.congr ?_
    intro charges
    rw [chargeLocalized, if_neg short]

/-! ## Descriptions -/

def unicodeCost (tag : Slice) : Charges :=
  if asciiEnd tag + 8 ≤ tag.length then
    (0, 1) + if asciiEnd tag + 8 + unicodeBytes tag ≤ tag.length then (unicodeBytes tag * 3 / 2, 0) else 0
  else 0

theorem chargeUnicode_meters {tag : Slice} (small : Small tag.length) :
    Meters limits.charges countable True (unicodeCost tag) (chargeUnicode tag (asciiEnd tag) limits) := by
  have units := number_small tag (asciiEnd tag + 4)
  have ascii := number_small tag 8
  rw [unicodeCost]
  by_cases header : asciiEnd tag + 8 ≤ tag.length
  · have found : tag.get (asciiEnd tag) (asciiEnd tag + 8) = some (tag.part (asciiEnd tag) 8) := by
      rw [Slice.get, if_pos ⟨Nat.le_add_right _ _, header⟩, Nat.add_sub_cancel_left]
    have encoded : checkedMul (number tag (asciiEnd tag + 4) 4) 2 = some (unicodeBytes tag) :=
      if_pos (by rw [usizeLimit]; omega)
    have headerEnd : checkedAdd (asciiEnd tag) 8 = some (asciiEnd tag + 8) :=
      if_pos (by rw [usizeLimit]; omega)
    have finish : asciiEnd tag + 8 + unicodeBytes tag < usizeLimit := by
      rw [usizeLimit, unicodeBytes]
      omega
    have text : Meters limits.charges countable True
        (if asciiEnd tag + 8 + unicodeBytes tag ≤ tag.length then (unicodeBytes tag * 3 / 2, 0) else 0)
        (fun charges => if asciiEnd tag + 8 + unicodeBytes tag ≤ tag.length then
          chargeIccTextBytes (unicodeBytes tag * 3 / 2) limits charges else .ok charges) := by
      by_cases fits : asciiEnd tag + 8 + unicodeBytes tag ≤ tag.length
      · simp only [if_pos fits]
        exact chargeIccTextBytes_meters limits _
      · simp only [if_neg fits]
        exact uncharged
    rw [if_pos header]
    refine (countIccRecord_meters.andThen text).congr ?_
    intro charges
    rw [chargeUnicode, found]
    simp only [field_part tag (asciiEnd tag) (show 4 + 4 ≤ 8 by decide), encoded, headerEnd, Option.bind_some,
      ends_past finish, decide_eq_true_eq]
    congr
    funext counted
    by_cases fits : asciiEnd tag + 8 + unicodeBytes tag ≤ tag.length
    · rw [if_neg (Nat.not_lt.mpr fits), if_pos fits, utf16TextBound_eq (Nat.lt_of_le_of_lt (by omega) small)]
    · rw [if_pos (Nat.lt_of_not_le fits), if_neg fits]
      rfl
  · rw [if_neg header]
    refine uncharged.congr ?_
    intro charges
    rw [chargeUnicode, Slice.get, if_neg fun holds => header holds.2]

def descriptionCost (tag : Slice) : Charges :=
  if asciiEnd tag ≤ tag.length then (number tag 8 4 * 3, 0) + unicodeCost tag else 0

theorem chargeDescription_meters {tag : Slice} (small : Small tag.length) :
    Meters limits.charges countable True (descriptionCost tag) (chargeDescription tag limits) := by
  have ascii := number_small tag 8
  have finish : checkedAdd 12 (number tag 8 4) = some (asciiEnd tag) :=
    if_pos (by rw [usizeLimit]; omega)
  rw [descriptionCost]
  by_cases inside : asciiEnd tag ≤ tag.length
  · have long : ¬ tag.length < 12 := by
      rw [asciiEnd] at inside
      omega
    rw [if_pos inside, ← lossyTextBound_eq ascii]
    refine ((chargeIccTextBytes_meters limits _).andThen (chargeUnicode_meters small)).congr ?_
    intro charges
    rw [chargeDescription, if_neg long]
    simp only [finish, if_neg (Nat.not_lt.mpr inside)]
  · rw [if_neg inside]
    refine uncharged.congr ?_
    intro charges
    rw [chargeDescription]
    simp only [finish, if_pos (Nat.lt_of_not_le inside), ite_self]

/-! ## Tags -/

def tagCost (tag : Slice) : Charges := (((tagTexts tag).map TextRange.decodedSize).sum, tagRecords tag)

theorem sum_recordCost (tag : Slice) (records : List Nat) :
    (records.map (recordCost tag)).sum =
      ((records.map fun record => (TextRange.utf16 (recordLength tag record)).decodedSize).sum, records.length) := by
  induction records with
  | nil => rfl
  | cons record records inductionHypothesis =>
    rw [List.map_cons, List.sum_cons, inductionHypothesis, List.map_cons, List.sum_cons, List.length_cons,
      recordCost, Prod.mk_add_mk, Nat.add_comm 1]
    rfl

theorem tagCost_localized {tag : Slice} (kind : tag.part 0 4 = localizedType) :
    tagCost tag = recordsCost tag (List.range (max 1 (number tag 8 4))) := by
  rw [tagCost, tagTexts, if_pos kind, tagRecords, if_pos kind, recordsCost, sum_recordCost, List.map_map]
  rfl

theorem tagCost_description {tag : Slice} (kind : tag.part 0 4 = descriptionType) :
    tagCost tag = descriptionCost tag := by
  have other : tag.part 0 4 ≠ localizedType := by
    rw [kind]
    decide
  rw [tagCost, tagTexts, if_neg other, if_pos kind, tagRecords, if_neg other, if_pos kind, descriptionTexts,
    descriptionCost, unicodeCost]
  by_cases ascii : asciiEnd tag ≤ tag.length
  · rw [if_pos ascii, if_pos ascii]
    by_cases header : asciiEnd tag + 8 ≤ tag.length
    · rw [if_pos header, if_pos header]
      by_cases unicode : asciiEnd tag + 8 + unicodeBytes tag ≤ tag.length
      · simp [unicode, TextRange.decodedSize]
      · simp [unicode, TextRange.decodedSize]
    · have unicode : ¬ asciiEnd tag + 8 + unicodeBytes tag ≤ tag.length := by omega
      simp [header, unicode, TextRange.decodedSize]
  · have header : ¬ asciiEnd tag + 8 ≤ tag.length := by omega
    simp [ascii, header]

theorem chargeIccText_meters {tag : Slice} (small : Small tag.length) (kind : tag.part 0 4 ∈ iccTextTypes) :
    Meters limits.charges countable True (tagCost tag) (chargeIccText tag limits) := by
  by_cases localized : tag.part 0 4 = localizedType
  · rw [tagCost_localized localized]
    refine (chargeLocalized_meters tag).congr ?_
    intro charges
    rw [chargeIccText, if_pos localized]
  · by_cases description : tag.part 0 4 = descriptionType
    · rw [tagCost_description description]
      refine (chargeDescription_meters small).congr ?_
      intro charges
      rw [chargeIccText, if_neg localized, if_pos description]
    · have text : tag.part 0 4 = textType := by
        simp only [iccTextTypes, List.mem_cons, List.not_mem_nil, or_false] at kind
        exact kind.resolve_left localized |>.resolve_left description
      have cost : tagCost tag = ((tag.length - 8) * 3, 0) := by
        rw [tagCost, tagTexts, if_neg localized, if_neg description, if_pos text, tagRecords, if_neg localized,
          if_neg description]
        rfl
      rw [cost]
      refine (chargeIccTextBytes_meters limits _).congr ?_
      intro charges
      rw [chargeIccText, if_neg localized, if_neg description,
        lossyTextBound_eq (Nat.lt_of_le_of_lt (Nat.sub_le _ _) small)]

/-! ## The profile -/

theorem tagRecords_small (tag : Slice) : Small (tagRecords tag) := by
  have declared := number_small tag 8
  have reached : (reachedRecords tag).length ≤ max 1 (number tag 8 4) := by
    have shorter := (List.takeWhile_sublist (l := List.range (max 1 (number tag 8 4)))
      fun record => decide (RecordFits tag record)).length_le
    rwa [List.length_range] at shorter
  rw [tagRecords]
  split
  · exact Nat.lt_of_le_of_lt reached (by omega)
  · split
    · split <;> decide
    · decide

/-- The records of all tags have room in a machine integer. -/
theorem records_countable (profile : Slice) : ((tags profile).map tagRecords).sum < usizeLimit := by
  have declared := number_small profile 128
  have most : ((tags profile).map tagRecords).sum ≤ (tags profile).length * (2 ^ 32 - 1) := by
    have each : ∀ count ∈ (tags profile).map tagRecords, count ≤ 2 ^ 32 - 1 := by
      intro count member
      obtain ⟨tag, _, rfl⟩ := List.mem_map.mp member
      exact Nat.le_sub_one_of_lt (tagRecords_small tag)
    have sum := List.sum_le_card_nsmul _ _ each
    rwa [List.length_map, Nat.nsmul_eq_mul] at sum
  have length : (tags profile).length = number profile 128 4 := by
    rw [tags, List.length_map, List.length_range, tagCount]
  rw [length] at most
  rw [usizeLimit]
  omega

theorem tagCost_other {tag : Slice} (other : tag.part 0 4 ∉ iccTextTypes) : tagCost tag = 0 := by
  simp only [iccTextTypes, List.mem_cons, List.not_mem_nil, or_false, not_or] at other
  obtain ⟨localized, description, text⟩ := other
  rw [tagCost, tagTexts, if_neg localized, if_neg description, if_neg text, tagRecords, if_neg localized,
    if_neg description]
  rfl

theorem tag_kind (tag : Slice) :
    (iccTextTypes.any fun kind => kind.isPrefixOf tag.bytes) = true ↔ tag.part 0 4 ∈ iccTextTypes := by
  have fourBytes : ∀ kind ∈ iccTextTypes, kind.length = 4 := by decide
  rw [List.any_eq_true]
  constructor
  · intro found
    obtain ⟨kind, member, starts⟩ := found
    have isTake := List.prefix_iff_eq_take.mp (List.isPrefixOf_iff_prefix.mp starts)
    rw [fourBytes kind member] at isTake
    rw [Slice.part, List.drop_zero, ← isTake]
    exact member
  · intro member
    refine ⟨_, member, List.isPrefixOf_iff_prefix.mpr ?_⟩
    rw [Slice.part, List.drop_zero]
    exact List.take_prefix 4 tag.bytes

/-- A tag that is inside the profile is charged, whatever its place. -/
theorem chargeIccTag_eq (profile : Slice) (limits : Limits) (charges : Charges) (index : Nat) :
    chargeIccTag profile limits charges index =
      if TagInside profile index then
        if (tagAt profile index).part 0 4 ∈ iccTextTypes then chargeIccText (tagAt profile index) limits charges
        else .ok charges
      else .error (.unsupportedColor "malformed embedded ICC profile") := by
  have startField : 132 + index * 12 + 4 = 136 + index * 12 := by omega
  have sizeField : 132 + index * 12 + 8 = 140 + index * 12 := by omega
  have finish : iccTagEnd profile (number profile (136 + index * 12) 4) (number profile (140 + index * 12) 4) =
      .ok (tagFinish profile index) := by
    have start := number_small profile (136 + index * 12)
    have size := number_small profile (140 + index * 12)
    rw [tagFinish, iccTagEnd]
    split
    · rfl
    · rw [checkedAdd, if_pos (by rw [usizeLimit]; omega)]
      rfl
  simp only [chargeIccTag, startField, sizeField, finish, ok_bind, tag_kind]
  by_cases inside : TagInside profile index
  · have passes : ¬ (profile.length < number profile (136 + index * 12) 4 ∨
        profile.length < tagFinish profile index) := by
      rw [not_or, Nat.not_lt, Nat.not_lt]
      exact inside
    rw [if_pos inside, rejectIf, if_neg passes]
    rfl
  · have fails : profile.length < number profile (136 + index * 12) 4 ∨
        profile.length < tagFinish profile index := by
      rw [TagInside, Classical.not_and_iff_not_or_not, Nat.not_le, Nat.not_le] at inside
      exact inside
    rw [if_neg inside, rejectIf, if_pos fails]
    rfl

theorem length_tagAt_le {profile : Slice} {index : Nat} (inside : TagInside profile index) :
    (tagAt profile index).length ≤ profile.length := by
  have order : tagStart profile index ≤ tagFinish profile index := by
    rw [tagFinish]
    split
    · exact inside.1
    · exact Nat.le_add_right _ _
  rw [tagAt, Slice.length_between order inside.2]
  exact Nat.le_trans (Nat.sub_le _ _) inside.2

theorem chargeIccTag_meters {profile : Slice} (small : Small profile.length) (index : Nat) :
    Meters limits.charges countable (TagInside profile index) (tagCost (tagAt profile index))
      (chargeIccTag profile limits · index) := by
  by_cases inside : TagInside profile index
  · have tagSmall : Small (tagAt profile index).length := Nat.lt_of_le_of_lt (length_tagAt_le inside) small
    by_cases kind : (tagAt profile index).part 0 4 ∈ iccTextTypes
    · refine ((chargeIccText_meters tagSmall kind).congr ?_).mono (iff_of_true trivial inside)
      intro charges
      rw [chargeIccTag_eq, if_pos inside, if_pos kind]
    · rw [tagCost_other kind]
      refine (uncharged.congr ?_).mono (iff_of_true trivial inside)
      intro charges
      rw [chargeIccTag_eq, if_pos inside, if_neg kind]
  · intro spent result _ _
    simp only [chargeIccTag_eq, if_neg inside]
    constructor
    · intro fails
      cases fails
    · intro holds
      exact absurd holds.1 inside

/-- The costs of all tags are the size of their texts and the number of their records. -/
theorem sum_tagCost (tags : List Slice) : (tags.map tagCost).sum =
    (((tags.flatMap tagTexts).map TextRange.decodedSize).sum, (tags.map tagRecords).sum) := by
  induction tags with
  | nil => rfl
  | cons tag tags inductionHypothesis =>
    rw [List.map_cons, List.sum_cons, inductionHypothesis, List.flatMap_cons, List.map_append, List.sum_append,
      List.map_cons, List.sum_cons, tagCost, Prod.mk_add_mk]

/-- The loop over the tags. -/
theorem chargeIccTags_ok {profile : Slice} (small : Small profile.length) (result : Charges) :
    (List.range (tagCount profile)).foldlM (chargeIccTag profile limits) (0, 0) = .ok result ↔
      (∀ index < tagCount profile, TagInside profile index) ∧
        ((tags profile).map tagCost).sum ≤ limits.charges ∧ result = ((tags profile).map tagCost).sum := by
  have cost : ((List.range (tagCount profile)).map fun index => tagCost (tagAt profile index)) =
      (tags profile).map tagCost := by
    rw [tags, List.map_map]
    rfl
  have turn : ∀ index ∈ List.range (tagCount profile), Meters limits.charges countable (TagInside profile index)
      (tagCost (tagAt profile index)) (chargeIccTag profile limits · index) :=
    fun index _ => chargeIccTag_meters small index
  have meters := Meters.foldlM (List.range (tagCount profile)) turn
  rw [cost] at meters
  have inRoom : (0 : Charges) + ((tags profile).map tagCost).sum ∈ countable := by
    rw [zero_add, sum_tagCost]
    exact records_countable profile
  have charged := meters 0 result zero_le inRoom
  simp only [List.mem_range, zero_add] at charged
  exact charged

/-- The preflight accepts the conforming profiles and no others. -/
theorem preflightIccProfile_ok (profile : Slice) (limits : Limits) :
    preflightIccProfile profile limits = .ok () ↔ Conforms tagRecords profile limits := by
  have declared := number_small profile 128
  have table : (checkedMul (number profile 128 4) 12).bind (checkedAdd 132) =
      some (132 + tagCount profile * 12) := by
    rw [checkedMul, if_pos (by rw [usizeLimit]; omega), Option.bind_some, checkedAdd,
      if_pos (by rw [usizeLimit]; omega), tagCount]
  have budget : ((tags profile).map tagCost).sum ≤ limits.charges ↔
      ((tags profile).map tagRecords).sum ≤ limits.maxColorProfileTextRecords.toNat ∧
        (((tags profile).flatMap tagTexts).map TextRange.decodedSize).sum ≤
          limits.maxColorProfileTextBytes.toNat := by
    rw [sum_tagCost, Limits.charges, Prod.mk_le_mk, and_comm]
  simp only [preflightIccProfile, bind_eq_ok, rejectIf_eq_ok, okOr_eq_ok, exists_const, table, Nat.not_lt,
    Option.some.injEq, exists_eq_left', pure_eq_ok]
  constructor
  · intro accepted
    obtain ⟨_, extent, count, tableFits, charges, charged, _⟩ := accepted
    have isExtent := Classical.not_not.mp extent
    have small : Small profile.length := isExtent ▸ number_small profile 0
    obtain ⟨inside, spent, _⟩ := (chargeIccTags_ok small charges).mp charged
    obtain ⟨records, text⟩ := budget.mp spent
    exact ⟨isExtent, count, tableFits, inside, records, text⟩
  · intro conforms
    have small : Small profile.length := conforms.extent ▸ number_small profile 0
    have charged := (chargeIccTags_ok small _).mpr
      ⟨conforms.inside, budget.mpr ⟨conforms.records, conforms.text⟩, rfl⟩
    have header : 132 ≤ profile.length := Nat.le_trans (Nat.le_add_right _ _) conforms.table
    exact ⟨header, not_not_intro conforms.extent, conforms.count, conforms.table, _, charged, trivial⟩

/-! ## Truncated descriptions -/

/-- The records whose header and text are both in their tag. -/
def fittingRecords (tag : Slice) : Nat :=
  if tag.part 0 4 = localizedType then (reachedRecords tag).length
  else if tag.part 0 4 = descriptionType then
    if asciiEnd tag + 8 + unicodeBytes tag ≤ tag.length then 1 else 0
  else 0

/-- A profile of one description, whose Unicode section declares one unit and ends before it. -/
def truncatedProfile : Slice where
  bytes := [0, 0, 0, 164] ++ List.replicate 124 0 ++ [0, 0, 0, 1] ++
    descriptionType ++ [0, 0, 0, 144] ++ [0, 0, 0, 20] ++
    descriptionType ++ [0, 0, 0, 0] ++ [0, 0, 0, 0] ++ [0, 0, 0, 0] ++ [0, 0, 0, 1]
  bounded := by decide +kernel

set_option maxRecDepth 4096 in
/-- The record of a truncated section is charged although it does not fit. -/
theorem truncated_record_charged :
    Conforms fittingRecords truncatedProfile { maxColorProfileTextRecords := 0 } ∧
      preflightIccProfile truncatedProfile { maxColorProfileTextRecords := 0 } =
        .error (.unsupportedColor "embedded ICC profile text records") := by
  constructor
  · constructor <;> decide +kernel
  · rfl

end Genkan.DynamicWallpaper.Heic
