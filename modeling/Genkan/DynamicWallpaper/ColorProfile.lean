import Genkan.DynamicWallpaper.Parsing

/-! # The preflight of an embedded colour profile

The extent, the tags and the text that a profile parser would decode from them are charged before the
profile is parsed.  The declared length of a profile is that of its bytes, so no size below is near the
end of the machine integers.
-/

namespace Genkan.DynamicWallpaper.Heic

open Foundations.Bytes

def saturatingAdd (left right : Nat) : Nat := min (left + right) (usizeLimit - 1)

def saturatingMul (left right : Nat) : Nat := min (left * right) (usizeLimit - 1)

/-- The decoded text bytes and the localization records so far. -/
abbrev Charges := Nat × Nat

/-- `mluc`. -/
def localizedType : List UInt8 := [109, 108, 117, 99]

/-- `desc`. -/
def descriptionType : List UInt8 := [100, 101, 115, 99]

/-- `text`. -/
def textType : List UInt8 := [116, 101, 120, 116]

def iccTextTypes : List (List UInt8) := [localizedType, descriptionType, textType]

/-! ## Charges -/

def utf16TextBound (bytes : Nat) : Nat := saturatingMul bytes 3 / 2

def lossyTextBound (bytes : Nat) : Nat := saturatingMul bytes 3

def chargeIccTextBytes (decoded : Nat) (limits : Limits) (charges : Charges) : Except Error Charges := do
  let total ← okOr (checkedAdd charges.1 decoded) (.unsupportedColor "embedded ICC profile text size")
  rejectIf (limits.maxColorProfileTextBytes.toNat < total) (.unsupportedColor "embedded ICC profile text size")
  pure (total, charges.2)

/-- One more record, as both layouts that have records count it. -/
def countIccRecord (limits : Limits) (charges : Charges) : Except Error Charges := do
  let records := saturatingAdd charges.2 1
  rejectIf (limits.maxColorProfileTextRecords.toNat < records)
    (.unsupportedColor "embedded ICC profile text records")
  pure (charges.1, records)

/-- Charges a record and reports whether the parser would read it. -/
def chargeIccRecord (tag : Slice) (offset length : Nat) (limits : Limits) (charges : Charges) :
    Except Error (Bool × Charges) :=
  if (checkedAdd offset length).all (tag.length < ·) then .ok (false, charges)
  else do
    let charges ← countIccRecord limits charges
    let charges ← chargeIccTextBytes (utf16TextBound length) limits charges
    pure (true, charges)

/-! ## The layouts -/

/-- The four bytes of a record header that start at the position. -/
def field (header : List UInt8) (start : Nat) : Nat := ofBigEndian ((header.drop start).take 4)

/-- The loop over the records from `record` on. -/
def chargeIccRecords (tag : Slice) (limits : Limits) : Nat → Nat → Charges → Except Error Charges
  | 0, _, charges => .ok charges
  | remaining + 1, record, charges =>
    match (checkedAdd 28 (saturatingMul (record - 1) 12)).bind fun start => tag.get start (start + 12) with
    | none => .ok charges
    | some header => do
      let (fits, charges) ← chargeIccRecord tag (field header 8) (field header 4) limits charges
      if fits then chargeIccRecords tag limits remaining (record + 1) charges else pure charges

/-- The first record is at fixed positions, whatever the declared count. -/
def chargeLocalized (tag : Slice) (limits : Limits) (charges : Charges) : Except Error Charges :=
  if tag.length < 28 then .ok charges
  else do
    let count := number tag 8 4
    let (fits, charges) ← chargeIccRecord tag (number tag 24 4) (number tag 20 4) limits charges
    if fits then chargeIccRecords tag limits (count - 1) 1 charges else pure charges

/-- The Unicode section of a description, which follows the ASCII section. -/
def chargeUnicode (tag : Slice) (asciiEnd : Nat) (limits : Limits) (charges : Charges) :
    Except Error Charges :=
  match tag.get asciiEnd (asciiEnd + 8) with
  | none => .ok charges
  | some header => do
    let charges ← countIccRecord limits charges
    match checkedMul (field header 4) 2 with
    | none => pure charges
    | some encoded =>
      if ((checkedAdd asciiEnd 8).bind (checkedAdd · encoded)).all (tag.length < ·) then pure charges
      else chargeIccTextBytes (utf16TextBound encoded) limits charges

def chargeDescription (tag : Slice) (limits : Limits) (charges : Charges) : Except Error Charges :=
  if tag.length < 12 then .ok charges
  else
    let ascii := number tag 8 4
    match checkedAdd 12 ascii with
    | none => .ok charges
    | some asciiEnd =>
      if tag.length < asciiEnd then .ok charges
      else do
        let charges ← chargeIccTextBytes (lossyTextBound ascii) limits charges
        chargeUnicode tag asciiEnd limits charges

def chargeIccText (tag : Slice) (limits : Limits) (charges : Charges) : Except Error Charges :=
  if tag.part 0 4 = localizedType then chargeLocalized tag limits charges
  else if tag.part 0 4 = descriptionType then chargeDescription tag limits charges
  else chargeIccTextBytes (lossyTextBound (tag.length - 8)) limits charges

/-! ## The profile -/

/-- A size of zero is the rest of the profile. -/
def iccTagEnd (profile : Slice) (offset size : Nat) : Except Error Nat :=
  if size = 0 then .ok profile.length
  else okOr (checkedAdd offset size) (.unsupportedColor "malformed embedded ICC profile")

/-- The body of the loop over the tags. -/
def chargeIccTag (profile : Slice) (limits : Limits) (charges : Charges) (index : Nat) :
    Except Error Charges := do
  let entry := 132 + index * 12
  let offset := number profile (entry + 4) 4
  let size := number profile (entry + 8) 4
  let finish ← iccTagEnd profile offset size
  rejectIf (profile.length < offset ∨ profile.length < finish)
    (.unsupportedColor "malformed embedded ICC profile")
  let tag := profile.between offset finish
  if iccTextTypes.any (fun kind => kind.isPrefixOf tag.bytes) then chargeIccText tag limits charges
  else pure charges

def preflightIccProfile (profile : Slice) (limits : Limits) : Except Error Unit := do
  rejectIf (profile.length < 132) (.unsupportedColor "malformed embedded ICC profile")
  rejectIf (number profile 0 4 ≠ profile.length) (.unsupportedColor "embedded ICC profile extent")
  let tagCount := number profile 128 4
  rejectIf (limits.maxColorProfileTags.toNat < tagCount) (.unsupportedColor "embedded ICC profile tag count")
  let tableEnd ← okOr ((checkedMul tagCount 12).bind (checkedAdd 132))
    (.unsupportedColor "malformed embedded ICC profile")
  rejectIf (profile.length < tableEnd) (.unsupportedColor "malformed embedded ICC profile")
  let _ ← (List.range tagCount).foldlM (chargeIccTag profile limits) (0, 0)
  pure ()

end Genkan.DynamicWallpaper.Heic
