import Mathlib.Algebra.Ring.Nat
import Mathlib.Data.List.Basic

/-! # Lossy decoding of UTF-8

Every maximal prefix of an ill-formed sequence becomes one replacement character.
-/

namespace Foundations.Utf8

def replacement : Char := '\uFFFD'

def continues (byte : UInt8) : Bool := byte &&& 0xC0 == 0x80

/-- The bytes that may follow the first byte of a sequence of three. -/
def continuesThree (first second : UInt8) : Bool :=
  (first == 0xE0 && 0xA0 ≤ second && second ≤ 0xBF) ||
    (0xE1 ≤ first && first ≤ 0xEC && 0x80 ≤ second && second ≤ 0xBF) ||
    (first == 0xED && 0x80 ≤ second && second ≤ 0x9F) ||
    (0xEE ≤ first && first ≤ 0xEF && 0x80 ≤ second && second ≤ 0xBF)

/-- The bytes that may follow the first byte of a sequence of four. -/
def continuesFour (first second : UInt8) : Bool :=
  (first == 0xF0 && 0x90 ≤ second && second ≤ 0xBF) ||
    (0xF1 ≤ first && first ≤ 0xF3 && 0x80 ≤ second && second ≤ 0xBF) ||
    (first == 0xF4 && 0x80 ≤ second && second ≤ 0x8F)

/-- The payload of a continuation byte. -/
def tail (byte : UInt8) : Nat := (byte &&& 0x3F).toNat

/-- The character that starts with a byte, and how many of the bytes behind it belong to it.  Past the
end every byte reads as zero, which continues nothing. -/
def decodeFirst (first : UInt8) (rest : List UInt8) : Char × Nat :=
  let second := rest.getD 0 0
  let third := rest.getD 1 0
  let fourth := rest.getD 2 0
  if first < 0x80 then (Char.ofNat first.toNat, 0)
  else if 0xC2 ≤ first && first ≤ 0xDF then
    if continues second then (Char.ofNat ((first &&& 0x1F).toNat * 64 + tail second), 1)
    else (replacement, 0)
  else if 0xE0 ≤ first && first ≤ 0xEF then
    if !continuesThree first second then (replacement, 0)
    else if !continues third then (replacement, 1)
    else (Char.ofNat (((first &&& 0x0F).toNat * 64 + tail second) * 64 + tail third), 2)
  else if 0xF0 ≤ first && first ≤ 0xF4 then
    if !continuesFour first second then (replacement, 0)
    else if !continues third then (replacement, 1)
    else if !continues fourth then (replacement, 2)
    else
      (Char.ofNat ((((first &&& 0x07).toNat * 64 + tail second) * 64 + tail third) * 64 + tail fourth), 3)
  else (replacement, 0)

/-- `skip` bytes still belong to the character before. -/
def decodeFrom : Nat → List UInt8 → List Char
  | _, [] => []
  | skip + 1, _ :: rest => decodeFrom skip rest
  | 0, first :: rest => (decodeFirst first rest).1 :: decodeFrom (decodeFirst first rest).2 rest

/-- `String::from_utf8_lossy`. -/
def fromUtf8Lossy (bytes : List UInt8) : List Char := decodeFrom 0 bytes

example : fromUtf8Lossy [0xE7, 0x95, 0x8C, 0xF0, 0x9F, 0x41, 0xFF] = ['界', replacement, 'A', replacement] := by
  decide

/-! ## Text without NUL -/

theorem ofNat_ne_nul {number : Nat} (valid : number.isValidChar) (positive : 0 < number) :
    Char.ofNat number ≠ '\x00' := by
  intro isNul
  have isNumber : (Char.ofNat number).toNat = number := by
    rw [Char.ofNat, dif_pos valid]
    rfl
  rw [isNul, show '\x00'.toNat = 0 from rfl] at isNumber
  omega

theorem toNat_and_mask (byte mask : UInt8) (bits : Nat) (isMask : mask.toNat = 2 ^ bits - 1) :
    (byte &&& mask).toNat = byte.toNat % 2 ^ bits := by
  rw [UInt8.toNat_and, isMask, Nat.and_two_pow_sub_one_eq_mod]

theorem tail_eq (byte : UInt8) : tail byte = byte.toNat % 64 := toNat_and_mask byte 0x3F 6 rfl

/-- The range of the second byte leaves out what is written in two bytes, and the surrogates. -/
theorem continuesThree_range {first second : UInt8} (follows : continuesThree first second = true) :
    let leading := first.toNat % 16 * 64 + tail second
    32 ≤ leading ∧ (leading < 0x360 ∨ 0x380 ≤ leading) := by
  simp only [continuesThree, Bool.or_eq_true, Bool.and_eq_true, beq_iff_eq, decide_eq_true_eq,
    UInt8.le_iff_toNat_le, ← UInt8.toNat_inj, UInt8.reduceToNat] at follows
  rw [tail_eq]
  omega

/-- The range of the second byte leaves out what is written in three bytes, and what is no character. -/
theorem continuesFour_range {first second : UInt8} (follows : continuesFour first second = true) :
    let leading := first.toNat % 8 * 64 + tail second
    16 ≤ leading ∧ leading < 0x110 := by
  simp only [continuesFour, Bool.or_eq_true, Bool.and_eq_true, beq_iff_eq, decide_eq_true_eq,
    UInt8.le_iff_toNat_le, ← UInt8.toNat_inj, UInt8.reduceToNat] at follows
  rw [tail_eq]
  omega

theorem decodeFirst_ne_nul {first : UInt8} (plain : first ≠ 0) (rest : List UInt8) :
    (decodeFirst first rest).1 ≠ '\x00' := by
  have replaced : replacement ≠ '\x00' := by decide
  have tailBound : ∀ byte, tail byte < 64 := by
    intro byte
    rw [tail_eq]
    omega
  fun_cases decodeFirst first rest
  case case1 ascii =>
    have positive : first.toNat ≠ 0 := fun zero => plain (UInt8.toNat_inj.mp zero)
    simp only [UInt8.lt_iff_toNat_lt, UInt8.reduceToNat] at ascii
    exact ofNat_ne_nul (.inl (by omega)) (by omega)
  case case2 second _ two _ =>
    have bound := tailBound second
    simp only [Bool.and_eq_true, decide_eq_true_eq, UInt8.le_iff_toNat_le, UInt8.reduceToNat] at two
    rw [toNat_and_mask first 0x1F 5 rfl]
    exact ofNat_ne_nul (.inl (by omega)) (by omega)
  case case6 second third _ _ _ follows _ =>
    have bound := tailBound third
    have range := @continuesThree_range first second (by simpa using follows)
    have leading : first.toNat % 16 * 64 + tail second < 0x400 := by
      have bound := tailBound second
      omega
    rw [toNat_and_mask first 0x0F 4 rfl]
    cases range.2 with
    | inl below => exact ofNat_ne_nul (.inl (by omega)) (by omega)
    | inr above => exact ofNat_ne_nul (.inr ⟨by omega, by omega⟩) (by omega)
  case case10 second third fourth _ _ _ _ follows _ _ =>
    have bounds := And.intro (tailBound third) (tailBound fourth)
    have range := @continuesFour_range first second (by simpa using follows)
    rw [toNat_and_mask first 0x07 3 rfl]
    exact ofNat_ne_nul (.inr ⟨by omega, by omega⟩) (by omega)
  all_goals exact replaced

theorem decodeFrom_plain {bytes : List UInt8} (plain : 0 ∉ bytes) (skip : Nat) :
    '\x00' ∉ decodeFrom skip bytes := by
  induction bytes generalizing skip with
  | nil => simp [decodeFrom]
  | cons first rest inductionHypothesis =>
    rw [List.mem_cons, not_or] at plain
    cases skip with
    | zero =>
      rw [decodeFrom, List.mem_cons, not_or]
      exact ⟨(decodeFirst_ne_nul (Ne.symm plain.1) rest).symm, inductionHypothesis plain.2 _⟩
    | succ skip => exact inductionHypothesis plain.2 skip

theorem fromUtf8Lossy_plain {bytes : List UInt8} (plain : 0 ∉ bytes) : '\x00' ∉ fromUtf8Lossy bytes :=
  decodeFrom_plain plain 0

theorem zero_mem_utf8EncodeChar {char : Char} : 0 ∈ String.utf8EncodeChar char ↔ char = '\x00' := by
  have isNul : char = '\x00' ↔ char.val.toNat = 0 := by
    rw [← Char.toNat_inj]
    rfl
  rw [isNul]
  fun_cases String.utf8EncodeChar char
  all_goals
    simp only [List.mem_cons, List.not_mem_nil, or_false, ← UInt8.toNat_inj, UInt8.toNat_ofNat',
      UInt8.reduceToNat]
    omega

theorem zero_mem_utf8Encode {chars : List Char} : 0 ∈ chars.utf8Encode.data.toList ↔ '\x00' ∈ chars := by
  simp [List.utf8Encode, zero_mem_utf8EncodeChar]

end Foundations.Utf8
