import Mathlib.Algebra.Ring.Nat
import Mathlib.Data.List.Induction

/-! # Fixed-width integers as bytes -/

namespace Foundations.Bytes

/-- The number that the bytes spell with the most significant one first. -/
def ofBigEndian (bytes : List UInt8) : Nat :=
  bytes.foldl (fun value byte => value * 256 + byte.toNat) 0

/-- The last `width` digits of the number in base 256, the most significant one first. -/
def toBigEndian : Nat → Nat → List UInt8
  | 0, _ => []
  | width + 1, value => toBigEndian width (value / 256) ++ [UInt8.ofNat value]

def ofLittleEndian (bytes : List UInt8) : Nat := ofBigEndian bytes.reverse

def toLittleEndian (width value : Nat) : List UInt8 := (toBigEndian width value).reverse

theorem ofBigEndian_append_singleton (bytes : List UInt8) (byte : UInt8) :
    ofBigEndian (bytes ++ [byte]) = ofBigEndian bytes * 256 + byte.toNat := by
  simp [ofBigEndian]

theorem ofBigEndian_append (first second : List UInt8) :
    ofBigEndian (first ++ second) = ofBigEndian first * 256 ^ second.length + ofBigEndian second := by
  induction second using List.reverseRecOn with
  | nil => simp [ofBigEndian]
  | append_singleton second byte inductionHypothesis =>
    rw [← List.append_assoc, ofBigEndian_append_singleton, ofBigEndian_append_singleton,
      inductionHypothesis, List.length_append, List.length_singleton, Nat.pow_succ, Nat.add_mul,
      Nat.mul_assoc, Nat.add_assoc]

theorem ofBigEndian_lt (bytes : List UInt8) : ofBigEndian bytes < 256 ^ bytes.length := by
  induction bytes using List.reverseRecOn with
  | nil => simp [ofBigEndian]
  | append_singleton bytes byte inductionHypothesis =>
    have within := byte.toNat_lt
    rw [ofBigEndian_append_singleton, List.length_append, List.length_singleton, Nat.pow_succ]
    omega

@[simp] theorem toBigEndian_length (width value : Nat) : (toBigEndian width value).length = width := by
  induction width generalizing value with
  | zero => rfl
  | succ width inductionHypothesis => simp [toBigEndian, inductionHypothesis]

theorem ofBigEndian_toBigEndian {width value : Nat} (bound : value < 256 ^ width) :
    ofBigEndian (toBigEndian width value) = value := by
  induction width generalizing value with
  | zero =>
    have isZero : value = 0 := by simpa using bound
    rw [isZero]
    rfl
  | succ width inductionHypothesis =>
    have quotient : value / 256 < 256 ^ width := by
      rw [Nat.pow_succ] at bound
      omega
    rw [toBigEndian, ofBigEndian_append_singleton, inductionHypothesis quotient, UInt8.toNat_ofNat']
    omega

theorem toBigEndian_ofBigEndian (bytes : List UInt8) :
    toBigEndian bytes.length (ofBigEndian bytes) = bytes := by
  induction bytes using List.reverseRecOn with
  | nil => rfl
  | append_singleton bytes byte inductionHypothesis =>
    have within := byte.toNat_lt
    have quotient : (ofBigEndian bytes * 256 + byte.toNat) / 256 = ofBigEndian bytes := by omega
    have digit : UInt8.ofNat (ofBigEndian bytes * 256 + byte.toNat) = byte := by
      apply UInt8.toNat_inj.mp
      rw [UInt8.toNat_ofNat']
      omega
    rw [List.length_append, List.length_singleton, ofBigEndian_append_singleton, toBigEndian, quotient,
      digit, inductionHypothesis]

@[simp] theorem toLittleEndian_length (width value : Nat) :
    (toLittleEndian width value).length = width := by
  simp [toLittleEndian]

theorem ofLittleEndian_toLittleEndian {width value : Nat} (bound : value < 256 ^ width) :
    ofLittleEndian (toLittleEndian width value) = value := by
  rw [ofLittleEndian, toLittleEndian, List.reverse_reverse, ofBigEndian_toBigEndian bound]

theorem toLittleEndian_ofLittleEndian {bytes : List UInt8} {width : Nat}
    (length : bytes.length = width) : toLittleEndian width (ofLittleEndian bytes) = bytes := by
  have isWidth : width = bytes.reverse.length := by rw [List.length_reverse, length]
  rw [ofLittleEndian, toLittleEndian, isWidth, toBigEndian_ofBigEndian, List.reverse_reverse]

/-! ## Slices -/

/-- Bytes in memory: their number fits a signed machine word. -/
structure Slice where
  bytes : List UInt8
  bounded : bytes.length < 2 ^ 63
  deriving DecidableEq

namespace Slice

def length (slice : Slice) : Nat := slice.bytes.length

theorem length_bounded (slice : Slice) : slice.length < 2 ^ 63 := slice.bounded

/-- Indexing, where the index is known to be in range. -/
def byte (slice : Slice) (index : Nat) : UInt8 := slice.bytes.getD index 0

/-- The bytes from `start`, `length` of them if there are as many. -/
def part (slice : Slice) (start length : Nat) : List UInt8 := (slice.bytes.drop start).take length

def get (slice : Slice) (start finish : Nat) : Option (List UInt8) :=
  if start ≤ finish ∧ finish ≤ slice.length then some (slice.part start (finish - start)) else none

/-- The bytes from `start` to `finish`, where these are known to be in range. -/
def between (slice : Slice) (start finish : Nat) : Slice where
  bytes := slice.part start (finish - start)
  bounded := by
    have shorter : (slice.part start (finish - start)).length ≤ slice.bytes.length := by
      rw [part, List.length_take, List.length_drop]
      omega
    exact Nat.lt_of_le_of_lt shorter slice.bounded

theorem part_length {slice : Slice} {start length : Nat} (within : start + length ≤ slice.length) :
    (slice.part start length).length = length := by
  simp only [Slice.length] at within
  rw [part, List.length_take, List.length_drop]
  omega

theorem length_between {slice : Slice} {start finish : Nat} (order : start ≤ finish)
    (within : finish ≤ slice.length) : (slice.between start finish).length = finish - start :=
  part_length (by omega)

theorem part_getD {slice : Slice} {start length index : Nat} (within : index < length) :
    (slice.part start length).getD index 0 = slice.byte (start + index) := by
  rw [part, byte, List.getD_eq_getElem?_getD, List.getElem?_take_of_lt within, List.getElem?_drop,
    List.getD_eq_getElem?_getD]

end Slice

end Foundations.Bytes
