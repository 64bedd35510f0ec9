import Genkan.Foundations.Lists

/-! # Pieces of a list

A list is cut into consecutive pieces of one size, of which the last may be shorter.  The pieces put
together are the list again, and cutting commutes with an encoding of fixed width when the size of the
pieces is a multiple of that width.
-/

namespace Foundations.Chunks

universe u v

variable {α : Type u} {β : Type v}

def chunk (size : Nat) (list : List α) (index : Nat) : List α := (list.drop (index * size)).take size

def chunks (size : Nat) (list : List α) : List (List α) :=
  (List.range ((list.length + size - 1) / size)).map (chunk size list)

/-! ## The number of pieces -/

theorem le_count {size count length : Nat} (positive : 0 < size) (covers : count * size ≤ length) :
    count ≤ (length + size - 1) / size := by
  rw [Nat.le_div_iff_mul_le positive]
  omega

theorem count_covers {size : Nat} (positive : 0 < size) (length : Nat) :
    length ≤ (length + size - 1) / size * size := by
  have whole := Nat.div_add_mod (length + size - 1) size
  have rest := Nat.mod_lt (length + size - 1) positive
  rw [Nat.mul_comm] at whole
  omega

theorem count_mul {size width : Nat} (positive : 0 < size) (widthPositive : 0 < width) (length : Nat) :
    (length * width + size * width - 1) / (size * width) = (length + size - 1) / size := by
  have split : length * width + size * width - 1 = width * (length + size - 1) + (width - 1) := by
    have total : length * width + size * width = width * (length + size - 1) + width := by
      rw [← Nat.add_mul, Nat.mul_comm _ width, ← Nat.mul_succ]
      congr 1
      omega
    omega
  rw [split, Nat.mul_comm size width, ← Nat.div_div_eq_div_mul, Nat.mul_add_div widthPositive,
    Nat.div_eq_of_lt (Nat.sub_lt widthPositive Nat.one_pos), Nat.add_zero]

/-! ## Putting the pieces together -/

theorem flatMap_chunk (size : Nat) (list : List α) (count : Nat) :
    (List.range count).flatMap (chunk size list) = list.take (count * size) := by
  induction count with
  | zero => simp
  | succ count inductionHypothesis =>
    rw [List.range_succ, List.flatMap_append, inductionHypothesis, List.flatMap_singleton, chunk,
      Nat.add_mul, Nat.one_mul, List.take_add]

theorem flatten_chunks {size : Nat} (positive : 0 < size) (list : List α) :
    (chunks size list).flatten = list := by
  rw [chunks, ← List.flatMap_def, flatMap_chunk, List.take_of_length_le (count_covers positive _)]

theorem take_chunks {size : Nat} (positive : 0 < size) {list : List α} {count : Nat}
    (covers : count * size ≤ list.length) :
    (chunks size list).take count = (List.range count).map (chunk size list) := by
  rw [chunks, ← List.map_take, List.take_range, Nat.min_eq_left (le_count positive covers)]

/-! ## Encodings of fixed width -/

section

variable {encode : α → List β} {width : Nat}

theorem drop_flatMap (fixed : ∀ value, (encode value).length = width) (list : List α) (count : Nat) :
    (list.flatMap encode).drop (count * width) = (list.drop count).flatMap encode := by
  induction list generalizing count with
  | nil => simp
  | cons head tail inductionHypothesis =>
    cases count with
    | zero => simp
    | succ count =>
      rw [List.flatMap_cons, Nat.add_mul, Nat.one_mul, Nat.add_comm, ← List.drop_drop,
        List.drop_left' (fixed head), inductionHypothesis, List.drop_succ_cons]

theorem take_flatMap (fixed : ∀ value, (encode value).length = width) (list : List α) (count : Nat) :
    (list.flatMap encode).take (count * width) = (list.take count).flatMap encode := by
  induction list generalizing count with
  | nil => simp
  | cons head tail inductionHypothesis =>
    cases count with
    | zero => simp
    | succ count =>
      rw [List.flatMap_cons, Nat.add_mul, Nat.one_mul, Nat.add_comm, ← fixed head, List.take_length_add_append,
        fixed head, inductionHypothesis, List.take_succ_cons, List.flatMap_cons]

theorem chunks_flatMap (fixed : ∀ value, (encode value).length = width) (widthPositive : 0 < width)
    {size : Nat} (positive : 0 < size) (list : List α) :
    chunks (size * width) (list.flatMap encode) = (chunks size list).map (List.flatMap encode) := by
  have length : (list.flatMap encode).length = list.length * width :=
    Lists.length_flatMap_chunk fun value _ => fixed value
  rw [chunks, chunks, length, count_mul positive widthPositive, List.map_map]
  apply List.map_congr_left
  intro index _
  rw [Function.comp_apply, chunk, chunk, ← Nat.mul_assoc, drop_flatMap fixed, take_flatMap fixed]

end

end Foundations.Chunks
