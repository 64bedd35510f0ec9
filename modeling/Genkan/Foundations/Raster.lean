import Mathlib.Data.Nat.Basic
import Mathlib.Data.List.Basic

/-! # Painting a row-major raster

A raster of a given width is a list of pixels; the pixel in column `x` of row `y` stands at
`y * width + x`.  `paint` is the nested loop that assigns colours to a rectangle of pixels, where
a colour may also be "leave this pixel alone".  `getElem?_paint` says what the loop does to every
pixel, and `ext` compares two rasters pixel by pixel.
-/

namespace Foundations.Raster

universe u

variable {α : Type u}

/-- What a pixel is after it was offered a colour. -/
def repaint (old : Option α) : Option α → Option α
  | none => old
  | some pixel => old.map fun _ => pixel

@[simp] theorem repaint_none (old : Option α) : repaint old none = old := rfl

@[simp] theorem repaint_some (old : Option α) (pixel : α) :
    repaint old (some pixel) = old.map fun _ => pixel := rfl

@[simp] theorem repaint_repaint (old colour : Option α) :
    repaint (repaint old colour) colour = repaint old colour := by
  cases colour <;> cases old <;> rfl

def paintPixel (raster : List α) (position : Nat) : Option α → List α
  | none => raster
  | some pixel => raster.set position pixel

def paintRow (width row : Nat) (colour : Nat → Option α) (columns : List Nat)
    (raster : List α) : List α :=
  columns.foldl (fun raster column => paintPixel raster (row * width + column) (colour column)) raster

def paint (width : Nat) (colour : Nat → Nat → Option α) (columns rows : List Nat)
    (raster : List α) : List α :=
  rows.foldl (fun raster row => paintRow width row (colour · row) columns raster) raster

/-! ## Lengths -/

@[simp] theorem length_paintPixel (raster : List α) (position : Nat) (colour : Option α) :
    (paintPixel raster position colour).length = raster.length := by
  cases colour <;> simp [paintPixel]

@[simp] theorem length_paintRow (width row : Nat) (colour : Nat → Option α) (columns : List Nat)
    (raster : List α) : (paintRow width row colour columns raster).length = raster.length := by
  induction columns generalizing raster with
  | nil => rfl
  | cons column columns inductionHypothesis =>
    simp only [paintRow, List.foldl_cons] at inductionHypothesis ⊢
    rw [inductionHypothesis, length_paintPixel]

@[simp] theorem length_paint (width : Nat) (colour : Nat → Nat → Option α)
    (columns rows : List Nat) (raster : List α) :
    (paint width colour columns rows raster).length = raster.length := by
  induction rows generalizing raster with
  | nil => rfl
  | cons row rows inductionHypothesis =>
    simp only [paint, List.foldl_cons] at inductionHypothesis ⊢
    rw [inductionHypothesis, length_paintRow]

/-! ## Positions -/

theorem position_inj {width column column' row row' : Nat} (bound : column < width)
    (bound' : column' < width) (same : row * width + column = row' * width + column') :
    column = column' ∧ row = row' := by
  have columns : column = column' := by
    have remainders : column % width = column' % width := by
      simpa using congrArg (· % width) same
    rwa [Nat.mod_eq_of_lt bound, Nat.mod_eq_of_lt bound'] at remainders
  subst columns
  exact ⟨rfl, Nat.eq_of_mul_eq_mul_right (Nat.zero_lt_of_lt bound) (Nat.add_right_cancel same)⟩

theorem position_lt {width height column row : Nat} (columnBound : column < width)
    (rowBound : row < height) : row * width + column < width * height := by
  calc row * width + column < row * width + width := by omega
    _ = (row + 1) * width := by rw [Nat.add_mul, Nat.one_mul]
    _ ≤ height * width := Nat.mul_le_mul_right _ rowBound
    _ = width * height := Nat.mul_comm _ _

/-- Rasters of one size are equal when they agree on every pixel. -/
theorem ext {first second : List α} (width height : Nat) (firstLength : first.length = width * height)
    (secondLength : second.length = width * height)
    (pixels : ∀ column row, column < width → row < height →
      first[row * width + column]? = second[row * width + column]?) : first = second := by
  apply List.ext_getElem?
  intro position
  cases Nat.lt_or_ge position (width * height) with
  | inl inside =>
    have positive : 0 < width := Nat.pos_of_ne_zero (by rintro rfl; simp at inside)
    have row : position / width < height :=
      (Nat.div_lt_iff_lt_mul positive).mpr (by rwa [Nat.mul_comm] at inside)
    have split : position / width * width + position % width = position := by
      rw [Nat.mul_comm]
      exact Nat.div_add_mod position width
    have pixel := pixels (position % width) (position / width) (Nat.mod_lt _ positive) row
    rwa [split] at pixel
  | inr outside => rw [List.getElem?_eq_none (by omega), List.getElem?_eq_none (by omega)]

/-! ## What painting does to a pixel -/

theorem getElem?_paintPixel (raster : List α) (position index : Nat) (colour : Option α) :
    (paintPixel raster position colour)[index]? =
      if position = index then repaint raster[index]? colour else raster[index]? := by
  cases colour with
  | none => simp [paintPixel]
  | some pixel =>
    simp only [paintPixel, List.getElem?_set]
    split
    next same =>
      subst same
      cases Nat.lt_or_ge position raster.length with
      | inl inside => simp [inside]
      | inr outside => simp [Nat.not_lt.mpr outside]
    next => rfl

theorem getElem?_paintRow {width row : Nat} {colour : Nat → Option α} {columns : List Nat}
    (inside : ∀ column ∈ columns, column < width) (raster : List α) {x y : Nat} (bound : x < width) :
    (paintRow width row colour columns raster)[y * width + x]? =
      if y = row ∧ x ∈ columns then repaint raster[y * width + x]? (colour x)
      else raster[y * width + x]? := by
  induction columns generalizing raster with
  | nil => simp [paintRow]
  | cons column columns inductionHypothesis =>
    have rest := inductionHypothesis (fun column member => inside column (.tail _ member))
      (paintPixel raster (row * width + column) (colour column))
    simp only [paintRow, List.foldl_cons] at rest ⊢
    rw [rest, getElem?_paintPixel]
    by_cases here : row * width + column = y * width + x
    · obtain ⟨rfl, rfl⟩ := position_inj (inside column (.head _)) bound here
      by_cases again : column ∈ columns <;> simp [again]
    · have distinct : ¬ (y = row ∧ x = column) := by
        rintro ⟨rfl, rfl⟩
        exact here rfl
      simp only [here, if_false, List.mem_cons]
      by_cases sameRow : y = row <;> simp_all

theorem getElem?_paint {width : Nat} {colour : Nat → Nat → Option α} {columns rows : List Nat}
    (inside : ∀ column ∈ columns, column < width) (raster : List α) {x y : Nat} (bound : x < width) :
    (paint width colour columns rows raster)[y * width + x]? =
      if y ∈ rows ∧ x ∈ columns then repaint raster[y * width + x]? (colour x y)
      else raster[y * width + x]? := by
  induction rows generalizing raster with
  | nil => simp [paint]
  | cons row rows inductionHypothesis =>
    have rest := inductionHypothesis (paintRow width row (colour · row) columns raster)
    simp only [paint, List.foldl_cons] at rest ⊢
    rw [rest, getElem?_paintRow inside raster bound]
    by_cases column : x ∈ columns
    · by_cases here : y = row
      · subst here
        by_cases again : y ∈ rows <;> simp [again, column]
      · simp [here, column]
    · simp [column]

/-- Painting only looks at the colours of the pixels it visits. -/
theorem paint_congr {width : Nat} {first second : Nat → Nat → Option α} {columns rows : List Nat}
    (same : ∀ x ∈ columns, ∀ y ∈ rows, first x y = second x y) (raster : List α) :
    paint width first columns rows raster = paint width second columns rows raster := by
  apply List.foldl_ext
  intro raster y row
  apply List.foldl_ext
  intro raster x column
  exact congrArg (paintPixel raster (y * width + x)) (same x column y row)

end Foundations.Raster
