import Genkan.Foundations.Bisection
import Genkan.Foundations.Floats
import Genkan.Foundations.Words

/-! # Text on a single line

A text that is too wide for its line is cut, and an ellipsis stands for the rest.  The search for the cut only
measures candidates; it finds the longest one that fits as long as more characters before the ellipsis never
make a text narrower.
-/

namespace Genkan.Locker

open Foundations Foundations.Bisection Foundations.Text

def ellipsis : Char := '…'

def elided (characters : List Char) (midpoint : Nat) : List Char := characters.take midpoint ++ [ellipsis]

def fits (measure : List Char → Float32) (width : Float32) (characters : List Char) (midpoint : Nat) : Bool :=
  decide (measure (elided characters midpoint) ≤ width)

/-- The bounds of the search are at most the length of a vector, so that their sum does not overflow. -/
def fitSingleLineBy (text : List Char) (width : Float32) (measure : List Char → Float32) : List Char :=
  let characters := normalized text
  if measure characters ≤ width then characters
  else if measure [ellipsis] > width then []
  else elided characters (bisectLast (fits measure width characters) 0 characters.length)

/-- The widths of the runs come from the text layout, which is not part of the source. -/
def fitSingleLine (layoutRuns : List Char → List Float32) (text : List Char) (width : Float32) : List Char :=
  fitSingleLineBy text width fun candidate => (layoutRuns candidate).foldl Floats.maxNum 0

/-! ## The best fit -/

/-- What a line comes to when only some texts fit. -/
inductive Fitted (fits : List Char → Prop) (line : List Char) : List Char → Prop
  | whole : fits line → Fitted fits line line
  | nothing : ¬ fits line → ¬ fits [ellipsis] → Fitted fits line []
  | cut {kept : List Char} : ¬ fits line → fits [ellipsis] → kept <+: line → fits (kept ++ [ellipsis]) →
      (∀ longer, longer <+: line → fits (longer ++ [ellipsis]) → longer <+: kept) →
      Fitted fits line (kept ++ [ellipsis])

theorem Fitted.unique {fits : List Char → Prop} {line first second : List Char} (left : Fitted fits line first)
    (right : Fitted fits line second) : first = second := by
  cases left with
  | whole whole =>
    cases right with
    | whole => rfl
    | nothing wide | cut wide => exact absurd whole wide
  | nothing wide narrow =>
    cases right with
    | whole whole => exact absurd whole wide
    | nothing => rfl
    | cut _ room => exact absurd room narrow
  | cut wide room isPrefix fitting longest =>
    cases right with
    | whole whole => exact absurd whole wide
    | nothing _ narrow => exact absurd room narrow
    | cut _ _ isPrefix' fitting' longest' =>
      have shorter := longest' _ isPrefix fitting
      have longer := longest _ isPrefix' fitting'
      rw [shorter.eq_of_length_le longer.length_le]

/-- A longer prefix of the line before the ellipsis is not narrower. -/
def GrowsBeforeEllipsis (measure : List Char → Float32) (line : List Char) : Prop :=
  ∀ short long, short <+: long → long <+: line → measure (short ++ [ellipsis]) ≤ measure (long ++ [ellipsis])

theorem growsBeforeEllipsis_iff {measure : List Char → Float32} {line : List Char} :
    GrowsBeforeEllipsis measure line ↔
      ∀ long ≤ line.length, ∀ short ≤ long, measure (elided line short) ≤ measure (elided line long) := by
  constructor
  · intro grows long _ short order
    exact grows _ _ (List.take_prefix_take_left order) (List.take_prefix long line)
  · intro grows short long isPrefix isLong
    have isShort := isPrefix.trans isLong
    rw [List.prefix_iff_eq_take.mp isLong, List.prefix_iff_eq_take.mp isShort]
    exact grows long.length isLong.length_le short.length isPrefix.length_le

section Fitting

variable {measure : List Char → Float32} {text line kept : List Char} {width : Float32}

theorem GrowsBeforeEllipsis.antitone (grows : GrowsBeforeEllipsis measure line) :
    Antitone (fits measure width line) := by
  intro short long order
  refine Bool.le_iff_imp.mpr ?_
  intro fitting
  rw [fits, decide_eq_true_iff] at fitting ⊢
  exact Floats.le_trans (grows _ _ (List.take_prefix_take_left order) (List.take_prefix long line)) fitting

theorem GrowsBeforeEllipsis.isNaN (grows : GrowsBeforeEllipsis measure line) :
    (measure [ellipsis]).isNaN = false :=
  (Floats.numbers_of_le (grows [] [] List.prefix_rfl List.nil_prefix)).1

/-- The search starts at the ellipsis alone and measures wherever it moves to. -/
theorem elided_bisectLast_le (room : measure [ellipsis] ≤ width) (upper : Nat) :
    measure (elided line (bisectLast (fits measure width line) 0 upper)) ≤ width := by
  by_cases moved : 0 < bisectLast (fits measure width line) 0 upper
  · exact of_decide_eq_true (reached_bisectLast moved)
  · rw [Nat.eq_zero_of_not_pos moved]
    exact room

theorem prefix_bisectLast (grows : GrowsBeforeEllipsis measure line) (isPrefix : kept <+: line)
    (fitting : measure (kept ++ [ellipsis]) ≤ width) :
    kept <+: line.take (bisectLast (fits measure width line) 0 line.length) := by
  refine List.prefix_take_iff.mpr ⟨isPrefix, ?_⟩
  by_cases empty : kept.length = 0
  · omega
  · refine (le_bisectLast_iff grows.antitone (Nat.pos_of_ne_zero empty) isPrefix.length_le).mpr ?_
    rw [fits, decide_eq_true_iff, elided, ← List.prefix_iff_eq_take.mp isPrefix]
    exact fitting

theorem fitSingleLineBy_best (number : width.isNaN = false)
    (grows : GrowsBeforeEllipsis measure (normalized text)) :
    Fitted (fun candidate => measure candidate ≤ width) (normalized text) (fitSingleLineBy text width measure) := by
  simp only [fitSingleLineBy]
  split
  next whole => exact .whole whole
  next wide =>
    split
    next narrow => exact .nothing wide ((Floats.not_le_iff_lt grows.isNaN number).mpr narrow)
    next fitting =>
      have room : measure [ellipsis] ≤ width := (Floats.not_lt_iff_le grows.isNaN number).mp fitting
      refine .cut wide room (List.take_prefix _ _) (elided_bisectLast_le room _) ?_
      intro longer isPrefix fitting
      exact prefix_bisectLast grows isPrefix fitting

/-- The line is the normalized text, and what is made of it is the best that fits; nothing else is either. -/
theorem fitSingleLineBy_fitted (number : width.isNaN = false)
    (grows : GrowsBeforeEllipsis measure (normalized text)) :
    (Normalizes text (normalized text) ∧
      Fitted (fun candidate => measure candidate ≤ width) (normalized text) (fitSingleLineBy text width measure)) ∧
    ∀ line best, Normalizes text line → Fitted (fun candidate => measure candidate ≤ width) line best →
      line = normalized text ∧ best = fitSingleLineBy text width measure := by
  have fitted := fitSingleLineBy_best number grows
  refine ⟨⟨normalizes_normalized text, fitted⟩, ?_⟩
  intro line best normalizes isBest
  have isLine := normalizes.eq_normalized
  subst isLine
  exact ⟨rfl, isBest.unique fitted⟩

/-- How wide the characters of the sample are: ten for an ideograph, and one for any other. -/
def sampleMeasure (text : List Char) : Float32 := (text.map fun character => if character = '界' then 10 else 1).sum

def sampleText : List Char := ['界', ' ', '\n', '界', '界', '界', ' ']

theorem fitSingleLineBy_fitted_sample :
    fitSingleLineBy sampleText 22 sampleMeasure = ['界', ' ', '界', ellipsis] ∧
      Fitted (fun candidate => sampleMeasure candidate ≤ 22) (normalized sampleText)
        ['界', ' ', '界', ellipsis] := by
  have result : fitSingleLineBy sampleText 22 sampleMeasure = ['界', ' ', '界', ellipsis] := by decide +kernel
  have grows : GrowsBeforeEllipsis sampleMeasure (normalized sampleText) :=
    growsBeforeEllipsis_iff.mpr (by decide +kernel)
  refine ⟨result, ?_⟩
  rw [← result]
  exact (fitSingleLineBy_fitted (by decide +kernel) grows).1.2

/-- Whatever the measure, a text never comes out too wide. -/
theorem fitSingleLineBy_le (number : width.isNaN = false) (measured : (measure [ellipsis]).isNaN = false) :
    fitSingleLineBy text width measure = [] ∨ measure (fitSingleLineBy text width measure) ≤ width := by
  simp only [fitSingleLineBy]
  split
  next whole => exact .inr whole
  next =>
    split
    next => exact .inl rfl
    next fitting => exact .inr (elided_bisectLast_le ((Floats.not_lt_iff_le measured number).mp fitting) _)

/-- No text is as wide as what is not a number, and none is wider: the ellipsis is all that is left. -/
theorem fitSingleLineBy_of_isNaN (unranked : width.isNaN = true) :
    fitSingleLineBy text width measure = [ellipsis] := by
  have still : bisectLast (fits measure width (normalized text)) 0 (normalized text).length = 0 := by
    by_contra moved
    have fitting := reached_bisectLast (Nat.pos_of_ne_zero moved)
    exact Floats.not_le_of_isNaN unranked (of_decide_eq_true fitting)
  simp only [fitSingleLineBy, if_neg (Floats.not_le_of_isNaN unranked), gt_iff_lt,
    if_neg (Floats.not_lt_of_isNaN unranked), still]
  rfl

end Fitting

/-- The overlay passes widths in whole pixels, and how wide a layout is is always a number. -/
theorem fitSingleLine_le (layoutRuns : List Char → List Float32) (text : List Char) (width : UInt32) :
    fitSingleLine layoutRuns text width.toFloat32 = [] ∨
      (layoutRuns (fitSingleLine layoutRuns text width.toFloat32)).foldl Floats.maxNum 0 ≤ width.toFloat32 :=
  fitSingleLineBy_le (Floats.toFloat32_isNaN width) (Floats.foldl_maxNum_isNaN _ (by decide))

end Genkan.Locker
