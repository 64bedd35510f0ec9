import Genkan.Foundations.Signed
import Genkan.OutputSelection

/-! # The region of the authentication output

The greeter places its card on one output of the layout.  The edges of the layout are taken over all
outputs: the right ones saturate, and the differences are plain subtractions of 32 bits.  The region
is modelled before its conversion to floating point, and `none` outside is a panic.
-/

namespace Genkan.Greeter

open Foundations OutputSelection

structure Output where
  name : Option String
  position : I32 × I32
  size : I32 × I32
  deriving DecidableEq, Repr

structure Region where
  x : Int
  y : Int
  width : Int
  height : Int
  layoutWidth : Int
  layoutHeight : Int
  deriving DecidableEq, Repr

/-- One of the two coordinates of a position or a size. -/
abbrev Axis := I32 × I32 → I32

def lowestEdge (axis : Axis) (outputs : List Output) : Option Int :=
  (outputs.map fun output => (axis output.position).value).min?

def highestEdge (axis : Axis) (outputs : List Output) : Option Int :=
  (outputs.map fun output => (axis output.position).saturatingAdd (axis output.size)).max?

/-- The index of the output that is selected by name. -/
def selectedOutput (outputs : List Output) (requested : Option String) : Option Nat :=
  select (outputs.zipIdx.map fun (output, index) => (index, output.name)) requested

def selectRegion (outputs : List Output) (requested : Option String) : Option (Option Region) :=
  match selectedOutput outputs requested, lowestEdge Prod.fst outputs, lowestEdge Prod.snd outputs,
    highestEdge Prod.fst outputs, highestEdge Prod.snd outputs with
  | some selected, some minX, some minY, some maxX, some maxY => do
    let output ← outputs[selected]?
    let x ← I32.checkedSub output.position.1.value minX
    let y ← I32.checkedSub output.position.2.value minY
    let layoutWidth ← I32.checkedSub maxX minX
    let layoutHeight ← I32.checkedSub maxY minY
    pure <| some
      { x, y, width := output.size.1.value, height := output.size.2.value, layoutWidth, layoutHeight }
  | _, _, _, _, _ => some none

/-- `Discovery::outputs` drops the outputs without a size. -/
def Output.Sized (output : Output) : Prop := 0 < output.size.1.value ∧ 0 < output.size.2.value

instance (output : Output) : Decidable output.Sized := inferInstanceAs (Decidable (_ ∧ _))

/-! ## What the layout offers -/

variable {outputs : List Output} {requested : Option String}

theorem selectedOutput_exists (nonempty : outputs ≠ []) (requested : Option String) :
    ∃ index output, selectedOutput outputs requested = some index ∧ outputs[index]? = some output := by
  have numbered : (outputs.zipIdx.map fun (output, index) => (index, output.name)) ≠ [] := by
    simp [nonempty]
  obtain ⟨index, isSelected⟩ := Option.isSome_iff_exists.mp (select_isSome numbered requested)
  obtain ⟨name, member⟩ := select_mem isSelected
  obtain ⟨⟨output, place⟩, isEntry, same⟩ := List.mem_map.mp member
  cases same
  exact ⟨_, output, isSelected, List.mem_zipIdx_iff_getElem?.mp isEntry⟩

theorem lowestEdge_exists (nonempty : outputs ≠ []) (axis : Axis) :
    ∃ lowest, lowestEdge axis outputs = some lowest ∧
      (∃ output ∈ outputs, (axis output.position).value = lowest) ∧
      ∀ output ∈ outputs, lowest ≤ (axis output.position).value := by
  obtain ⟨lowest, isLowest⟩ := Option.isSome_iff_exists.mp (List.isSome_min?_of_ne_nil
    (l := outputs.map fun output => (axis output.position).value) (by simpa using nonempty))
  obtain ⟨member, bound⟩ := List.min?_eq_some_iff.mp isLowest
  exact ⟨lowest, isLowest, List.mem_map.mp member, fun output isOutput => bound _ (List.mem_map_of_mem isOutput)⟩

theorem highestEdge_exists (nonempty : outputs ≠ []) (axis : Axis) :
    ∃ highest, highestEdge axis outputs = some highest ∧
      (∃ output ∈ outputs, (axis output.position).saturatingAdd (axis output.size) = highest) ∧
      ∀ output ∈ outputs, (axis output.position).saturatingAdd (axis output.size) ≤ highest := by
  obtain ⟨highest, isHighest⟩ := Option.isSome_iff_exists.mp (List.isSome_max?_of_ne_nil
    (l := outputs.map fun output => (axis output.position).saturatingAdd (axis output.size))
    (by simpa using nonempty))
  obtain ⟨member, bound⟩ := List.max?_eq_some_iff.mp isHighest
  exact ⟨highest, isHighest, List.mem_map.mp member, fun output isOutput => bound _ (List.mem_map_of_mem isOutput)⟩

/-! ## One axis -/

/-- The span of the output and the distance from the lowest to the highest edge of the layout both
stay within the integers of 32 bits. -/
def Fits (axis : Axis) (outputs : List Output) (selected : Output) : Prop :=
  (axis selected.position).value + (axis selected.size).value ≤ I32.maximum ∧
    ∀ lowest ∈ outputs, ∀ highest ∈ outputs,
      (axis highest.position).saturatingAdd (axis highest.size) - (axis lowest.position).value ≤ I32.maximum

instance (axis : Axis) (outputs : List Output) (selected : Output) :
    Decidable (Fits axis outputs selected) :=
  inferInstanceAs (Decidable (_ ∧ _))

theorem axis_inside_iff {axis : Axis} {selected : Output} {lowest highest : Int}
    (member : selected ∈ outputs) (sized : ∀ output ∈ outputs, 0 < (axis output.size).value)
    (reached : ∃ output ∈ outputs, (axis output.position).value = lowest)
    (isLowest : ∀ output ∈ outputs, lowest ≤ (axis output.position).value)
    (attained : ∃ output ∈ outputs, (axis output.position).saturatingAdd (axis output.size) = highest)
    (isHighest : ∀ output ∈ outputs, (axis output.position).saturatingAdd (axis output.size) ≤ highest) :
    (∃ start extent, I32.checkedSub (axis selected.position).value lowest = some start ∧
        I32.checkedSub highest lowest = some extent ∧
        0 ≤ start ∧ start + (axis selected.size).value ≤ extent) ↔
      Fits axis outputs selected := by
  have positive := sized selected member
  have below := isHighest selected member
  have above := isLowest selected member
  rw [I32.saturatingAdd_of_nonneg positive.le] at below
  constructor
  · intro ⟨start, extent, starts, reaches, _, inside⟩
    obtain ⟨isStart, _⟩ := I32.checkedSub_eq_some.mp starts
    obtain ⟨isExtent, _, fits⟩ := I32.checkedSub_eq_some.mp reaches
    constructor
    · -- A saturated edge would leave no room for the selected output.
      obtain ⟨output, isOutput, isEdge⟩ := attained
      rw [I32.saturatingAdd_of_nonneg (sized output isOutput).le] at isEdge
      omega
    · intro left isLeft right isRight
      have leftmost := isLowest left isLeft
      have rightmost := isHighest right isRight
      omega
  · intro ⟨span, layout⟩
    obtain ⟨left, isLeft, isStart⟩ := reached
    obtain ⟨right, isRight, isEnd⟩ := attained
    have extent := layout left isLeft right isRight
    rw [min_eq_right span] at below
    rw [isStart, isEnd] at extent
    have start : I32.checkedSub (axis selected.position).value lowest =
        some ((axis selected.position).value - lowest) := by
      simp only [I32.checkedSub_eq_some, I32.minimum, I32.maximum, true_and] at extent ⊢
      omega
    have reaches : I32.checkedSub highest lowest = some (highest - lowest) := by
      simp only [I32.checkedSub_eq_some, I32.minimum, I32.maximum, true_and] at extent ⊢
      omega
    exact ⟨_, _, start, reaches, by omega, by omega⟩

/-! ## The region -/

/-- The region is computed without an overflow, and it lies inside the layout. -/
def Inside (outputs : List Output) (requested : Option String) : Prop :=
  ∃ region, selectRegion outputs requested = some (some region) ∧
    0 ≤ region.x ∧ region.x + region.width ≤ region.layoutWidth ∧
    0 ≤ region.y ∧ region.y + region.height ≤ region.layoutHeight

/-- The exact condition, on each axis for the output that is selected. -/
def LayoutFits (outputs : List Output) (requested : Option String) : Prop :=
  ∀ index ∈ selectedOutput outputs requested, ∀ selected ∈ outputs[index]?,
    Fits Prod.fst outputs selected ∧ Fits Prod.snd outputs selected

instance (outputs : List Output) (requested : Option String) : Decidable (LayoutFits outputs requested) :=
  inferInstanceAs (Decidable (∀ index ∈ selectedOutput outputs requested, ∀ selected ∈ outputs[index]?, _))

theorem selectRegion_inside_iff (nonempty : outputs ≠ []) (sized : ∀ output ∈ outputs, output.Sized)
    (requested : Option String) : Inside outputs requested ↔ LayoutFits outputs requested := by
  obtain ⟨index, selected, isSelected, isOutput⟩ := selectedOutput_exists nonempty requested
  obtain ⟨minX, isMinX, reachedX, lowestX⟩ := lowestEdge_exists nonempty Prod.fst
  obtain ⟨minY, isMinY, reachedY, lowestY⟩ := lowestEdge_exists nonempty Prod.snd
  obtain ⟨maxX, isMaxX, attainedX, highestX⟩ := highestEdge_exists nonempty Prod.fst
  obtain ⟨maxY, isMaxY, attainedY, highestY⟩ := highestEdge_exists nonempty Prod.snd
  have member : selected ∈ outputs := List.mem_of_getElem? isOutput
  have horizontal := axis_inside_iff member (fun output isOutput => (sized output isOutput).1)
    reachedX lowestX attainedX highestX
  have vertical := axis_inside_iff member (fun output isOutput => (sized output isOutput).2)
    reachedY lowestY attainedY highestY
  have condition : LayoutFits outputs requested ↔
      Fits Prod.fst outputs selected ∧ Fits Prod.snd outputs selected := by
    simp [LayoutFits, isSelected, isOutput]
  rw [condition, ← horizontal, ← vertical]
  simp only [Inside, selectRegion, isSelected, isMinX, isMinY, isMaxX, isMaxY, isOutput,
    Option.bind_eq_bind, Option.bind_some, Option.bind_eq_some_iff, Option.pure_def, Option.some.injEq]
  constructor
  · rintro ⟨region, ⟨x, startsX, y, startsY, width, extentX, height, extentY, isRegion⟩, insideX⟩
    subst isRegion
    exact ⟨⟨x, width, startsX, extentX, insideX.1, insideX.2.1⟩, y, height, startsY, extentY, insideX.2.2⟩
  · rintro ⟨⟨x, width, startsX, extentX, insideX⟩, y, height, startsY, extentY, insideY⟩
    exact ⟨_, ⟨x, startsX, y, startsY, width, extentX, height, extentY, rfl⟩, insideX.1, insideX.2, insideY⟩

/-- An output of 1920 by 1080 on the horizontal axis. -/
def outputAt (name : String) (x : Int) (lower : -2147483648 ≤ x) (upper : x ≤ 2147483647) : Output :=
  { name := some name
    position := (⟨x, lower, upper⟩, ⟨0, by decide, by decide⟩)
    size := (⟨1920, by decide, by decide⟩, ⟨1080, by decide, by decide⟩) }

/-- The docked layout: the panel on the left of a monitor. -/
theorem selectRegion_inside_docked :
    Inside [outputAt "eDP-1" (-1920) (by decide) (by decide), outputAt "DP-1" 0 (by decide) (by decide)] none :=
  (selectRegion_inside_iff (by decide) (by decide) none).mpr (by decide)

/-- With one output at the left end of the coordinates and one at zero, the width of the layout
overflows. -/
theorem selectRegion_overflows :
    ¬ ∀ outputs requested, outputs ≠ [] → (∀ output ∈ outputs, output.Sized) → Inside outputs requested := by
  intro inside
  obtain ⟨region, isRegion, _⟩ := inside
    [outputAt "DP-1" (-2147483648) (by decide) (by decide), outputAt "DP-2" 0 (by decide) (by decide)]
    none (by decide) (by decide)
  have overflows : selectRegion
      [outputAt "DP-1" (-2147483648) (by decide) (by decide), outputAt "DP-2" 0 (by decide) (by decide)]
      none = none := by decide
  rw [overflows] at isRegion
  cases isRegion

end Genkan.Greeter
