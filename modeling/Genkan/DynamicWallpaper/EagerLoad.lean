import Mathlib.Algebra.Order.BigOperators.Group.List
import Mathlib.Algebra.Order.Group.Nat
import Genkan.DynamicWallpaper.BoxWalk

/-! # What an accepted container makes the parser load

The parser loads some items while it parses, each from one location record.  Whichever records it
takes, their declared bytes together are within the budget.
-/

namespace Genkan.DynamicWallpaper.Container

open Foundations.Bytes Foundations.Results Heic

/-! ## The check of the declared bytes -/

def larger (id largest : Nat) (extent : Extent) : Nat :=
  if extent.id = id then max largest extent.bytes else largest

/-- The declared bytes of the largest record of an item. -/
def largest (extents : List Extent) (id : Nat) : Nat := extents.foldl (larger id) 0

theorem larger_bounds (id start : Nat) (extents : List Extent) :
    start ≤ extents.foldl (larger id) start ∧
      ∀ extent ∈ extents, extent.id = id → extent.bytes ≤ extents.foldl (larger id) start := by
  induction extents generalizing start with
  | nil => exact ⟨Nat.le_refl start, by simp⟩
  | cons head extents inductionHypothesis =>
    obtain ⟨keeps, covers⟩ := inductionHypothesis (larger id start head)
    rw [List.foldl_cons, List.forall_mem_cons]
    refine ⟨Nat.le_trans ?_ keeps, ?_, covers⟩
    · rw [larger]
      split
      next => exact Nat.le_max_left _ _
      next => exact Nat.le_refl _
    · intro isHead
      refine Nat.le_trans ?_ keeps
      rw [larger, if_pos isHead]
      exact Nat.le_max_right _ _

theorem bytes_le_largest {extents : List Extent} {extent : Extent} (member : extent ∈ extents) :
    extent.bytes ≤ largest extents extent.id :=
  (larger_bounds extent.id 0 extents).2 extent member rfl

theorem foldlM_total {items : List Nat} {bytes : Nat → Nat} {error : Error} {start total : Nat}
    (folds : items.foldlM (fun total id => okOr (checkedAdd total (bytes id)) error) start = .ok total) :
    total = start + (items.map bytes).sum := by
  induction items generalizing start with
  | nil => exact (Except.ok.inj folds).symm
  | cons item items inductionHypothesis =>
    rw [List.foldlM_cons, bind_eq_ok] at folds
    obtain ⟨next, adds, folds⟩ := folds
    obtain ⟨isNext, _⟩ := checkedAdd_eq_some.mp (okOr_eq_ok.mp adds)
    rw [inductionHypothesis folds, List.map_cons, List.sum_cons, ← isNext, Nat.add_assoc]

theorem checkMetadataBytes_bound {budget : Budget} {walk : Walk}
    (accepts : checkMetadataBytes budget walk = .ok ()) :
    (walk.metadataItems.map (largest walk.extents)).sum ≤ budget.maxMetadataBytes.toNat := by
  obtain ⟨total, folds, within⟩ := bind_eq_ok.mp accepts
  have isTotal := foldlM_total folds
  rw [Nat.zero_add] at isTotal
  exact isTotal ▸ Nat.le_of_not_lt (rejectIf_eq_ok.mp within)

theorem foldlM_adds {items : List Nat} {bytes : Nat → Nat} {error : Error} {start : Nat}
    (fits : start + (items.map bytes).sum < usizeLimit) :
    items.foldlM (fun total id => okOr (checkedAdd total (bytes id)) error) start =
      .ok (start + (items.map bytes).sum) := by
  induction items generalizing start with
  | nil => rfl
  | cons item items inductionHypothesis =>
    rw [List.map_cons, List.sum_cons, ← Nat.add_assoc] at fits ⊢
    have adds : checkedAdd start (bytes item) = some (start + bytes item) :=
      checkedAdd_eq_some.mpr ⟨rfl, by omega⟩
    rw [List.foldlM_cons, adds]
    exact inductionHypothesis fits

theorem checkMetadataBytes_eq_ok {budget : Budget} {walk : Walk} :
    checkMetadataBytes budget walk = .ok () ↔
      (walk.metadataItems.map (largest walk.extents)).sum ≤ budget.maxMetadataBytes.toNat := by
  constructor
  · exact checkMetadataBytes_bound
  · intro bound
    have word := budget.maxMetadataBytes.toNat_lt
    have fits : 0 + (walk.metadataItems.map (largest walk.extents)).sum < usizeLimit := by
      simp only [usizeLimit]
      omega
    apply bind_eq_ok.mpr
    refine ⟨_, foldlM_adds fits, rejectIf_eq_ok.mpr ?_⟩
    rw [Nat.zero_add]
    exact Nat.not_lt.mpr bound

/-! ## The records of the tree -/

theorem Walk.takeAll_extents (walk : Walk) (contents : List Content) :
    (walk.takeAll contents).extents =
      walk.extents ++ (contents.flatMap Content.records).map LocationRecord.extent := by
  induction contents generalizing walk with
  | nil => simp [takeAll]
  | cons content contents inductionHypothesis =>
    have first : (walk.take content).extents =
        walk.extents ++ content.records.map LocationRecord.extent := by
      cases content <;> simp [take, Content.records]
    have later : ((walk.take content).takeAll contents).extents = _ := inductionHypothesis _
    rw [List.flatMap_cons, List.map_append, ← List.append_assoc, ← first]
    exact later

/-- A box somewhere in the tree declares the item as one that is loaded eagerly. -/
def Boxes.Declares (boxes : Boxes) (id : Nat) : Prop := .item id true ∈ boxes.contents

theorem Boxes.declares_iff {boxes : Boxes} {id : Nat} : boxes.Declares id ↔ id ∈ boxes.eagerItems := by
  rw [Declares, eagerItems, List.mem_dedup, List.mem_flatMap]
  constructor
  · intro member
    exact ⟨.item id true, member, List.mem_singleton_self id⟩
  · rintro ⟨content, member, isEager⟩
    match content, isEager with
    | .item other true, isOther =>
      rw [List.mem_singleton.mp isOther]
      exact member

/-- A choice of at most one location record of the tree for each item. -/
def Boxes.Chooses (boxes : Boxes) (choice : Nat → Option LocationRecord) : Prop :=
  ∀ id record, choice id = some record → record ∈ boxes.records ∧ record.id = id

/-- The bytes that the record of an item declares. -/
def chosenBytes (choice : Nat → Option LocationRecord) (id : Nat) : Nat :=
  ((choice id).map fun record => record.lengths.sum).getD 0

theorem Boxes.Chooses.le_largest {boxes : Boxes} {choice : Nat → Option LocationRecord}
    (chooses : boxes.Chooses choice) (id : Nat) :
    chosenBytes choice id ≤ largest (({} : Walk).takeAll boxes.contents).extents id := by
  cases isChosen : choice id with
  | none => simp [chosenBytes, isChosen]
  | some record =>
    obtain ⟨member, rfl⟩ := chooses id record isChosen
    have extent : record.extent ∈ (({} : Walk).takeAll boxes.contents).extents := by
      rw [Walk.takeAll_extents]
      exact List.mem_append_right _ (List.mem_map_of_mem member)
    rw [chosenBytes, isChosen]
    exact bytes_le_largest extent

/-! ## Accepted files -/

/-- What the preflight checks of a walk, once no box is refused. -/
structure Walk.Acceptable (budget : Budget) (walk : Walk) : Prop where
  within : walk.Within budget
  described : ¬(walk.sawMeta = false ∧ walk.sawMini = false ∧ walk.sequenceBrand = false)
  loads : (walk.metadataItems.map (largest walk.extents)).sum ≤ budget.maxMetadataBytes.toNat

/-- A file is accepted where it has a tree whose contents are. -/
theorem preflight_eq_ok {slice : Slice} {budget : Budget} :
    preflight slice budget = .ok () ↔
      ∃ tree : Boxes, tree.Placed slice true 0 slice.length ∧
        tree.height ≤ budget.maxContainerDepth.toNat + 1 ∧
        (∀ content ∈ tree.contents, content.Fits budget) ∧
        (({} : Walk).takeAll tree.contents).Acceptable budget := by
  constructor
  · intro accepted
    obtain ⟨walk, walks, accepted⟩ := bind_eq_ok.mp accepted
    obtain ⟨_, described, loads⟩ := bind_eq_ok.mp accepted
    obtain ⟨tree, placed, allowed⟩ := walkFile_eq_ok.mp walks
    obtain ⟨depth, fits, isWalk, within⟩ := Boxes.covers_iff.mpr allowed
    subst isWalk
    exact ⟨tree, placed, depth, fits, within, rejectIf_eq_ok.mp described, checkMetadataBytes_eq_ok.mp loads⟩
  · intro acceptable
    obtain ⟨tree, placed, depth, fits, within, described, loads⟩ := acceptable
    have allowed := Boxes.covers_iff.mp ⟨depth, fits, rfl, within⟩
    apply bind_eq_ok.mpr
    refine ⟨_, walkFile_eq_ok.mpr ⟨tree, placed, allowed⟩, bind_eq_ok.mpr ⟨(), ?_, ?_⟩⟩
    · exact rejectIf_eq_ok.mpr described
    · exact checkMetadataBytes_eq_ok.mpr loads

/-- An accepted file is one box tree.  The items that its boxes declare as loaded eagerly are within the
budget, and so are the bytes that any choice of location records declares for them together. -/
theorem eager_load_bound {slice : Slice} {budget : Budget} (accepted : preflight slice budget = .ok ()) :
    ∃ boxes : Boxes, (∀ other : Boxes, other.Placed slice true 0 slice.length ↔ other = boxes) ∧
      ∃ items : List Nat, items.Nodup ∧ (∀ id, id ∈ items ↔ boxes.Declares id) ∧
        items.length ≤ budget.maxMetadataItems.toNat ∧
        ∀ choice, boxes.Chooses choice →
          (items.map (chosenBytes choice)).sum ≤ budget.maxMetadataBytes.toNat := by
  obtain ⟨boxes, placed, _, _, within, _, loads⟩ := preflight_eq_ok.mp accepted
  have nothing : ({} : Walk).metadataItems.Nodup := List.nodup_nil
  obtain ⟨distinct, members⟩ := Walk.takeAll_metadataItems nothing boxes.contents
  refine ⟨boxes, ?_, (({} : Walk).takeAll boxes.contents).metadataItems, distinct, ?_, ?_, ?_⟩
  · intro other
    exact ⟨fun otherPlaced => otherPlaced.unique placed (by simp), fun same => same ▸ placed⟩
  · intro id
    rw [members, Boxes.declares_iff, Boxes.eagerItems, List.mem_dedup]
    exact or_iff_right (List.not_mem_nil)
  · exact within.metadataItems
  · intro choice chooses
    exact Nat.le_trans (List.sum_le_sum fun id _ => chooses.le_largest id) loads

/-! ## A decoy -/

def decoyBudget : Budget where
  maxContainerItems := 2
  maxContainerAssociations := 0
  maxMetadataItems := 1
  maxMetadataBytes := 5
  maxContainerBoxes := 3
  maxContainerDepth := 0
  maxItemExtents := 1

/-- An item that is loaded eagerly, with an empty record before the one of five bytes. -/
def decoyFile : Slice :=
  ⟨[0, 0, 0, 8, 109, 105, 110, 105] ++
    [0, 0, 0, 20, 105, 110, 102, 101, 2, 0, 0, 0, 0, 1, 0, 0, 69, 120, 105, 102] ++
    [0, 0, 0, 36, 105, 108, 111, 99, 0, 0, 0, 0, 4, 0, 0, 2] ++
    [0, 1, 0, 0, 0, 1, 0, 0, 0, 0] ++ [0, 1, 0, 0, 0, 1, 0, 0, 0, 5], by decide⟩

def decoyTree : Boxes :=
  .box { kind := fourcc 'm' 'i' 'n' 'i', bodyStart := 8, bodyEnd := 8, next := 8 } .minimised .empty
    (.box { kind := fourcc 'i' 'n' 'f' 'e', bodyStart := 16, bodyEnd := 28, next := 28 } (.item 1 true) .empty
      (.box { kind := fourcc 'i' 'l' 'o' 'c', bodyStart := 36, bodyEnd := 64, next := 64 }
        (.locations [⟨1, [0]⟩, ⟨1, [5]⟩]) .empty .empty))

theorem decoyTree_placed : decoyTree.Placed decoyFile true 0 decoyFile.length := by
  refine ⟨?_, ⟨.leaf, ⟨rfl, rfl⟩, rfl⟩, ?_, ⟨.leaf, ?_, rfl⟩, ?_, ⟨.leaf, ?_, rfl⟩, fun _ => rfl⟩
  · decide
  · decide
  · exact ⟨1, fourcc 'E' 'x' 'i' 'f', [], rfl, rfl, rfl⟩
  · decide
  · refine ⟨[⟨1, [0]⟩, ⟨1, [5]⟩], ⟨0, 0, 4, 0, 0⟩, ⟨rfl, by decide, by decide, ?_⟩, rfl, rfl⟩
    refine ⟨by decide, by decide, by decide, 54, ⟨by decide, by decide, rfl⟩, ?_⟩
    exact ⟨by decide, by decide, by decide, 64, ⟨by decide, by decide, rfl⟩, trivial⟩

theorem decoyFile_accepted : preflight decoyFile decoyBudget = .ok () := by
  have within : decoyTree.Within decoyBudget := by decide
  have loads : decoyTree.Loads decoyBudget := by decide
  have walks := walkFile_eq_ok.mpr ⟨decoyTree, decoyTree_placed, ⟨within, loads⟩, rfl⟩
  rw [preflight, walks]
  decide

/-- Whichever of the two records of the item is taken, it declares at most five bytes. -/
theorem eager_load_bound_decoy :
    preflight decoyFile decoyBudget = .ok () ∧
    ∃ boxes : Boxes, (∀ other : Boxes, other.Placed decoyFile true 0 decoyFile.length ↔ other = boxes) ∧
      ∃ items : List Nat, items.Nodup ∧ (∀ id, id ∈ items ↔ boxes.Declares id) ∧
        items.length ≤ 1 ∧
        ∀ choice, boxes.Chooses choice → (items.map (chosenBytes choice)).sum ≤ 5 :=
  ⟨decoyFile_accepted, eager_load_bound decoyFile_accepted⟩

end Genkan.DynamicWallpaper.Container
