import Mathlib.Data.List.Perm.Basic
import Genkan.DynamicWallpaper.BoxTranslation
import Genkan.DynamicWallpaper.EagerLoad

/-! # The order of the boxes of a file

The tree of a file is made of the trees of its top-level boxes, each read by itself, and the preflight
checks of a tree only what does not depend on the order of its boxes, unless file types disagree.
-/

namespace Genkan.DynamicWallpaper.Container

open Foundations.Bytes Foundations.Results Heic

/-! ## Top-level boxes -/

/-- Bytes that are one box, of the size that its header says. -/
structure TopLevelBox where
  slice : Slice
  readable : 8 ≤ slice.length
  readableSize : declaredSize slice 0 = 1 → 16 ≤ slice.length
  sized : declaredSize slice 0 ≠ 0
  complete : boxLength slice 0 slice.length = slice.length

/-- The bytes of a file that has these boxes. -/
def concatenation (boxes : List TopLevelBox) : List UInt8 := boxes.flatMap fun box => box.slice.bytes

/-- The tree of the box, were it a file of its own. -/
def TopLevelBox.Reads (box : TopLevelBox) (tree : Boxes) : Prop :=
  tree.Placed box.slice true 0 box.slice.length

/-- Whether the file type has a sequence brand, for a box that declares one. -/
def Content.brands : Content → List Bool
  | .fileType sequence => [sequence]
  | _ => []

/-- Of the boxes and all that are nested in them, at most one is a file type.  Nothing is asked of boxes
that have no tree. -/
def AtMostOneFileType (boxes : List TopLevelBox) : Prop :=
  ∀ forest : List Boxes, List.Forall₂ TopLevelBox.Reads boxes forest →
    ((forest.flatMap Boxes.contents).flatMap Content.brands).length ≤ 1

/-! ## A file from one of its boxes on -/

/-- What the file has from an offset on are the boxes. -/
structure Remains (file : Slice) (offset : Nat) (boxes : List TopLevelBox) : Prop where
  within : offset ≤ file.length
  isRest : file.bytes.drop offset = concatenation boxes

section

variable {file : Slice} {offset : Nat} {box : TopLevelBox} {boxes : List TopLevelBox}

theorem Remains.start (isFile : file.bytes = concatenation boxes) : Remains file 0 boxes :=
  ⟨Nat.zero_le _, isFile⟩

theorem Remains.finished (remains : Remains file offset []) : offset = file.length := by
  have nothing : file.length ≤ offset := List.drop_eq_nil_iff.mp remains.isRest
  exact Nat.le_antisymm remains.within nothing

theorem Remains.length_eq (remains : Remains file offset (box :: boxes)) :
    file.length - offset = box.slice.length + (concatenation boxes).length := by
  have sameLength := congrArg List.length remains.isRest
  rw [List.length_drop, concatenation, List.flatMap_cons, List.length_append] at sameLength
  exact sameLength

/-- The file has the first of the boxes as a part. -/
theorem Remains.embeds (remains : Remains file offset (box :: boxes)) : Embeds box.slice file offset := by
  have sameLength := remains.length_eq
  have readable := box.readable
  constructor
  · rw [Slice.part, remains.isRest, concatenation, List.flatMap_cons, Slice.length, List.take_left]
  · omega

theorem Remains.next (remains : Remains file offset (box :: boxes)) :
    Remains file (offset + box.slice.length) boxes := by
  refine ⟨remains.embeds.inside, ?_⟩
  rw [← List.drop_drop, remains.isRest, concatenation, List.flatMap_cons, Slice.length, List.drop_left]
  rfl

/-- A box that says its size has the same length wherever its parent ends. -/
theorem Remains.boxLength_eq (remains : Remains file offset (box :: boxes)) (limit : Nat) :
    boxLength file offset limit = box.slice.length := by
  have readable := box.readable
  have sameSize : declaredSize file (offset + 0) = declaredSize box.slice 0 :=
    remains.embeds.number_eq (by omega)
  have there : boxLength file (offset + 0) (offset + box.slice.length) = box.slice.length :=
    (remains.embeds.boxLength_eq (by omega) fun large => by have := box.readableSize large; omega).trans
      box.complete
  rw [Nat.add_zero] at sameSize there
  rw [boxLength, sameSize, if_neg box.sized]
  rw [boxLength, sameSize, if_neg box.sized] at there
  exact there

/-- The first box of the rest of the file ends where the bytes of the first of the boxes do. -/
theorem Remains.bodyEnd_eq (remains : Remains file offset (box :: boxes)) {limit : Nat} {header : Header}
    (isHeader : HeaderAt file offset limit header) : header.bodyEnd = offset + box.slice.length := by
  rw [isHeader.isBodyEnd, remains.boxLength_eq]

/-- Whether the parent ends with the box or with the file, its header is the same. -/
theorem Remains.headerAt (remains : Remains file offset (box :: boxes)) {header : Header} :
    HeaderAt file offset file.length header ↔
      HeaderAt file (offset + 0) (offset + box.slice.length) header := by
  have readable := box.readable
  have inside := remains.embeds.inside
  have sameSize : declaredSize file (offset + 0) = declaredSize box.slice 0 :=
    remains.embeds.number_eq (by omega)
  rw [Nat.add_zero] at sameSize
  rw [Nat.add_zero]
  constructor
  · intro isHeader
    have isEnd := remains.bodyEnd_eq isHeader
    refine ⟨by omega, ?_, isHeader.isKind, isHeader.isBodyStart, ?_, isHeader.isNext, isHeader.covers,
      Nat.le_of_eq isEnd⟩
    · intro large
      have := box.readableSize (sameSize.symm.trans large)
      omega
    · rw [isEnd, remains.boxLength_eq]
  · intro isHeader
    have isEnd := remains.bodyEnd_eq isHeader
    refine ⟨by omega, ?_, isHeader.isKind, isHeader.isBodyStart, ?_, isHeader.isNext, isHeader.covers,
      Nat.le_trans isHeader.inside inside⟩
    · intro large
      have := isHeader.readableSize large
      omega
    · rw [isEnd, remains.boxLength_eq]

/-! ## The trees of the boxes -/

/-- The tree of a file is the tree of its first box and the tree of the others. -/
theorem Remains.split (remains : Remains file offset (box :: boxes)) {tree : Boxes}
    (placed : tree.Placed file true offset file.length) :
    ∃ first later : Boxes, box.Reads first ∧ later.Placed file true (offset + box.slice.length) file.length ∧
      tree.contents = first.contents ++ later.contents ∧ tree.height = max first.height later.height := by
  have readable := box.readable
  have embeds := remains.embeds
  have inside := embeds.inside
  cases tree with
  | empty =>
    have isEnd : offset = file.length := placed rfl
    omega
  | box header content children rest =>
    obtain ⟨isHeader, laid, later⟩ := placed
    have isNext : header.next = offset + box.slice.length :=
      isHeader.isNext.trans (remains.bodyEnd_eq isHeader)
    have alone : (Boxes.box header content children .empty).Placed file true (offset + 0)
        (offset + box.slice.length) := ⟨remains.headerAt.mp isHeader, laid, fun _ => isNext⟩
    obtain ⟨first, isFirst, reads⟩ := alone.unshift embeds (Nat.le_refl _)
    have sameContents := congrArg Boxes.contents isFirst
    have sameHeight := congrArg Boxes.height isFirst
    rw [Boxes.contents_shift] at sameContents
    rw [Boxes.height_shift] at sameHeight
    refine ⟨first, rest, reads, isNext ▸ later, ?_, ?_⟩
    · rw [← sameContents]
      simp [Boxes.contents]
    · rw [← sameHeight]
      simp [Boxes.height]

/-- The tree of the first box and the tree of the others are a tree of the file. -/
theorem Remains.join (remains : Remains file offset (box :: boxes)) {first later : Boxes}
    (reads : box.Reads first) (placed : later.Placed file true (offset + box.slice.length) file.length) :
    ∃ tree : Boxes, tree.Placed file true offset file.length ∧
      tree.contents = first.contents ++ later.contents ∧ tree.height = max first.height later.height := by
  have readable := box.readable
  have shifted := reads.shift remains.embeds (Nat.le_refl _)
  cases first with
  | empty =>
    have isEnd : 0 = box.slice.length := reads rfl
    omega
  | box header content children rest =>
    have isNext : header.next = box.slice.length := by
      rw [reads.1.isNext, reads.1.isBodyEnd, box.complete, Nat.zero_add]
    have alone : rest = .empty := by
      cases rest with
      | empty => rfl
      | box other =>
        have fits := reads.2.2.1.readable
        omega
    obtain ⟨isHeader, laid, _⟩ := shifted
    refine ⟨.box (header.shift offset) content (children.shift offset) later,
      ⟨remains.headerAt.mpr isHeader, laid, ?_⟩, ?_, ?_⟩
    · rw [show (header.shift offset).next = offset + box.slice.length from congrArg (offset + ·) isNext]
      exact placed
    · simp [alone, Boxes.contents]
    · simp [alone, Boxes.height]

/-- The tree has what the trees of the forest have, in their order. -/
structure Joins (tree : Boxes) (forest : List Boxes) : Prop where
  contents : tree.contents = forest.flatMap Boxes.contents
  height : ∀ levels, tree.height ≤ levels ↔ ∀ part ∈ forest, part.height ≤ levels

theorem Joins.nil : Joins .empty [] := ⟨rfl, by simp [Boxes.height]⟩

theorem Joins.cons {tree first later : Boxes} {forest : List Boxes} (joins : Joins later forest)
    (contents : tree.contents = first.contents ++ later.contents)
    (height : tree.height = max first.height later.height) : Joins tree (first :: forest) := by
  constructor
  · rw [contents, joins.contents, List.flatMap_cons]
  · intro levels
    rw [height, Nat.max_le, joins.height, List.forall_mem_cons]

theorem Remains.forest (remains : Remains file offset boxes) {tree : Boxes}
    (placed : tree.Placed file true offset file.length) :
    ∃ forest : List Boxes, List.Forall₂ TopLevelBox.Reads boxes forest ∧ Joins tree forest := by
  induction boxes generalizing offset tree with
  | nil =>
    cases tree with
    | empty => exact ⟨[], .nil, .nil⟩
    | box header =>
      have readable := placed.1.readable
      have isEnd := remains.finished
      omega
  | cons box boxes inductionHypothesis =>
    obtain ⟨first, later, reads, laterPlaced, contents, height⟩ := remains.split placed
    obtain ⟨forest, readsAll, joins⟩ := inductionHypothesis remains.next laterPlaced
    exact ⟨first :: forest, .cons reads readsAll, joins.cons contents height⟩

theorem Remains.tree (remains : Remains file offset boxes) {forest : List Boxes}
    (readsAll : List.Forall₂ TopLevelBox.Reads boxes forest) :
    ∃ tree : Boxes, tree.Placed file true offset file.length ∧ Joins tree forest := by
  induction readsAll generalizing offset with
  | nil => exact ⟨.empty, fun _ => remains.finished, .nil⟩
  | cons reads _ inductionHypothesis =>
    obtain ⟨later, laterPlaced, joins⟩ := inductionHypothesis remains.next
    obtain ⟨tree, placed, contents, height⟩ := remains.join reads laterPlaced
    exact ⟨tree, placed, joins.cons contents height⟩

/-- It is enough to count the file types of the tree of a file that has the boxes. -/
theorem Remains.atMostOneFileType (remains : Remains file offset boxes) {tree : Boxes}
    (placed : tree.Placed file true offset file.length)
    (few : (tree.contents.flatMap Content.brands).length ≤ 1) : AtMostOneFileType boxes := by
  intro forest readsAll
  obtain ⟨joined, joinedPlaced, joins⟩ := remains.tree readsAll
  have isTree : joined = tree := joinedPlaced.unique placed (by simp)
  rw [← joins.contents, isTree]
  exact few

end

/-! ## What the preflight checks of the contents -/

namespace Walk

/-- A flag that each box may raise is raised by one of them. -/
theorem takeAll_flag (flag : Walk → Bool) (raises : Content → Bool)
    (step : ∀ walk content, flag (take walk content) = (flag walk || raises content)) (walk : Walk)
    (contents : List Content) : flag (walk.takeAll contents) = (flag walk || contents.any raises) := by
  induction contents generalizing walk with
  | nil => simp [takeAll]
  | cons content contents inductionHypothesis =>
    have later : flag ((walk.take content).takeAll contents) =
        (flag (walk.take content) || contents.any raises) := inductionHypothesis _
    rw [List.any_cons, ← Bool.or_assoc, ← step]
    exact later

/-- The last file type decides. -/
theorem takeAll_sequenceBrand (walk : Walk) (contents : List Content) :
    (walk.takeAll contents).sequenceBrand =
      (contents.flatMap Content.brands).getLastD walk.sequenceBrand := by
  induction contents generalizing walk with
  | nil => rfl
  | cons content contents inductionHypothesis =>
    have later : ((walk.take content).takeAll contents).sequenceBrand =
        (contents.flatMap Content.brands).getLastD (walk.take content).sequenceBrand := inductionHypothesis _
    refine Eq.trans later ?_
    rw [List.flatMap_cons]
    cases content with
    | fileType sequence => exact List.getLastD_cons.symm
    | plain | metadata | minimised | item | locations | references | associations => rfl

end Walk

theorem larger_comm (id largest : Nat) (extent other : Extent) :
    larger id (larger id largest extent) other = larger id (larger id largest other) extent := by
  simp only [larger]
  split <;> split
  · exact Nat.max_right_comm largest extent.bytes other.bytes
  · rfl
  · rfl
  · rfl

theorem largest_perm {extents others : List Extent} (permuted : extents.Perm others) (id : Nat) :
    largest extents id = largest others id :=
  permuted.foldl_eq' (fun extent _ other _ bytes => larger_comm id bytes extent other) 0

section

variable {contents others : List Content}

/-- What the two walks have seen is the same, but for the order of what they keep in lists. -/
structure Alike (walk other : Walk) : Prop where
  totals : walk.totals = other.totals
  boxes : walk.boxes = other.boxes
  metadataItems : walk.metadataItems.Perm other.metadataItems
  extents : walk.extents.Perm other.extents
  sawMeta : walk.sawMeta = other.sawMeta
  sawMini : walk.sawMini = other.sawMini
  sequenceBrand : walk.sequenceBrand = other.sequenceBrand

theorem totals_perm (permuted : contents.Perm others) :
    (({} : Walk).takeAll contents).totals = (({} : Walk).takeAll others).totals := by
  have sameSum (measure : Content → Nat) : (contents.map measure).sum = (others.map measure).sum :=
    (permuted.map measure).sum_nat
  rw [Walk.takeAll_totals, Walk.takeAll_totals, sameSum, sameSum, sameSum, sameSum, sameSum]

theorem flag_perm (permuted : contents.Perm others) (flag : Walk → Bool) (raises : Content → Bool)
    (step : ∀ walk content, flag (Walk.take walk content) = (flag walk || raises content)) :
    flag (({} : Walk).takeAll contents) = flag (({} : Walk).takeAll others) := by
  have same : contents.any raises = others.any raises := by
    rw [Bool.eq_iff_iff, List.any_eq_true, List.any_eq_true]
    simp only [permuted.mem_iff]
  rw [Walk.takeAll_flag flag raises step, Walk.takeAll_flag flag raises step, same]

/-- The first declaration of an item is kept, but which items are kept does not depend on which is first. -/
theorem metadataItems_perm (permuted : contents.Perm others) :
    (({} : Walk).takeAll contents).metadataItems.Perm (({} : Walk).takeAll others).metadataItems := by
  have nothing : ({} : Walk).metadataItems.Nodup := List.nodup_nil
  obtain ⟨distinct, members⟩ := Walk.takeAll_metadataItems nothing contents
  obtain ⟨othersDistinct, othersMembers⟩ := Walk.takeAll_metadataItems nothing others
  apply (List.perm_ext_iff_of_nodup distinct othersDistinct).mpr
  intro id
  rw [members, othersMembers, (permuted.flatMap_right Content.eagerItems).mem_iff]

theorem brands_eq (permuted : contents.Perm others) (few : (contents.flatMap Content.brands).length ≤ 1) :
    contents.flatMap Content.brands = others.flatMap Content.brands := by
  have brandsPermuted := permuted.flatMap_right Content.brands
  match isBrands : contents.flatMap Content.brands, few with
  | [], _ =>
    rw [isBrands] at brandsPermuted
    exact brandsPermuted.nil_eq
  | [brand], _ =>
    rw [isBrands] at brandsPermuted
    exact brandsPermuted.singleton_eq

theorem takeAll_alike (permuted : contents.Perm others)
    (few : (contents.flatMap Content.brands).length ≤ 1) :
    Alike (({} : Walk).takeAll contents) (({} : Walk).takeAll others) := by
  constructor
  · exact totals_perm permuted
  · rw [Walk.takeAll_boxes, Walk.takeAll_boxes, permuted.length_eq]
  · exact metadataItems_perm permuted
  · rw [Walk.takeAll_extents, Walk.takeAll_extents]
    exact ((permuted.flatMap_right Content.records).map LocationRecord.extent).append_left _
  · exact flag_perm permuted Walk.sawMeta (· == .metadata)
      (by intro walk content; cases content <;> simp [Walk.take])
  · exact flag_perm permuted Walk.sawMini (· == .minimised)
      (by intro walk content; cases content <;> simp [Walk.take])
  · rw [Walk.takeAll_sequenceBrand, Walk.takeAll_sequenceBrand, brands_eq permuted few]

theorem Alike.acceptable {budget : Budget} {walk other : Walk} (alike : Alike walk other)
    (acceptable : walk.Acceptable budget) : other.Acceptable budget := by
  obtain ⟨within, described, loads⟩ := acceptable
  constructor
  · rw [Walk.within_iff, ← alike.totals, ← alike.boxes, ← alike.metadataItems.length_eq, ← Walk.within_iff]
    exact within
  · rw [← alike.sawMeta, ← alike.sawMini, ← alike.sequenceBrand]
    exact described
  · have sameLargest : largest other.extents = largest walk.extents :=
      funext fun id => (largest_perm alike.extents id).symm
    rw [sameLargest, ← (alike.metadataItems.map _).sum_nat]
    exact loads

end

/-! ## Permuted files -/

theorem AtMostOneFileType.perm {boxes permuted : List TopLevelBox} (few : AtMostOneFileType boxes)
    (isPermutation : boxes.Perm permuted) : AtMostOneFileType permuted := by
  intro forest readsAll
  obtain ⟨original, originalReads, forestPermuted⟩ := List.perm_comp_forall₂ isPermutation readsAll
  have contentsPermuted := forestPermuted.flatMap_right Boxes.contents
  rw [← (contentsPermuted.flatMap_right Content.brands).length_eq]
  exact few original originalReads

theorem accepted_perm {boxes permuted : List TopLevelBox} (isPermutation : boxes.Perm permuted)
    (few : AtMostOneFileType boxes) {file other : Slice} (isFile : file.bytes = concatenation boxes)
    (isOther : other.bytes = concatenation permuted) {budget : Budget}
    (accepted : preflight file budget = .ok ()) : preflight other budget = .ok () := by
  obtain ⟨tree, placed, depth, fits, acceptable⟩ := preflight_eq_ok.mp accepted
  obtain ⟨forest, readsAll, joins⟩ := (Remains.start isFile).forest placed
  -- each box takes its tree along when the boxes are permuted
  obtain ⟨permutedForest, permutedReads, forestPermuted⟩ := List.perm_comp_forall₂ isPermutation.symm readsAll
  obtain ⟨permutedTree, permutedPlaced, permutedJoins⟩ := (Remains.start isOther).tree permutedReads
  have contentsPermuted : tree.contents.Perm permutedTree.contents := by
    rw [joins.contents, permutedJoins.contents]
    exact (forestPermuted.flatMap_right Boxes.contents).symm
  have fewBrands : (tree.contents.flatMap Content.brands).length ≤ 1 := joins.contents ▸ few forest readsAll
  apply preflight_eq_ok.mpr
  refine ⟨permutedTree, permutedPlaced, ?_, ?_, (takeAll_alike contentsPermuted fewBrands).acceptable acceptable⟩
  · apply (permutedJoins.height _).mpr
    intro part member
    exact (joins.height _).mp depth part (forestPermuted.mem_iff.mp member)
  · intro content member
    exact fits content (contentsPermuted.mem_iff.mpr member)

/-- Whether a file is accepted does not depend on the order of its top-level boxes, if at most one box
anywhere in them is a file type. -/
theorem top_level_order {boxes permuted : List TopLevelBox} (isPermutation : boxes.Perm permuted)
    (few : AtMostOneFileType boxes) {file other : Slice} (isFile : file.bytes = concatenation boxes)
    (isOther : other.bytes = concatenation permuted) (budget : Budget) :
    preflight file budget = .ok () ↔ preflight other budget = .ok () :=
  ⟨accepted_perm isPermutation few isFile isOther,
    accepted_perm isPermutation.symm (few.perm isPermutation) isOther isFile⟩

/-! ## A file and its reverse -/

/-- A file type with a sequence brand. -/
def sequenceBox : TopLevelBox :=
  ⟨⟨[0, 0, 0, 16, 102, 116, 121, 112, 109, 115, 102, 49, 0, 0, 0, 0], by decide⟩, by decide, by decide,
    by decide, by decide⟩

def exifBox : TopLevelBox := ⟨exifFile, by decide, by decide, by decide, by decide⟩

/-- A location record of five bytes for the item. -/
def recordBox : TopLevelBox :=
  ⟨⟨[0, 0, 0, 26, 105, 108, 111, 99, 0, 0, 0, 0, 4, 0, 0, 1, 0, 1, 0, 0, 0, 1, 0, 0, 0, 5], by decide⟩,
    by decide, by decide, by decide, by decide⟩

def sequenceFile : Slice := ⟨concatenation [sequenceBox, exifBox, recordBox], by decide⟩

def reversedFile : Slice := ⟨concatenation [sequenceBox, exifBox, recordBox].reverse, by decide⟩

def sequenceTree : Boxes :=
  .box { kind := fourcc 'f' 't' 'y' 'p', bodyStart := 8, bodyEnd := 16, next := 16 } (.fileType true) .empty
    (.box { kind := fourcc 'i' 'n' 'f' 'e', bodyStart := 24, bodyEnd := 36, next := 36 } (.item 1 true) .empty
      (.box { kind := fourcc 'i' 'l' 'o' 'c', bodyStart := 44, bodyEnd := 62, next := 62 }
        (.locations [⟨1, [5]⟩]) .empty .empty))

theorem sequenceTree_placed : sequenceTree.Placed sequenceFile true 0 sequenceFile.length := by
  refine ⟨?_, ⟨.leaf, ?_, rfl⟩, ?_, ⟨.leaf, ?_, rfl⟩, ?_, ⟨.leaf, ?_, rfl⟩, fun _ => rfl⟩
  · decide
  · exact ⟨true, rfl, rfl, rfl⟩
  · decide
  · exact ⟨1, fourcc 'E' 'x' 'i' 'f', [], rfl, rfl, rfl⟩
  · decide
  · refine ⟨[⟨1, [5]⟩], ⟨0, 0, 4, 0, 0⟩, ⟨rfl, by decide, by decide, ?_⟩, rfl, rfl⟩
    exact ⟨by decide, by decide, by decide, 62, ⟨by decide, by decide, rfl⟩, trivial⟩

theorem sequenceFile_accepted : preflight sequenceFile decoyBudget = .ok () := by
  have within : sequenceTree.Within decoyBudget := by decide
  have loads : sequenceTree.Loads decoyBudget := by decide
  have walks := walkFile_eq_ok.mpr ⟨sequenceTree, sequenceTree_placed, ⟨within, loads⟩, rfl⟩
  rw [preflight, walks]
  decide

/-- The reverse of an accepted file, with the location record before the item and the file type last, is
accepted. -/
theorem top_level_order_reversed :
    preflight sequenceFile decoyBudget = .ok () ∧ preflight reversedFile decoyBudget = .ok () :=
  ⟨sequenceFile_accepted,
    (top_level_order (List.reverse_perm _).symm
      ((Remains.start rfl).atMostOneFileType sequenceTree_placed (by decide)) rfl rfl decoyBudget).mp
      sequenceFile_accepted⟩

end Genkan.DynamicWallpaper.Container
