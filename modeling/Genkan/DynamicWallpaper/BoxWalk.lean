import Mathlib.Data.List.Dedup
import Genkan.DynamicWallpaper.BoxDeterminism

/-! # The walk over the tree

The walk of a file succeeds exactly where its bytes are a box tree that the budget allows, and what it
has counted then is what the tree adds up to.
-/

namespace Genkan.DynamicWallpaper.Container

open Foundations.Bytes Foundations.Results Heic

/-! ## What the walk keeps of a box -/

namespace Walk

/-- The walk after a box that declares the content. -/
def take (walk : Walk) : Content → Walk
  | .plain => { walk with boxes := walk.boxes + 1 }
  | .metadata => { walk with boxes := walk.boxes + 1, sawMeta := true }
  | .minimised => { walk with boxes := walk.boxes + 1, sawMini := true }
  | .fileType sequence => { walk with boxes := walk.boxes + 1, sequenceBrand := sequence }
  | .item id eager =>
    { walk with
      boxes := walk.boxes + 1
      totals := { walk.totals with items := walk.totals.items + 1 }
      metadataItems := if eager = true ∧ id ∉ walk.metadataItems then walk.metadataItems ++ [id]
        else walk.metadataItems }
  | .locations records =>
    { walk with
      boxes := walk.boxes + 1
      totals := { walk.totals with ilocRecords := walk.totals.ilocRecords + records.length }
      extents := walk.extents ++ records.map LocationRecord.extent }
  | .references counts =>
    { walk with
      boxes := walk.boxes + 1
      totals := { walk.totals with irefReferences := walk.totals.irefReferences + counts.sum } }
  | .associations counts =>
    { walk with
      boxes := walk.boxes + 1
      totals := { walk.totals with
        ipmaEntries := walk.totals.ipmaEntries + counts.length
        ipmaAssociations := walk.totals.ipmaAssociations + counts.sum } }

def takeAll (walk : Walk) (contents : List Content) : Walk := contents.foldl take walk

/-- What the walk has counted is within the budget. -/
@[mk_iff]
structure Within (budget : Budget) (walk : Walk) : Prop where
  items : walk.totals.items ≤ budget.maxContainerItems.toNat
  ilocRecords : walk.totals.ilocRecords ≤ budget.maxContainerItems.toNat
  irefReferences : walk.totals.irefReferences ≤ budget.maxContainerItems.toNat
  ipmaEntries : walk.totals.ipmaEntries ≤ budget.maxContainerItems.toNat
  ipmaAssociations : walk.totals.ipmaAssociations ≤ budget.maxContainerAssociations.toNat
  boxes : walk.boxes ≤ budget.maxContainerBoxes.toNat
  metadataItems : walk.metadataItems.length ≤ budget.maxMetadataItems.toNat

theorem take_boxes (walk : Walk) (content : Content) : (walk.take content).boxes = walk.boxes + 1 := by
  cases content <;> rfl

/-- Nothing that was counted is forgotten. -/
theorem Within.of_take {budget : Budget} {walk : Walk} {content : Content}
    (within : (walk.take content).Within budget) : walk.Within budget := by
  obtain ⟨items, ilocRecords, irefReferences, ipmaEntries, ipmaAssociations, boxes, metadataItems⟩ := within
  rw [take_boxes] at boxes
  cases content with
  | item id eager =>
    have kept : walk.metadataItems.length ≤ budget.maxMetadataItems.toNat := by
      simp only [take] at metadataItems
      split at metadataItems
      next => exact Nat.le_trans (by simp) metadataItems
      next => exact metadataItems
    exact ⟨Nat.le_of_succ_le items, ilocRecords, irefReferences, ipmaEntries, ipmaAssociations,
      Nat.le_of_succ_le boxes, kept⟩
  | locations records =>
    exact ⟨items, Nat.le_of_add_right_le ilocRecords, irefReferences, ipmaEntries, ipmaAssociations,
      Nat.le_of_succ_le boxes, metadataItems⟩
  | references counts =>
    exact ⟨items, ilocRecords, Nat.le_of_add_right_le irefReferences, ipmaEntries, ipmaAssociations,
      Nat.le_of_succ_le boxes, metadataItems⟩
  | associations counts =>
    exact ⟨items, ilocRecords, irefReferences, Nat.le_of_add_right_le ipmaEntries,
      Nat.le_of_add_right_le ipmaAssociations, Nat.le_of_succ_le boxes, metadataItems⟩
  | plain | metadata | minimised | fileType =>
    exact ⟨items, ilocRecords, irefReferences, ipmaEntries, ipmaAssociations, Nat.le_of_succ_le boxes,
      metadataItems⟩

theorem Within.of_takeAll {budget : Budget} {walk : Walk} {contents : List Content}
    (within : (walk.takeAll contents).Within budget) : walk.Within budget := by
  induction contents generalizing walk with
  | nil => exact within
  | cons content contents inductionHypothesis => exact (inductionHypothesis within).of_take

end Walk

/-- The records that the content declares fit the budget. -/
def Content.Fits (budget : Budget) (content : Content) : Prop :=
  ∀ record ∈ content.records, record.Fits budget

theorem fits_bare {budget : Budget} {content : Content} (bare : content.records = []) :
    content.Fits budget := by
  simp [Content.Fits, bare]

/-- Boxes that declare the contents are accepted one after the other. -/
structure Walk.Covers (budget : Budget) (walk : Walk) (contents : List Content) (result : Walk) : Prop where
  fits : ∀ content ∈ contents, content.Fits budget
  isResult : result = walk.takeAll contents
  within : result.Within budget

section

variable {budget : Budget} {walk result : Walk} {contents more : List Content} {content : Content}

theorem covers_nil (within : walk.Within budget) : walk.Covers budget [] result ↔ result = walk := by
  constructor
  · intro covers
    exact covers.isResult
  · intro same
    exact ⟨by simp, same, same ▸ within⟩

theorem covers_append :
    walk.Covers budget (contents ++ more) result ↔
      ∃ middle, walk.Covers budget contents middle ∧ middle.Covers budget more result := by
  constructor
  · intro covers
    have isResult : result = (walk.takeAll contents).takeAll more := by
      rw [covers.isResult, Walk.takeAll, List.foldl_append]
      rfl
    refine ⟨walk.takeAll contents, ⟨?_, rfl, (isResult ▸ covers.within).of_takeAll⟩, ?_, isResult,
      covers.within⟩
    · intro content member
      exact covers.fits content (List.mem_append_left _ member)
    · intro content member
      exact covers.fits content (List.mem_append_right _ member)
  · rintro ⟨middle, first, second⟩
    refine ⟨?_, ?_, second.within⟩
    · intro content member
      cases List.mem_append.mp member with
      | inl isFirst => exact first.fits content isFirst
      | inr isSecond => exact second.fits content isSecond
    · rw [second.isResult, first.isResult, Walk.takeAll, Walk.takeAll, Walk.takeAll, List.foldl_append]

theorem covers_cons :
    walk.Covers budget (content :: contents) result ↔
      content.Fits budget ∧ (walk.take content).Within budget ∧
        (walk.take content).Covers budget contents result := by
  rw [← List.singleton_append, covers_append]
  constructor
  · rintro ⟨middle, first, second⟩
    have isMiddle : middle = walk.take content := first.isResult
    subst isMiddle
    exact ⟨first.fits content (by simp), first.within, second⟩
  · rintro ⟨fits, within, covers⟩
    refine ⟨walk.take content, ⟨?_, rfl, within⟩, covers⟩
    intro other member
    exact List.mem_singleton.mp member ▸ fits

end

/-! ## Boxes that follow each other -/

/-- The children are where the layout says. -/
def Layout.Holds (slice : Slice) (header : Header) (children : Boxes) : Layout → Prop
  | .leaf => children = .empty
  | .tiled first => first ≤ header.bodyEnd ∧ children.Placed slice true first header.bodyEnd
  | .counted first count => children.count = count ∧ children.Placed slice true first header.bodyEnd
  | .listed first count => children.count = count ∧ children.Placed slice false first header.bodyEnd

/-- A box with the header declares the content and has the children. -/
def BoxAt (slice : Slice) (header : Header) (content : Content) (children : Boxes) : Prop :=
  ∃ layout, HoldsAt slice header content layout ∧ layout.Holds slice header children

theorem placed_box {slice : Slice} {header : Header} {content : Content} {children rest : Boxes} {full : Bool}
    {start finish : Nat} :
    (Boxes.box header content children rest).Placed slice full start finish ↔
      HeaderAt slice start finish header ∧ BoxAt slice header content children ∧
        rest.Placed slice full header.next finish :=
  Iff.rfl

/-- The box is accepted with so many levels of children. -/
def Walk.Enters (slice : Slice) (budget : Budget) (levels : Nat) (walk : Walk) (header : Header)
    (result : Walk) : Prop :=
  ∃ content children, BoxAt slice header content children ∧ children.height < levels ∧
    walk.Covers budget (content :: children.contents) result

/-- The boxes of a range are accepted with so many levels. -/
def Walk.Passes (slice : Slice) (budget : Budget) (levels : Nat) (walk : Walk) (boxes : Boxes) (full : Bool)
    (start finish : Nat) (result : Walk) : Prop :=
  boxes.Placed slice full start finish ∧ boxes.height ≤ levels ∧ walk.Covers budget boxes.contents result

/-- What is done with each box does what a walk of so many levels does. -/
def Visits (slice : Slice) (budget : Budget) (levels : Nat) (visit : Header → Walk → Except Error Walk) :
    Prop :=
  ∀ header walk result, header.bodyStart ≤ header.bodyEnd → header.bodyEnd ≤ slice.length →
    walk.Within budget → (visit header walk = .ok result ↔ walk.Enters slice budget levels header result)

section

variable {slice : Slice} {budget : Budget} {levels finish offset : Nat}
  {visit : Header → Walk → Except Error Walk} {walk result : Walk}

theorem passes_empty {full : Bool} (within : walk.Within budget) :
    walk.Passes slice budget levels .empty full offset finish result ↔
      (full = true → offset = finish) ∧ result = walk := by
  simp only [Walk.Passes, Boxes.Placed, Boxes.height, Boxes.contents, covers_nil within, Nat.zero_le,
    true_and]

theorem passes_box {header : Header} {content : Content} {children rest : Boxes} {full : Bool} :
    walk.Passes slice budget levels (.box header content children rest) full offset finish result ↔
      HeaderAt slice offset finish header ∧
        ∃ middle, (BoxAt slice header content children ∧ children.height < levels ∧
            walk.Covers budget (content :: children.contents) middle) ∧
          middle.Passes slice budget levels rest full header.next finish result := by
  simp only [Walk.Passes, placed_box, Boxes.height, Boxes.contents, ← List.cons_append, covers_append,
    Nat.max_le, Nat.succ_le_iff]
  constructor
  · rintro ⟨⟨placed, box, restPlaced⟩, ⟨low, restLow⟩, middle, covers, restCovers⟩
    exact ⟨placed, middle, ⟨box, low, covers⟩, restPlaced, restLow, restCovers⟩
  · rintro ⟨placed, middle, ⟨box, low, covers⟩, restPlaced, restLow, restCovers⟩
    exact ⟨⟨placed, box, restPlaced⟩, ⟨low, restLow⟩, middle, covers, restCovers⟩

/-- The header is read and its box is visited where there is a box that is accepted. -/
theorem Visits.next (visits : Visits slice budget levels visit) (bound : finish ≤ slice.length)
    (within : walk.Within budget) {header : Header} {middle : Walk} :
    readHeader slice offset finish = .ok header ∧ visit header walk = .ok middle ↔
      HeaderAt slice offset finish header ∧ walk.Enters slice budget levels header middle := by
  rw [readHeader_eq_ok bound]
  constructor
  · rintro ⟨placed, visited⟩
    have inside := Nat.le_trans placed.inside bound
    exact ⟨placed, (visits header walk middle placed.covers inside within).mp visited⟩
  · rintro ⟨placed, enters⟩
    have inside := Nat.le_trans placed.inside bound
    exact ⟨placed, (visits header walk middle placed.covers inside within).mpr enters⟩

/-! ### The loops -/

theorem walkLoop_next (before : offset < finish) :
    walkLoop slice visit finish offset walk = .ok result ↔
      ∃ header middle, (readHeader slice offset finish = .ok header ∧ visit header walk = .ok middle) ∧
        walkLoop slice visit finish header.next middle = .ok result := by
  rw [walkLoop, if_pos before]
  split
  next error fails => simp [fails]
  next header reads =>
    split
    next error fails => simp [reads, fails]
    next middle visited => simp [reads, visited]

theorem walkLoop_eq_ok (visits : Visits slice budget levels visit) (bound : finish ≤ slice.length)
    (reached : offset ≤ finish) (within : walk.Within budget) :
    walkLoop slice visit finish offset walk = .ok result ↔
      ∃ boxes, walk.Passes slice budget levels boxes true offset finish result := by
  -- Each header leaves fewer bytes, so the induction is on the bytes that are left.
  induction isRoom : finish - offset using Nat.strong_induction_on generalizing offset walk with
  | h room inductionHypothesis =>
    by_cases before : offset < finish
    · rw [walkLoop_next before]
      constructor
      · rintro ⟨header, middle, visited, continues⟩
        obtain ⟨placed, content, children, entered⟩ := (visits.next bound within).mp visited
        have advances := readHeader_next visited.1
        obtain ⟨rest, passes⟩ :=
          (inductionHypothesis _ (by omega) placed.next_le entered.2.2.within rfl).mp continues
        exact ⟨.box header content children rest, passes_box.mpr ⟨placed, middle, entered, passes⟩⟩
      · rintro ⟨boxes, passes⟩
        cases boxes with
        | empty =>
          have ended := ((passes_empty within).mp passes).1 rfl
          omega
        | box header content children rest =>
          obtain ⟨placed, middle, entered, passes⟩ := passes_box.mp passes
          have visited := (visits.next bound within).mpr ⟨placed, content, children, entered⟩
          have advances := readHeader_next visited.1
          refine ⟨header, middle, visited, ?_⟩
          exact (inductionHypothesis _ (by omega) placed.next_le entered.2.2.within rfl).mpr ⟨rest, passes⟩
    · rw [walkLoop, if_neg before, Except.ok.injEq]
      constructor
      · intro same
        exact ⟨.empty, (passes_empty within).mpr ⟨fun _ => by omega, same.symm⟩⟩
      · rintro ⟨boxes, passes⟩
        cases boxes with
        | empty => exact ((passes_empty within).mp passes).2.symm
        | box header content children rest =>
          have readable := (passes_box.mp passes).1.readable
          omega

theorem walkBoxes_eq_ok (visits : Visits slice budget levels visit) (bound : finish ≤ slice.length)
    (within : walk.Within budget) :
    walkBoxes slice visit offset finish walk = .ok result ↔
      offset ≤ finish ∧ ∃ boxes, walk.Passes slice budget levels boxes true offset finish result := by
  simp only [walkBoxes, bind_eq_ok, rejectIf_eq_ok, exists_const, Nat.not_lt]
  constructor
  · rintro ⟨reached, loops⟩
    exact ⟨reached, (walkLoop_eq_ok visits bound reached within).mp loops⟩
  · rintro ⟨reached, passes⟩
    exact ⟨reached, (walkLoop_eq_ok visits bound reached within).mpr passes⟩

theorem iinfLoop_next {seen total : Nat} (before : offset < finish) :
    iinfLoop slice visit finish offset seen walk = .ok (total, result) ↔
      ∃ header middle, (readHeader slice offset finish = .ok header ∧ visit header walk = .ok middle) ∧
        seen + 1 < 2 ^ 32 ∧
        iinfLoop slice visit finish header.next (seen + 1) middle = .ok (total, result) := by
  rw [iinfLoop, if_pos before]
  split
  next error fails => simp [fails]
  next header reads =>
    split
    next error fails => simp [reads, fails]
    next middle visited =>
      split
      next fits =>
        constructor
        · intro continues
          exact ⟨header, middle, ⟨reads, visited⟩, fits, continues⟩
        · rintro ⟨other, after, ⟨readsToo, visitedToo⟩, _, continues⟩
          cases reads.symm.trans readsToo
          cases visited.symm.trans visitedToo
          exact continues
      next overflows =>
        simp only [reduceCtorEq, false_iff]
        rintro ⟨_, _, _, fits, _⟩
        exact overflows fits

/-- The entries are counted in a machine word. -/
theorem iinfLoop_eq_ok (visits : Visits slice budget levels visit) (bound : finish ≤ slice.length)
    (reached : offset ≤ finish) (within : walk.Within budget) {seen total : Nat} (fits : seen < 2 ^ 32) :
    iinfLoop slice visit finish offset seen walk = .ok (total, result) ↔
      ∃ boxes, walk.Passes slice budget levels boxes true offset finish result ∧
        total = seen + boxes.count ∧ total < 2 ^ 32 := by
  induction isRoom : finish - offset using Nat.strong_induction_on generalizing offset walk seen with
  | h room inductionHypothesis =>
    by_cases before : offset < finish
    · rw [iinfLoop_next before]
      constructor
      · rintro ⟨header, middle, visited, fits, continues⟩
        obtain ⟨placed, content, children, entered⟩ := (visits.next bound within).mp visited
        have advances := readHeader_next visited.1
        obtain ⟨rest, passes, isTotal, totalFits⟩ :=
          (inductionHypothesis _ (by omega) placed.next_le entered.2.2.within fits rfl).mp continues
        refine ⟨.box header content children rest, passes_box.mpr ⟨placed, middle, entered, passes⟩, ?_,
          totalFits⟩
        rw [isTotal, Boxes.count]
        omega
      · rintro ⟨boxes, passes, isTotal, totalFits⟩
        cases boxes with
        | empty =>
          have ended := ((passes_empty within).mp passes).1 rfl
          omega
        | box header content children rest =>
          obtain ⟨placed, middle, entered, passes⟩ := passes_box.mp passes
          have visited := (visits.next bound within).mpr ⟨placed, content, children, entered⟩
          have advances := readHeader_next visited.1
          rw [Boxes.count] at isTotal
          have fits : seen + 1 < 2 ^ 32 := by omega
          refine ⟨header, middle, visited, fits, ?_⟩
          exact (inductionHypothesis _ (by omega) placed.next_le entered.2.2.within fits rfl).mpr
            ⟨rest, passes, by omega, totalFits⟩
    · rw [iinfLoop, if_neg before, Except.ok.injEq, Prod.mk.injEq]
      constructor
      · rintro ⟨isTotal, isResult⟩
        exact ⟨.empty, (passes_empty within).mpr ⟨fun _ => by omega, isResult.symm⟩, isTotal.symm,
          isTotal ▸ fits⟩
      · rintro ⟨boxes, passes, isTotal, _⟩
        cases boxes with
        | empty => exact ⟨isTotal.symm, ((passes_empty within).mp passes).2.symm⟩
        | box header content children rest =>
          have readable := (passes_box.mp passes).1.readable
          omega

theorem stsdLoop_eq_ok (visits : Visits slice budget levels visit) (bound : finish ≤ slice.length)
    (within : walk.Within budget) {count : Nat} :
    stsdLoop slice visit finish count offset walk = .ok result ↔
      ∃ boxes, boxes.count = count ∧ walk.Passes slice budget levels boxes false offset finish result := by
  -- Here the declared count ends the loop, not the bytes.
  induction count generalizing offset walk with
  | zero =>
    rw [stsdLoop, Except.ok.injEq]
    constructor
    · intro same
      exact ⟨.empty, rfl, (passes_empty within).mpr ⟨fun full => by contradiction, same.symm⟩⟩
    · rintro ⟨boxes, isCount, passes⟩
      cases boxes with
      | empty => exact ((passes_empty within).mp passes).2.symm
      | box => contradiction
  | succ count inductionHypothesis =>
    simp only [stsdLoop, bind_eq_ok, rejectIf_eq_ok, exists_const, Nat.not_le]
    constructor
    · rintro ⟨_, header, reads, middle, visited, continues⟩
      obtain ⟨placed, content, children, entered⟩ := (visits.next bound within).mp ⟨reads, visited⟩
      obtain ⟨rest, isCount, passes⟩ := (inductionHypothesis entered.2.2.within).mp continues
      exact ⟨.box header content children rest, congrArg Nat.succ isCount,
        passes_box.mpr ⟨placed, middle, entered, passes⟩⟩
    · rintro ⟨boxes, isCount, passes⟩
      cases boxes with
      | empty => contradiction
      | box header content children rest =>
        obtain ⟨placed, middle, entered, passes⟩ := passes_box.mp passes
        obtain ⟨reads, visited⟩ := (visits.next bound within).mpr ⟨placed, content, children, entered⟩
        have readable := placed.readable
        exact ⟨by omega, header, reads, middle, visited,
          (inductionHypothesis entered.2.2.within).mpr ⟨rest, Nat.succ.inj isCount, passes⟩⟩

end

/-! ## Visiting a box -/

section

variable {slice : Slice} {budget : Budget} {levels : Nat} {header : Header} {walk result : Walk}
  {visit : Header → Walk → Except Error Walk}

/-- Some content of the kind is accepted. -/
def Walk.Takes (budget : Budget) (walk : Walk) (holds : Content → Prop) (result : Walk) : Prop :=
  ∃ content, holds content ∧ content.Fits budget ∧ (walk.take content).Within budget ∧
    result = walk.take content

/-- A box of a type without children. -/
theorem enters_leaf {holds : Content → Prop}
    (isLeaf : ∀ content layout, HoldsAt slice header content layout ↔ holds content ∧ layout = .leaf) :
    walk.Enters slice budget (levels + 1) header result ↔ walk.Takes budget holds result := by
  simp only [Walk.Enters, BoxAt, isLeaf, covers_cons]
  constructor
  · rintro ⟨content, children, ⟨_, ⟨holds, rfl⟩, isEmpty⟩, _, fits, within, covers⟩
    have isNone : children = .empty := isEmpty
    subst isNone
    exact ⟨content, holds, fits, within, (covers_nil within).mp covers⟩
  · rintro ⟨content, holds, fits, within, isResult⟩
    exact ⟨content, .empty, ⟨.leaf, ⟨holds, rfl⟩, rfl⟩, Nat.succ_pos _, fits, within,
      (covers_nil within).mpr isResult⟩

/-- A box of a type with children, which declares nothing besides. -/
theorem enters_parent {holds : Prop} {content : Content} {layout : Layout}
    (isParent : ∀ other place, HoldsAt slice header other place ↔ holds ∧ other = content ∧ place = layout)
    (bare : content.records = []) :
    walk.Enters slice budget (levels + 1) header result ↔
      holds ∧ (walk.take content).Within budget ∧
        ∃ children, layout.Holds slice header children ∧ children.height ≤ levels ∧
          (walk.take content).Covers budget children.contents result := by
  have fits : content.Fits budget := fits_bare bare
  simp only [Walk.Enters, BoxAt, isParent, covers_cons, Nat.lt_succ_iff]
  constructor
  · rintro ⟨_, children, ⟨_, ⟨holds, rfl, rfl⟩, laid⟩, low, _, within, covers⟩
    exact ⟨holds, within, children, laid, low, covers⟩
  · rintro ⟨holds, within, children, laid, low, covers⟩
    exact ⟨content, children, ⟨layout, ⟨holds, rfl, rfl⟩, laid⟩, low, fits, within, covers⟩

/-- A box that declares nothing to count is within the budget if one more box is. -/
theorem within_bare {content : Content} (within : walk.Within budget)
    (totals : (walk.take content).totals = walk.totals)
    (metadataItems : (walk.take content).metadataItems = walk.metadataItems) :
    (walk.take content).Within budget ↔ walk.boxes + 1 ≤ budget.maxContainerBoxes.toNat := by
  constructor
  · intro taken
    exact Walk.take_boxes walk content ▸ taken.boxes
  · intro allowed
    obtain ⟨items, ilocRecords, irefReferences, ipmaEntries, ipmaAssociations, _, loaded⟩ := within
    rw [← totals] at items ilocRecords irefReferences ipmaEntries ipmaAssociations
    exact ⟨items, ilocRecords, irefReferences, ipmaEntries, ipmaAssociations,
      Walk.take_boxes walk content ▸ allowed, metadataItems ▸ loaded⟩

/-- A box that is walked through, if it holds what its type asks for. -/
theorem enters_checked {holds : Prop} (content : Content) (first : Nat)
    (visits : Visits slice budget levels visit) (bound : header.bodyEnd ≤ slice.length)
    (within : walk.Within budget) (bare : content.records = [])
    (totals : (walk.take content).totals = walk.totals)
    (metadataItems : (walk.take content).metadataItems = walk.metadataItems)
    (isTiled : ∀ other layout,
      HoldsAt slice header other layout ↔ holds ∧ other = content ∧ layout = .tiled first) :
    walk.boxes + 1 ≤ budget.maxContainerBoxes.toNat ∧ holds ∧
        walkBoxes slice visit first header.bodyEnd (walk.take content) = .ok result ↔
      walk.Enters slice budget (levels + 1) header result := by
  rw [enters_parent isTiled bare, within_bare within totals metadataItems, and_left_comm]
  refine and_congr_right fun _ => and_congr_right fun allowed => ?_
  rw [walkBoxes_eq_ok visits bound ((within_bare within totals metadataItems).mpr allowed)]
  simp only [Layout.Holds, Walk.Passes, and_assoc, exists_and_left]

/-- A box that is walked through. -/
theorem enters_tiled (content : Content) (first : Nat) (visits : Visits slice budget levels visit)
    (bound : header.bodyEnd ≤ slice.length) (within : walk.Within budget) (bare : content.records = [])
    (totals : (walk.take content).totals = walk.totals)
    (metadataItems : (walk.take content).metadataItems = walk.metadataItems)
    (isTiled : ∀ other layout, HoldsAt slice header other layout ↔ other = content ∧ layout = .tiled first) :
    walk.boxes + 1 ≤ budget.maxContainerBoxes.toNat ∧
        walkBoxes slice visit first header.bodyEnd (walk.take content) = .ok result ↔
      walk.Enters slice budget (levels + 1) header result := by
  rw [← enters_checked content first visits bound within bare totals metadataItems
    (fun other layout => (isTiled other layout).trans (true_and _).symm.to_iff), true_and]

/-- A box without children that declares nothing to count. -/
theorem enters_bare (content : Content) (within : walk.Within budget) (bare : content.records = [])
    (totals : (walk.take content).totals = walk.totals)
    (metadataItems : (walk.take content).metadataItems = walk.metadataItems)
    (isLeaf : ∀ other layout, HoldsAt slice header other layout ↔ other = content ∧ layout = .leaf) :
    walk.boxes + 1 ≤ budget.maxContainerBoxes.toNat ∧
        (.ok (walk.take content) : Except Error Walk) = .ok result ↔
      walk.Enters slice budget (levels + 1) header result := by
  have fits : content.Fits budget := fits_bare bare
  rw [enters_leaf isLeaf, ← within_bare within totals metadataItems, Except.ok.injEq]
  constructor
  · rintro ⟨taken, isResult⟩
    exact ⟨content, rfl, fits, taken, isResult.symm⟩
  · rintro ⟨_, rfl, _, taken, isResult⟩
    exact ⟨taken, isResult.symm⟩

end

/-! ### Items -/

section

variable {slice : Slice} {budget : Budget} {header : Header} {walk result : Walk} {id : Nat} {eager : Bool}

theorem isEager_iff {itemType contentType : List UInt8} :
    isEager itemType contentType = true ↔ ¬ (isImageItem itemType contentType = true ∧ itemType ≠ mime) := by
  rw [isEager]
  cases isImageItem itemType contentType <;> simp

/-- The walk with one more item. -/
def Walk.withItem (walk : Walk) : Walk :=
  { walk with totals := { walk.totals with items := walk.totals.items + 1 } }

/-- An item that is not loaded eagerly, or is already, is only counted. -/
theorem take_item_known (known : eager = true → id ∈ walk.metadataItems) :
    walk.take (.item id eager) = (walk.take .plain).withItem := by
  have kept : ¬ (eager = true ∧ id ∉ walk.metadataItems) := fun new => new.2 (known new.1)
  simp only [Walk.take, Walk.withItem, if_neg kept]

theorem take_item_new (isEager : eager = true) (new : id ∉ walk.metadataItems) :
    walk.take (.item id eager) =
      { (walk.take .plain).withItem with metadataItems := walk.metadataItems ++ [id] } := by
  simp only [Walk.take, Walk.withItem, if_pos (And.intro isEager new)]

theorem within_item (within : walk.Within budget) :
    (walk.take (.item id eager)).Within budget ↔
      walk.boxes + 1 ≤ budget.maxContainerBoxes.toNat ∧
        walk.totals.items + 1 ≤ budget.maxContainerItems.toNat ∧
        (walk.take (.item id eager)).metadataItems.length ≤ budget.maxMetadataItems.toNat := by
  constructor
  · intro taken
    exact ⟨taken.boxes, taken.items, taken.metadataItems⟩
  · rintro ⟨boxes, items, metadataItems⟩
    obtain ⟨_, ilocRecords, irefReferences, ipmaEntries, ipmaAssociations, _, _⟩ := within
    exact ⟨items, ilocRecords, irefReferences, ipmaEntries, ipmaAssociations, boxes, metadataItems⟩

/-- An item is kept for loading unless it is an image or kept already. -/
theorem keep_eq_ok (within : walk.Within budget) {itemType contentType : List UInt8} :
    (if isImageItem itemType contentType = true ∧ itemType ≠ mime then pure (walk.take .plain).withItem
      else if id ∈ walk.metadataItems then pure (walk.take .plain).withItem
      else do
        rejectIf (budget.maxMetadataItems.toNat ≤ walk.metadataItems.length) (.limit "metadata item count")
        pure { (walk.take .plain).withItem with metadataItems := walk.metadataItems ++ [id] } :
          Except Error Walk) = .ok result ↔
      (walk.take (.item id (isEager itemType contentType))).metadataItems.length ≤
          budget.maxMetadataItems.toNat ∧
        result = walk.take (.item id (isEager itemType contentType)) := by
  have room : (walk.take .plain).withItem.metadataItems.length ≤ budget.maxMetadataItems.toNat :=
    within.metadataItems
  split
  next lazy =>
    rw [take_item_known fun loads => absurd lazy (isEager_iff.mp loads), pure_eq_ok, eq_comm]
    exact (and_iff_right room).symm
  next eager =>
    split
    next known =>
      rw [take_item_known fun _ => known, pure_eq_ok, eq_comm]
      exact (and_iff_right room).symm
    next new =>
      rw [take_item_new (isEager_iff.mpr eager) new, List.length_append]
      simp only [bind_eq_ok, pure_eq_ok, rejectIf_eq_ok, exists_const, Nat.not_le]
      exact and_congr Iff.rfl eq_comm

theorem infe_eq_ok (within : walk.Within budget) :
    walk.boxes + 1 ≤ budget.maxContainerBoxes.toNat ∧
        parseInfe slice budget header (walk.take .plain) = .ok result ↔
      walk.Takes budget (fun content => ∃ id itemType contentType,
        readInfe slice header = .ok (id, itemType, contentType) ∧
          content = .item id (isEager itemType contentType)) result := by
  simp only [parseInfe, bind_eq_ok, countUp_eq_ok, Prod.exists]
  constructor
  · rintro ⟨counted, id, itemType, contentType, reads, _, ⟨rfl, items⟩, keeps⟩
    obtain ⟨loaded, isResult⟩ := (keep_eq_ok within).mp keeps
    exact ⟨_, ⟨id, itemType, contentType, reads, rfl⟩, fits_bare rfl,
      (within_item within).mpr ⟨counted, items, loaded⟩, isResult⟩
  · rintro ⟨_, ⟨id, itemType, contentType, reads, rfl⟩, _, taken, isResult⟩
    obtain ⟨counted, items, loaded⟩ := (within_item within).mp taken
    exact ⟨counted, id, itemType, contentType, reads, _, ⟨rfl, items⟩,
      (keep_eq_ok within).mpr ⟨loaded, isResult⟩⟩

end

/-! ### Records, references and associations -/

section

variable {slice : Slice} {budget : Budget} {header : Header} {walk result : Walk}

theorem within_locations (within : walk.Within budget) {records : List LocationRecord} :
    (walk.take (.locations records)).Within budget ↔
      walk.boxes + 1 ≤ budget.maxContainerBoxes.toNat ∧
        walk.totals.ilocRecords + records.length ≤ budget.maxContainerItems.toNat := by
  constructor
  · intro taken
    exact ⟨taken.boxes, taken.ilocRecords⟩
  · rintro ⟨boxes, ilocRecords⟩
    exact { within with boxes := boxes, ilocRecords := ilocRecords }

theorem within_references (within : walk.Within budget) {counts : List Nat} :
    (walk.take (.references counts)).Within budget ↔
      walk.boxes + 1 ≤ budget.maxContainerBoxes.toNat ∧
        walk.totals.irefReferences + counts.sum ≤ budget.maxContainerItems.toNat := by
  constructor
  · intro taken
    exact ⟨taken.boxes, taken.irefReferences⟩
  · rintro ⟨boxes, irefReferences⟩
    exact { within with boxes := boxes, irefReferences := irefReferences }

theorem within_associations (within : walk.Within budget) {counts : List Nat} :
    (walk.take (.associations counts)).Within budget ↔
      walk.boxes + 1 ≤ budget.maxContainerBoxes.toNat ∧
        walk.totals.ipmaEntries + counts.length ≤ budget.maxContainerItems.toNat ∧
        walk.totals.ipmaAssociations + counts.sum ≤ budget.maxContainerAssociations.toNat := by
  constructor
  · intro taken
    exact ⟨taken.boxes, taken.ipmaEntries, taken.ipmaAssociations⟩
  · rintro ⟨boxes, ipmaEntries, ipmaAssociations⟩
    exact { within with boxes := boxes, ipmaEntries := ipmaEntries, ipmaAssociations := ipmaAssociations }

theorem iloc_eq_ok (bound : header.bodyEnd ≤ slice.length) (within : walk.Within budget) :
    walk.boxes + 1 ≤ budget.maxContainerBoxes.toNat ∧
        parseIloc slice budget header (walk.take .plain) = .ok result ↔
      walk.Takes budget (fun content => ∃ records fields, LocationsAt slice header records fields ∧
        content = .locations records) result := by
  rw [parseIloc_eq_ok bound]
  constructor
  · rintro ⟨counted, records, fields, locations, fits, ilocRecords, isResult⟩
    exact ⟨_, ⟨records, fields, locations, rfl⟩, fits, (within_locations within).mpr ⟨counted, ilocRecords⟩,
      isResult⟩
  · rintro ⟨_, ⟨records, fields, locations, rfl⟩, fits, taken, isResult⟩
    obtain ⟨counted, ilocRecords⟩ := (within_locations within).mp taken
    exact ⟨counted, records, fields, locations, fits, ilocRecords, isResult⟩

theorem iref_eq_ok (bound : header.bodyEnd ≤ slice.length) (within : walk.Within budget) :
    walk.boxes + 1 ≤ budget.maxContainerBoxes.toNat ∧
        parseIref slice budget header (walk.take .plain) = .ok result ↔
      walk.Takes budget (fun content => ∃ counts, ItemReferencesAt slice header counts ∧
        content = .references counts) result := by
  have known : (walk.take .plain).totals.irefReferences ≤ budget.maxContainerItems.toNat :=
    within.irefReferences
  rw [parseIref_eq_ok bound known]
  constructor
  · rintro ⟨counted, counts, references, irefReferences, isResult⟩
    exact ⟨_, ⟨counts, references, rfl⟩, fits_bare rfl,
      (within_references within).mpr ⟨counted, irefReferences⟩, isResult⟩
  · rintro ⟨_, ⟨counts, references, rfl⟩, _, taken, isResult⟩
    obtain ⟨counted, irefReferences⟩ := (within_references within).mp taken
    exact ⟨counted, counts, references, irefReferences, isResult⟩

theorem tref_eq_ok (bound : header.bodyEnd ≤ slice.length) (covers : header.bodyStart ≤ header.bodyEnd)
    (within : walk.Within budget) :
    walk.boxes + 1 ≤ budget.maxContainerBoxes.toNat ∧
        parseTref slice budget header (walk.take .plain) = .ok result ↔
      walk.Takes budget (fun content => ∃ counts,
        ListsAt slice (TrackList slice) header.bodyEnd counts header.bodyStart ∧
          content = .references counts) result := by
  have known : (walk.take .plain).totals.irefReferences ≤ budget.maxContainerItems.toNat :=
    within.irefReferences
  rw [parseTref_eq_ok bound covers known]
  constructor
  · rintro ⟨counted, counts, lists, irefReferences, isResult⟩
    exact ⟨_, ⟨counts, lists, rfl⟩, fits_bare rfl,
      (within_references within).mpr ⟨counted, irefReferences⟩, isResult⟩
  · rintro ⟨_, ⟨counts, lists, rfl⟩, _, taken, isResult⟩
    obtain ⟨counted, irefReferences⟩ := (within_references within).mp taken
    exact ⟨counted, counts, lists, irefReferences, isResult⟩

theorem ipma_eq_ok (bound : header.bodyEnd ≤ slice.length) (within : walk.Within budget) :
    walk.boxes + 1 ≤ budget.maxContainerBoxes.toNat ∧
        parseIpma slice budget header (walk.take .plain) = .ok result ↔
      walk.Takes budget (fun content => ∃ counts, AssociationsAt slice header counts ∧
        content = .associations counts) result := by
  have known : (walk.take .plain).totals.ipmaAssociations ≤ budget.maxContainerAssociations.toNat :=
    within.ipmaAssociations
  rw [parseIpma_eq_ok bound known]
  constructor
  · rintro ⟨counted, counts, associations, ipmaEntries, ipmaAssociations, isResult⟩
    exact ⟨_, ⟨counts, associations, rfl⟩, fits_bare rfl,
      (within_associations within).mpr ⟨counted, ipmaEntries, ipmaAssociations⟩, isResult⟩
  · rintro ⟨_, ⟨counts, associations, rfl⟩, _, taken, isResult⟩
    obtain ⟨counted, ipmaEntries, ipmaAssociations⟩ := (within_associations within).mp taken
    exact ⟨counted, counts, associations, ipmaEntries, ipmaAssociations, isResult⟩

end

/-! ### Checked boxes -/

section

variable {slice : Slice} {budget : Budget} {header : Header} {walk result : Walk}

theorem ftyp_eq_ok (within : walk.Within budget) :
    walk.boxes + 1 ≤ budget.maxContainerBoxes.toNat ∧
        parseFtyp slice header (walk.take .plain) = .ok result ↔
      walk.Takes budget (fun content => ∃ sequence, readFtyp slice header = .ok sequence ∧
        content = .fileType sequence) result := by
  simp only [parseFtyp, bind_eq_ok, pure_eq_ok]
  constructor
  · rintro ⟨counted, sequence, reads, isResult⟩
    exact ⟨_, ⟨sequence, reads, rfl⟩, fits_bare rfl, (within_bare within rfl rfl).mpr counted, isResult.symm⟩
  · rintro ⟨_, ⟨sequence, reads, rfl⟩, _, taken, isResult⟩
    exact ⟨(within_bare within rfl rfl).mp taken, sequence, reads, isResult.symm⟩

theorem colr_eq_ok (within : walk.Within budget) :
    walk.boxes + 1 ≤ budget.maxContainerBoxes.toNat ∧
        parseColr slice header (walk.take .plain) = .ok result ↔
      walk.Takes budget (fun content => readColr slice header = .ok () ∧ content = .plain) result := by
  simp only [parseColr, bind_eq_ok, pure_eq_ok]
  constructor
  · rintro ⟨counted, _, reads, isResult⟩
    exact ⟨_, ⟨reads, rfl⟩, fits_bare rfl, (within_bare within rfl rfl).mpr counted, isResult.symm⟩
  · rintro ⟨_, ⟨reads, rfl⟩, _, taken, isResult⟩
    exact ⟨(within_bare within rfl rfl).mp taken, (), reads, isResult.symm⟩

variable {levels : Nat} {visit : Header → Walk → Except Error Walk}

theorem iinf_enters (kind : classify header.kind = .iinf) (visits : Visits slice budget levels visit)
    (bound : header.bodyEnd ≤ slice.length) (within : walk.Within budget) :
    walk.boxes + 1 ≤ budget.maxContainerBoxes.toNat ∧
        parseIinf slice visit header (walk.take .plain) = .ok result ↔
      walk.Enters slice budget (levels + 1) header result := by
  let width := if number slice header.bodyStart 1 = 0 then 2 else 4
  have isParent : ∀ content layout, HoldsAt slice header content layout ↔
      header.bodyStart + 4 + width ≤ header.bodyEnd ∧ content = .plain ∧
        layout = .counted (header.bodyStart + 4 + width) (number slice (header.bodyStart + 4) width) := by
    intro content layout
    simp only [HoldsAt, kind, width]
  rw [enters_parent isParent rfl, within_bare within rfl rfl, and_left_comm]
  refine and_congr_right fun counted => ?_
  have taken : (walk.take .plain).Within budget := (within_bare within rfl rfl).mpr counted
  simp only [parseIinf, bind_eq_ok, pure_eq_ok, rejectIf_eq_ok, exists_const, Prod.exists, ne_eq, not_not,
    readU8_eq_ok bound, readBigEndian_eq_ok bound, Layout.Holds]
  constructor
  · rintro ⟨_, ⟨_, rfl⟩, _, ⟨readable, rfl⟩, seen, _, loops, isDeclared, rfl⟩
    obtain ⟨children, ⟨placed, low, covers⟩, isSeen, _⟩ :=
      (iinfLoop_eq_ok visits bound readable taken (by decide)).mp loops
    rw [Nat.zero_add] at isSeen
    exact ⟨readable, children, ⟨isSeen.symm.trans isDeclared, placed⟩, low, covers⟩
  · rintro ⟨readable, children, ⟨isCount, placed⟩, low, covers⟩
    have fits : children.count < 2 ^ 32 := by
      have declared := number_lt slice (header.bodyStart + 4) width
      rw [← isCount] at declared
      simp only [width] at declared
      split at declared <;> omega
    refine ⟨_, ⟨by omega, rfl⟩, _, ⟨readable, rfl⟩, children.count, result, ?_, isCount, rfl⟩
    exact (iinfLoop_eq_ok visits bound readable taken (by decide)).mpr
      ⟨children, ⟨placed, low, covers⟩, (Nat.zero_add _).symm, fits⟩

theorem stsd_enters (kind : classify header.kind = .stsd) (visits : Visits slice budget levels visit)
    (bound : header.bodyEnd ≤ slice.length) (within : walk.Within budget) :
    walk.boxes + 1 ≤ budget.maxContainerBoxes.toNat ∧
        parseStsd slice visit header (walk.take .plain) = .ok result ↔
      walk.Enters slice budget (levels + 1) header result := by
  have isParent : ∀ content layout, HoldsAt slice header content layout ↔
      (header.bodyStart + 8 ≤ header.bodyEnd ∧ number slice header.bodyStart 1 = 0) ∧ content = .plain ∧
        layout = .listed (header.bodyStart + 8) (number slice (header.bodyStart + 4) 4) := by
    intro content layout
    simp only [HoldsAt, kind, and_assoc]
  rw [enters_parent isParent rfl, within_bare within rfl rfl, and_left_comm]
  refine and_congr_right fun counted => ?_
  have taken : (walk.take .plain).Within budget := (within_bare within rfl rfl).mpr counted
  simp only [parseStsd, bind_eq_ok, rejectIf_eq_ok, exists_const, ne_eq, not_not, readU8_eq_ok bound,
    readU32_eq_ok bound, Layout.Holds]
  constructor
  · rintro ⟨_, ⟨_, rfl⟩, supported, _, ⟨readable, rfl⟩, loops⟩
    obtain ⟨children, isCount, placed, low, covers⟩ := (stsdLoop_eq_ok visits bound taken).mp loops
    exact ⟨⟨readable, supported⟩, children, ⟨isCount, placed⟩, low, covers⟩
  · rintro ⟨⟨readable, supported⟩, children, ⟨isCount, placed⟩, low, covers⟩
    refine ⟨_, ⟨by omega, rfl⟩, supported, _, ⟨readable, rfl⟩, ?_⟩
    exact (stsdLoop_eq_ok visits bound taken).mpr ⟨children, isCount, placed, low, covers⟩

theorem sampleEntry_enters (kind : classify header.kind = .visualSampleEntry)
    (visits : Visits slice budget levels visit) (bound : header.bodyEnd ≤ slice.length)
    (within : walk.Within budget) :
    walk.boxes + 1 ≤ budget.maxContainerBoxes.toNat ∧
        walkVisualSampleEntry slice visit header (walk.take .plain) = .ok result ↔
      walk.Enters slice budget (levels + 1) header result := by
  have name : visualSampleEntryNameLength < visualSampleEntryPrefix := by decide
  have isTiled : ∀ content layout, HoldsAt slice header content layout ↔
      (header.bodyStart + visualSampleEntryPrefix ≤ header.bodyEnd ∧
        (slice.byte (header.bodyStart + visualSampleEntryNameLength)).toNat ≤ 31) ∧
      content = .plain ∧ layout = .tiled (header.bodyStart + visualSampleEntryPrefix) := by
    intro content layout
    simp only [HoldsAt, kind, and_assoc]
  rw [← enters_checked .plain _ visits bound within rfl rfl rfl isTiled]
  simp only [walkVisualSampleEntry, bind_eq_ok, rejectIf_eq_ok, exists_const, read_eq_ok bound, Nat.not_lt]
  refine and_congr_right fun _ => ?_
  constructor
  · rintro ⟨_, ⟨readable, rfl⟩, short, walks⟩
    rw [Slice.part_getD name] at short
    exact ⟨⟨readable, short⟩, walks⟩
  · rintro ⟨⟨readable, short⟩, walks⟩
    refine ⟨_, ⟨readable, rfl⟩, ?_, walks⟩
    rw [Slice.part_getD name]
    exact short

end

/-! ### All boxes -/

section

variable {slice : Slice} {budget : Budget} {levels : Nat}

theorem visit_visits : Visits slice budget levels (visit slice budget levels) := by
  induction levels with
  | zero =>
    intro header walk result _ _ _
    simp [visit, Walk.Enters]
  | succ levels inductionHypothesis =>
    intro header walk result covers bound within
    simp only [visit, bind_eq_ok, countUp_eq_ok, and_assoc, exists_eq_left]
    -- A box counts before it is looked at, so each case starts from the walk with one more box.
    cases kind : classify header.kind with
    | metaBox =>
      refine enters_tiled .metadata (header.bodyStart + 4) inductionHypothesis bound within rfl rfl rfl ?_
      simp [HoldsAt, kind]
    | iinf => exact iinf_enters kind inductionHypothesis bound within
    | infe =>
      refine Iff.trans (infe_eq_ok within) (enters_leaf ?_).symm
      intro content layout
      simp only [HoldsAt, kind, ← and_assoc, exists_and_right]
    | iloc =>
      refine (iloc_eq_ok bound within).trans (enters_leaf ?_).symm
      intro content layout
      simp only [HoldsAt, kind, ← and_assoc, exists_and_right]
    | iref =>
      refine (iref_eq_ok bound within).trans (enters_leaf ?_).symm
      intro content layout
      simp only [HoldsAt, kind, ← and_assoc, exists_and_right]
    | ipma =>
      refine (ipma_eq_ok bound within).trans (enters_leaf ?_).symm
      intro content layout
      simp only [HoldsAt, kind, ← and_assoc, exists_and_right]
    | stsd => exact stsd_enters kind inductionHypothesis bound within
    | dref | urim =>
      refine enters_tiled .plain (header.bodyStart + 8) inductionHypothesis bound within rfl rfl rfl ?_
      simp [HoldsAt, kind]
    | container =>
      refine enters_tiled .plain header.bodyStart inductionHypothesis bound within rfl rfl rfl ?_
      simp [HoldsAt, kind]
    | tref =>
      refine (tref_eq_ok bound covers within).trans (enters_leaf ?_).symm
      intro content layout
      simp only [HoldsAt, kind, ← and_assoc, exists_and_right]
    | ftyp =>
      refine (ftyp_eq_ok within).trans (enters_leaf ?_).symm
      intro content layout
      simp only [HoldsAt, kind, ← and_assoc, exists_and_right]
    | colr =>
      refine (colr_eq_ok within).trans (enters_leaf ?_).symm
      intro content layout
      simp only [HoldsAt, kind, ← and_assoc]
    | mini =>
      refine enters_bare .minimised within rfl rfl rfl ?_
      simp [HoldsAt, kind]
    | visualSampleEntry => exact sampleEntry_enters kind inductionHypothesis bound within
    | other =>
      refine enters_bare .plain within rfl rfl rfl ?_
      simp [HoldsAt, kind]

end

/-! ## The totals of the tree -/

namespace Boxes

/-- The sum over all boxes of what each adds. -/
def total (boxes : Boxes) (measure : Content → Nat) : Nat := (boxes.contents.map measure).sum

/-- The location records of all boxes. -/
def records (boxes : Boxes) : List LocationRecord := boxes.contents.flatMap Content.records

/-- The different items that are loaded eagerly. -/
def eagerItems (boxes : Boxes) : List Nat := (boxes.contents.flatMap Content.eagerItems).dedup

/-- The totals of the tree are within the budget. -/
@[mk_iff]
structure Within (budget : Budget) (boxes : Boxes) : Prop where
  items : boxes.total Content.items ≤ budget.maxContainerItems.toNat
  ilocRecords : boxes.total Content.ilocRecords ≤ budget.maxContainerItems.toNat
  irefReferences : boxes.total Content.referenceCount ≤ budget.maxContainerItems.toNat
  ipmaEntries : boxes.total Content.ipmaEntries ≤ budget.maxContainerItems.toNat
  ipmaAssociations : boxes.total Content.ipmaAssociations ≤ budget.maxContainerAssociations.toNat
  visited : boxes.contents.length ≤ budget.maxContainerBoxes.toNat
  /-- The boxes of the file have depth zero. -/
  depth : boxes.height ≤ budget.maxContainerDepth.toNat + 1
  extents : ∀ record ∈ boxes.records, record.lengths.length ≤ budget.maxItemExtents.toNat

/-- What is kept for loading the items later: their number is within the budget, and the bytes of each
record are a machine word. -/
@[mk_iff]
structure Loads (budget : Budget) (boxes : Boxes) : Prop where
  eager : boxes.eagerItems.length ≤ budget.maxMetadataItems.toNat
  bytes : ∀ record ∈ boxes.records, record.lengths.sum < usizeLimit

instance {budget : Budget} {boxes : Boxes} : Decidable (boxes.Within budget) :=
  decidable_of_iff _ (within_iff ..).symm

instance {budget : Budget} {boxes : Boxes} : Decidable (boxes.Loads budget) :=
  decidable_of_iff _ (loads_iff ..).symm

end Boxes

namespace Walk

/-- A counter to which each box adds its measure has the total at the end. -/
theorem takeAll_counter (counter : Walk → Nat) (measure : Content → Nat)
    (adds : ∀ walk content, counter (take walk content) = counter walk + measure content) (walk : Walk)
    (contents : List Content) :
    counter (walk.takeAll contents) = counter walk + (contents.map measure).sum := by
  induction contents generalizing walk with
  | nil => rfl
  | cons content contents inductionHypothesis =>
    have later : counter ((walk.take content).takeAll contents) =
        counter (walk.take content) + (contents.map measure).sum := inductionHypothesis _
    rw [List.map_cons, List.sum_cons, ← Nat.add_assoc, ← adds]
    exact later

theorem take_totals (walk : Walk) (content : Content) :
    (walk.take content).totals =
      { items := walk.totals.items + content.items
        ilocRecords := walk.totals.ilocRecords + content.ilocRecords
        irefReferences := walk.totals.irefReferences + content.referenceCount
        ipmaEntries := walk.totals.ipmaEntries + content.ipmaEntries
        ipmaAssociations := walk.totals.ipmaAssociations + content.ipmaAssociations } := by
  cases content <;> rfl

theorem takeAll_totals (walk : Walk) (contents : List Content) :
    (walk.takeAll contents).totals =
      { items := walk.totals.items + (contents.map Content.items).sum
        ilocRecords := walk.totals.ilocRecords + (contents.map Content.ilocRecords).sum
        irefReferences := walk.totals.irefReferences + (contents.map Content.referenceCount).sum
        ipmaEntries := walk.totals.ipmaEntries + (contents.map Content.ipmaEntries).sum
        ipmaAssociations := walk.totals.ipmaAssociations + (contents.map Content.ipmaAssociations).sum } := by
  induction contents generalizing walk with
  | nil => rfl
  | cons content contents inductionHypothesis =>
    have later := inductionHypothesis (walk.take content)
    rw [take_totals] at later
    simp only [List.map_cons, List.sum_cons, ← Nat.add_assoc]
    exact later

theorem takeAll_boxes (walk : Walk) (contents : List Content) :
    (walk.takeAll contents).boxes = walk.boxes + contents.length := by
  induction contents generalizing walk with
  | nil => rfl
  | cons content contents inductionHypothesis =>
    have later : ((walk.take content).takeAll contents).boxes = (walk.take content).boxes + contents.length :=
      inductionHypothesis _
    rw [take_boxes, Nat.add_right_comm] at later
    exact later

theorem mem_take {walk : Walk} {content : Content} {id : Nat} :
    id ∈ (walk.take content).metadataItems ↔ id ∈ walk.metadataItems ∨ id ∈ content.eagerItems := by
  cases content with
  | item other eager =>
    cases eager with
    | false => simp [take, Content.eagerItems]
    | true =>
      simp only [take, true_and, Content.eagerItems, List.mem_singleton]
      split
      next => rw [List.mem_append, List.mem_singleton]
      next known =>
        have isKnown : other ∈ walk.metadataItems := not_not.mp known
        constructor
        · exact Or.inl
        · rintro (member | rfl)
          · exact member
          · exact isKnown
  | plain | metadata | minimised | fileType | locations | references | associations =>
    simp [take, Content.eagerItems]

/-- No item is loaded twice. -/
theorem take_nodup {walk : Walk} (distinct : walk.metadataItems.Nodup) (content : Content) :
    (walk.take content).metadataItems.Nodup := by
  cases content with
  | item id eager =>
    simp only [take]
    split
    next new =>
      refine distinct.append (List.nodup_singleton id) ?_
      intro known member alsoNew
      rw [List.mem_singleton] at alsoNew
      exact new.2 (alsoNew ▸ member)
    next => exact distinct
  | plain | metadata | minimised | fileType | locations | references | associations => exact distinct

theorem takeAll_metadataItems {walk : Walk} (distinct : walk.metadataItems.Nodup) (contents : List Content) :
    (walk.takeAll contents).metadataItems.Nodup ∧
      ∀ id, id ∈ (walk.takeAll contents).metadataItems ↔
        id ∈ walk.metadataItems ∨ id ∈ contents.flatMap Content.eagerItems := by
  induction contents generalizing walk with
  | nil =>
    refine ⟨distinct, ?_⟩
    intro id
    simp [takeAll]
  | cons content contents inductionHypothesis =>
    obtain ⟨later, members⟩ := inductionHypothesis (take_nodup distinct content)
    refine ⟨later, ?_⟩
    intro id
    rw [List.flatMap_cons, List.mem_append, ← or_assoc, ← mem_take]
    exact members id

theorem start_within (budget : Budget) : ({} : Walk).Within budget :=
  ⟨Nat.zero_le _, Nat.zero_le _, Nat.zero_le _, Nat.zero_le _, Nat.zero_le _, Nat.zero_le _, Nat.zero_le _⟩

end Walk

namespace Boxes

variable {budget : Budget} {boxes : Boxes}

/-- As many items are kept as are loaded eagerly. -/
theorem eagerItems_length :
    (({} : Walk).takeAll boxes.contents).metadataItems.length = boxes.eagerItems.length := by
  have nothing : ({} : Walk).metadataItems.Nodup := List.nodup_nil
  obtain ⟨distinct, members⟩ := Walk.takeAll_metadataItems nothing boxes.contents
  refine ((List.perm_ext_iff_of_nodup distinct (List.nodup_dedup _)).mpr ?_).length_eq
  intro id
  rw [members, List.mem_dedup]
  simp

/-- A counter of the walk counts what the tree adds up to. -/
theorem counted (boxes : Boxes) (counter : Walk → Nat) (measure : Content → Nat) (starts : counter {} = 0)
    (adds : ∀ walk content, counter (Walk.take walk content) = counter walk + measure content) :
    counter (({} : Walk).takeAll boxes.contents) = boxes.total measure := by
  rw [Walk.takeAll_counter counter measure adds, starts, Nat.zero_add, total]

theorem takeAll_within :
    (({} : Walk).takeAll boxes.contents).Within budget ↔
      boxes.total Content.items ≤ budget.maxContainerItems.toNat ∧
        boxes.total Content.ilocRecords ≤ budget.maxContainerItems.toNat ∧
        boxes.total Content.referenceCount ≤ budget.maxContainerItems.toNat ∧
        boxes.total Content.ipmaEntries ≤ budget.maxContainerItems.toNat ∧
        boxes.total Content.ipmaAssociations ≤ budget.maxContainerAssociations.toNat ∧
        boxes.contents.length ≤ budget.maxContainerBoxes.toNat ∧
        boxes.eagerItems.length ≤ budget.maxMetadataItems.toNat := by
  rw [Walk.within_iff, Walk.takeAll_totals, Walk.takeAll_boxes, eagerItems_length]
  simp only [Nat.zero_add, total]

/-- What a walk over the tree is checked for is what the tree adds up to. -/
theorem covers_iff {result : Walk} :
    boxes.height ≤ budget.maxContainerDepth.toNat + 1 ∧ ({} : Walk).Covers budget boxes.contents result ↔
      (boxes.Within budget ∧ boxes.Loads budget) ∧ result = ({} : Walk).takeAll boxes.contents := by
  constructor
  · rintro ⟨depth, fits, rfl, within⟩
    obtain ⟨items, ilocRecords, irefReferences, ipmaEntries, ipmaAssociations, visited, eager⟩ :=
      takeAll_within.mp within
    have recordFits : ∀ record ∈ boxes.records, record.Fits budget := by
      intro record member
      obtain ⟨content, isContent, isRecord⟩ := List.mem_flatMap.mp member
      exact fits content isContent record isRecord
    refine ⟨⟨?_, ⟨eager, fun record member => (recordFits record member).bytes⟩⟩, rfl⟩
    exact ⟨items, ilocRecords, irefReferences, ipmaEntries, ipmaAssociations, visited, depth,
      fun record member => (recordFits record member).extents⟩
  · rintro ⟨⟨within, loads⟩, rfl⟩
    refine ⟨within.depth, ⟨?_, rfl, ?_⟩⟩
    · intro content isContent record isRecord
      have member : record ∈ boxes.records := List.mem_flatMap.mpr ⟨content, isContent, isRecord⟩
      exact ⟨within.extents record member, loads.bytes record member⟩
    · exact takeAll_within.mpr ⟨within.items, within.ilocRecords, within.irefReferences, within.ipmaEntries,
        within.ipmaAssociations, within.visited, loads.eager⟩

end Boxes

/-! ## The whole file -/

/-- The walk of a file keeps what the boxes of its tree declare. -/
theorem walkFile_eq_ok {slice : Slice} {budget : Budget} {walk : Walk} :
    walkFile slice budget = .ok walk ↔
      ∃ boxes : Boxes, boxes.Placed slice true 0 slice.length ∧ (boxes.Within budget ∧ boxes.Loads budget) ∧
        walk = ({} : Walk).takeAll boxes.contents := by
  rw [walkFile, walkBoxes_eq_ok visit_visits (Nat.le_refl _) (Walk.start_within budget)]
  simp only [Walk.Passes, Boxes.covers_iff, Nat.zero_le, true_and]

/-- The walk of a file succeeds exactly where its bytes are a box tree, of which there is one, whose totals
are within the budget, as is what it keeps for the items that are loaded eagerly. -/
theorem container_walk (slice : Slice) (budget : Budget) :
    (∃ walk, walkFile slice budget = .ok walk) ↔
      ∃ boxes : Boxes, (∀ other : Boxes, other.Placed slice true 0 slice.length ↔ other = boxes) ∧
        boxes.Within budget ∧ boxes.Loads budget := by
  constructor
  · rintro ⟨walk, walks⟩
    obtain ⟨boxes, placed, allowed, _⟩ := walkFile_eq_ok.mp walks
    refine ⟨boxes, fun other => ⟨fun otherPlaced => ?_, fun same => same ▸ placed⟩, allowed⟩
    exact otherPlaced.unique placed (by simp)
  · rintro ⟨boxes, isTree, allowed⟩
    exact ⟨_, walkFile_eq_ok.mpr ⟨boxes, (isTree boxes).mpr rfl, allowed, rfl⟩⟩

/-- A file is refused whose tree keeps too much for loading. -/
theorem walk_refused {slice : Slice} {budget : Budget} {boxes : Boxes}
    (placed : boxes.Placed slice true 0 slice.length) (excess : ¬ boxes.Loads budget) :
    ¬ ∃ walk, walkFile slice budget = .ok walk := by
  rintro ⟨walk, walks⟩
  obtain ⟨others, othersPlaced, ⟨_, loads⟩, _⟩ := walkFile_eq_ok.mp walks
  have isTree : others = boxes := othersPlaced.unique placed (by simp)
  exact excess (isTree ▸ loads)

/-- One box that declares one item, of which nothing is loaded eagerly. -/
def smallBudget : Budget where
  maxContainerItems := 1
  maxContainerAssociations := 0
  maxMetadataItems := 0
  maxMetadataBytes := 0
  maxContainerBoxes := 1
  maxContainerDepth := 0
  maxItemExtents := 2

/-- The box of an item that is loaded eagerly. -/
def exifFile : Slice :=
  ⟨[0, 0, 0, 20, 105, 110, 102, 101, 2, 0, 0, 0, 0, 1, 0, 0, 69, 120, 105, 102], by decide⟩

def exifTree : Boxes :=
  .box { kind := fourcc 'i' 'n' 'f' 'e', bodyStart := 8, bodyEnd := 20, next := 20 }
    (.item 1 true) .empty .empty

theorem exifTree_placed : exifTree.Placed exifFile true 0 exifFile.length := by
  refine ⟨?_, ⟨.leaf, ?_, rfl⟩, fun _ => rfl⟩
  · decide
  · exact ⟨1, fourcc 'E' 'x' 'i' 'f', [], rfl, rfl, rfl⟩

/-- The box of a record with two extents, the lengths of which add up to more than a machine word. -/
def overflowFile : Slice :=
  ⟨[0, 0, 0, 38, 105, 108, 111, 99, 0, 0, 0, 0, 8, 0, 0, 1, 0, 1, 0, 0, 0, 2] ++
    [255, 255, 255, 255, 255, 255, 255, 255] ++ [0, 0, 0, 0, 0, 0, 0, 1], by decide⟩

def overflowTree : Boxes :=
  .box { kind := fourcc 'i' 'l' 'o' 'c', bodyStart := 8, bodyEnd := 38, next := 38 }
    (.locations [⟨1, [2 ^ 64 - 1, 1]⟩]) .empty .empty

theorem overflowTree_placed : overflowTree.Placed overflowFile true 0 overflowFile.length := by
  refine ⟨?_, ⟨.leaf, ?_, rfl⟩, fun _ => rfl⟩
  · decide
  · refine ⟨[⟨1, [2 ^ 64 - 1, 1]⟩], ⟨0, 0, 8, 0, 0⟩, ⟨rfl, by decide, by decide, ?_⟩, rfl, rfl⟩
    refine ⟨by decide, by decide, by decide, 38, ?_, trivial⟩
    exact ⟨by decide, by decide, by decide, by decide, rfl⟩

/-- Totals within the ceilings of the budget are not enough: the first file is refused by the ceiling on
items that are loaded eagerly, the second because its bytes do not add up. -/
theorem totals_not_enough :
    ¬ ((∃ walk, walkFile exifFile smallBudget = .ok walk) ↔
        ∃ boxes : Boxes, boxes.Placed exifFile true 0 exifFile.length ∧ boxes.Within smallBudget) ∧
      ¬ ((∃ walk, walkFile overflowFile smallBudget = .ok walk) ↔
        ∃ boxes : Boxes, boxes.Placed overflowFile true 0 overflowFile.length ∧ boxes.Within smallBudget) := by
  constructor
  · intro claimed
    have within : exifTree.Within smallBudget := by decide
    refine walk_refused exifTree_placed ?_ (claimed.mpr ⟨exifTree, exifTree_placed, within⟩)
    intro loads
    exact absurd loads.eager (by decide)
  · intro claimed
    have within : overflowTree.Within smallBudget := by decide
    refine walk_refused overflowTree_placed ?_ (claimed.mpr ⟨overflowTree, overflowTree_placed, within⟩)
    intro loads
    exact absurd (loads.bytes ⟨1, [2 ^ 64 - 1, 1]⟩ (by decide)) (by decide)

end Genkan.DynamicWallpaper.Container
