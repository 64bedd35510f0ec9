import Genkan.DynamicWallpaper.AuditedReading
import Genkan.DynamicWallpaper.BoxWalk

/-! # The preflight is safe on every file

Nothing in the walk panics, its loops end, and what it logs stays within the budget.
-/

namespace Genkan.DynamicWallpaper.Container

open Foundations Foundations.Audit Foundations.Bytes Foundations.Results Heic

theorem HeaderAt.advances {slice : Slice} {offset limit : Nat} {header : Header}
    (placed : HeaderAt slice offset limit header) : offset + 8 ≤ header.next := by
  have eight : 8 ≤ headerLength slice offset := by
    rw [headerLength]
    split <;> omega
  have isStart := placed.isBodyStart
  have covers := placed.covers
  have isNext := placed.isNext
  omega

namespace Audited

/-- A turn over boxes consumes a header, and the index of any other turn is below a budgeted count. -/
def Event.Allowed (slice : Slice) (budget : Budget) : Event → Prop
  | .visited depth => depth ≤ budget.maxContainerDepth.toNat + 1
  | .header offset next => offset + 8 ≤ next ∧ next ≤ slice.length
  | .record index => index < budget.maxContainerItems.toNat
  | .extent index => index < budget.maxItemExtents.toNat
  | .entry index => index < budget.maxContainerItems.toNat
  | .loads index => index < budget.maxMetadataItems.toNat
  | .compares index => index < budget.maxContainerItems.toNat

/-- The visited boxes are counted. -/
def Event.visits : Event → Nat
  | .visited _ => 1
  | _ => 0

def account (slice : Slice) (budget : Budget) : Account Event where
  allowed := Event.Allowed slice budget
  cost := Event.visits
  limit := budget.maxContainerBoxes.toNat + 1

section

variable {slice : Slice} {budget : Budget}

/-! ## Loops over boxes -/

/-- A loop over boxes does what the plain loop does where one turn does. -/
theorem boxLoop_meets {State : Type} {check : Nat → Task Unit} {plainCheck : Nat → Except Error Unit}
    {body : Header → State → Task State} (plainBody : Header → State → Except Error State)
    (loop : Nat → State → Except Error State) {finish : Nat} {invariant : Nat → State → Prop}
    (bound : finish ≤ slice.length)
    (ends : ∀ offset state, ¬ offset < finish → loop offset state = .ok state)
    (continues : ∀ offset state, offset < finish → loop offset state = do
      plainCheck offset
      let child ← Container.readHeader slice offset finish
      let state ← plainBody child state
      loop child.next state)
    (checks : ∀ offset, check offset = .of (plainCheck offset))
    (limited : ∀ count state, invariant count state → count ≤ (account slice budget).limit)
    (bodies : ∀ child count state, child.bodyStart ≤ child.bodyEnd → child.bodyEnd ≤ slice.length →
      invariant count state →
        Meets (account slice budget) count (body child state) (plainBody child state) invariant)
    {turns offset count : Nat} {state : State} (enough : finish - offset ≤ turns)
    (holds : invariant count state) :
    Meets (account slice budget) count (boxLoop slice check body finish turns offset state)
      (loop offset state) invariant := by
  induction turns generalizing offset count state with
  | zero =>
    have past : ¬ offset < finish := by omega
    rw [boxLoop, if_neg past, ends offset state past]
    exact .pure holds
  | succ turns inductionHypothesis =>
    rw [boxLoop]
    split
    next before =>
      have within := limited count state holds
      rw [continues offset state before, checks]
      refine .of_bind within fun _ _ => ?_
      rw [readHeader_eq]
      refine .of_bind within fun child isChild => ?_
      have placed := (readHeader_eq_ok bound).mp isChild
      have advances := placed.advances
      refine .log ⟨advances, Nat.le_trans placed.next_le bound⟩ ?_
      refine (bodies child count state placed.covers (Nat.le_trans placed.inside bound) holds).bind ?_
      intro reached next _ kept
      exact inductionHypothesis (by omega) kept
    next past =>
      rw [ends offset state past]
      exact .pure holds

/-! ## Loops over what a box lists -/

section

variable {count : Nat}

theorem extentLoop_meets {fields : Fields} {finish : Nat} (within : count ≤ (account slice budget).limit)
    {left index offset total : Nat} (few : index + left ≤ budget.maxItemExtents.toNat) :
    Meets (account slice budget) count (extentLoop slice fields finish left index offset total)
      (Container.extentLoop slice fields finish left offset total) (fun reached _ => reached = count) := by
  induction left generalizing index offset total with
  | zero => exact .pure rfl
  | succ left inductionHypothesis =>
    refine .log (show index < _ by omega) ?_
    refine .of_bind within fun _ _ => .of_bind within fun _ _ => ?_
    rw [readUint_eq]
    refine .of_bind within fun _ _ => .of_bind within fun _ _ => .of_bind within fun _ _ => ?_
    exact inductionHypothesis (by omega)

theorem recordLoop_meets {fields : Fields} {finish : Nat} (within : count ≤ (account slice budget).limit)
    {left index offset : Nat} {extents : List Extent} (few : index + left ≤ budget.maxContainerItems.toNat) :
    Meets (account slice budget) count (recordLoop slice budget fields finish left index offset extents)
      (Container.recordLoop slice budget fields finish left offset extents)
      (fun reached _ => reached = count) := by
  induction left generalizing index offset extents with
  | zero => exact .pure rfl
  | succ left inductionHypothesis =>
    have limit := slice.length_bounded
    refine .log (show index < _ by omega) ?_
    rw [Container.recordLoop]
    simp only
    generalize isWidth : (if fields.version < 2 then 2 else 4) = width
    have small : width ≤ 4 := by
      rw [← isWidth]
      split <;> omega
    rw [readBigEndian_eq]
    refine .of_bind within fun id isId => ?_
    have inside := (readBigEndian_ok isId).2.1
    have method : (if 1 ≤ fields.version then add (offset + width) 2 else pure (offset + width) : Task Nat) =
        .of (.ok (offset + width + if 1 ≤ fields.version then 2 else 0)) := by
      split
      next => exact add_eq (by omega)
      next => rfl
    have methodSmall : (if 1 ≤ fields.version then 2 else 0) ≤ 2 := by split <;> omega
    rw [add_eq (by omega), of_ok_bind, method, of_ok_bind, add_eq (by omega), of_ok_bind]
    refine .of_bind within fun extentsAt _ => ?_
    rw [readU16_eq]
    refine .of_bind within fun extentCount isCount => ?_
    have insideCount := (readBigEndian_ok isCount).2.1
    rw [add_eq (by omega), of_ok_bind]
    refine .of_bind within fun _ fits => ?_
    rw [rejectIf_eq_ok, Nat.not_lt] at fits
    refine (extentLoop_meets within (by omega)).bind ?_
    rintro _ ⟨next, sum⟩ _ rfl
    exact inductionHypothesis (by omega)

theorem entryLoop_meets {idSize width finish : Nat} (within : count ≤ (account slice budget).limit)
    (narrow : width ≤ 2) {left index offset associations : Nat}
    (few : index + left ≤ budget.maxContainerItems.toNat) :
    Meets (account slice budget) count
      (entryLoop slice budget idSize width finish left index offset associations)
      (Container.entryLoop slice budget idSize width finish left offset associations)
      (fun reached _ => reached = count) := by
  induction left generalizing index offset associations with
  | zero => exact .pure rfl
  | succ left inductionHypothesis =>
    have limit := slice.length_bounded
    refine .log (show index < _ by omega) ?_
    refine .of_bind within fun declaredAt _ => ?_
    rw [readU8_eq]
    refine .of_bind within fun declared isDeclared => ?_
    obtain ⟨_, inside, byte⟩ := readBigEndian_ok isDeclared
    have product : declared * width ≤ declared * 2 := Nat.mul_le_mul_left declared narrow
    rw [add_eq (by omega), of_ok_bind]
    refine .of_bind within fun _ _ => ?_
    rw [mul_eq (by omega), of_ok_bind]
    exact .of_bind within fun _ _ => inductionHypothesis (by omega)

/-! ## Boxes without children -/

variable {header : Header} {walk : Walk}

/-- No box was visited. -/
def Unvisited (count : Nat) (walk : Walk) (reached : Nat) (next : Walk) : Prop :=
  reached = count ∧ next.boxes = walk.boxes

theorem parseInfe_eq (kept : walk.metadataItems.length < 2 ^ 32) :
    parseInfe slice budget header walk = .of (Container.parseInfe slice budget header walk) := by
  rw [parseInfe, readInfe_eq]
  refine of_bind fun item _ => of_bind fun items _ => ?_
  obtain ⟨id, itemType, contentType⟩ := item
  simp only [Nat.mod_eq_of_lt kept]
  split
  next => rfl
  next =>
    split
    next => rfl
    next => exact of_bind fun _ _ => rfl

theorem parseIloc_meets (within : count ≤ (account slice budget).limit) :
    Meets (account slice budget) count (parseIloc slice budget header walk)
      (Container.parseIloc slice budget header walk) (Unvisited count walk) := by
  have limit := slice.length_bounded
  rw [parseIloc, readFields_eq]
  refine .of_bind within fun fields isFields => ?_
  have start : header.bodyStart + 6 ≤ slice.length := by
    simp only [Container.readFields, bind_eq_ok] at isFields
    obtain ⟨_, _, _, _, _, isWidths, _⟩ := isFields
    exact (readBigEndian_ok isWidths).2.1
  rw [add_eq (by omega), of_ok_bind, add_eq (by omega), of_ok_bind, Nat.add_assoc header.bodyStart 4 2]
  simp only
  generalize isWidth : (if fields.version < 2 then 2 else 4) = width
  have small : width ≤ 4 := by
    rw [← isWidth]
    split <;> omega
  rw [readBigEndian_eq]
  refine .of_bind within fun itemCount _ => ?_
  rw [add_eq (by omega), of_ok_bind]
  refine .of_bind within fun records isRecords => ?_
  obtain ⟨isSum, fits⟩ := countUp_eq_ok.mp isRecords
  refine Meets.bind ?_ fun _ _ _ same => .pure ⟨same, rfl⟩
  exact recordLoop_meets within (by omega)

theorem listLoop_continues {check : Nat → Except Error Unit} {list : Header → Nat → Except Error Nat}
    {finish offset references : Nat} (before : offset < finish) :
    listLoop slice check list finish offset references = (do
      check offset
      let child ← Container.readHeader slice offset finish
      let references ← list child references
      listLoop slice check list finish child.next references) := by
  rw [listLoop, if_pos before]
  split
  next error fails =>
    rw [fails]
    rfl
  next checked =>
    rw [checked]
    split
    next error fails =>
      rw [fails]
      rfl
    next child reads =>
      rw [reads]
      change _ = (list child references >>= fun references => _)
      cases list child references <;> rfl

theorem listLoop_meets {check : Nat → Task Unit} {plainCheck : Nat → Except Error Unit}
    {list : Header → Nat → Task Nat} {plainList : Header → Nat → Except Error Nat} {finish : Nat}
    (within : count ≤ (account slice budget).limit) (bound : finish ≤ slice.length)
    (checks : ∀ offset, check offset = .of (plainCheck offset))
    (lists : ∀ child references, child.bodyStart ≤ child.bodyEnd → child.bodyEnd ≤ slice.length →
      list child references = .of (plainList child references)) (offset references : Nat) :
    Meets (account slice budget) count
      (boxLoop slice check list finish (finish - offset) offset references)
      (listLoop slice plainCheck plainList finish offset references) (fun reached _ => reached = count) := by
  refine boxLoop_meets plainList (listLoop slice plainCheck plainList finish) bound ?_ ?_ checks ?_ ?_
    (Nat.le_refl _) rfl
  · intro offset references past
    rw [listLoop, if_neg past]
  · exact fun _ _ before => listLoop_continues before
  · rintro _ _ rfl
    exact within
  · rintro child _ references covers inside rfl
    rw [lists child references covers inside]
    exact .of within fun _ _ => rfl

theorem parseIref_meets (within : count ≤ (account slice budget).limit)
    (bound : header.bodyEnd ≤ slice.length) :
    Meets (account slice budget) count (parseIref slice budget header walk)
      (Container.parseIref slice budget header walk) (Unvisited count walk) := by
  have limit := slice.length_bounded
  rw [parseIref, read_eq]
  refine .of_bind within fun prefixBytes isPrefix => ?_
  obtain ⟨_, inside, _, length⟩ := read_ok isPrefix
  have front : prefixBytes.getD 0 0 = prefixBytes.headD 0 := by cases prefixBytes <;> rfl
  rw [index_getD (by omega) 0, of_ok_bind, front]
  refine .of_bind within fun _ _ => ?_
  rw [add_eq (by omega), of_ok_bind]
  refine Meets.bind ?_ fun _ _ _ same => .pure ⟨same, rfl⟩
  refine listLoop_meets within bound (fun _ => rfl) ?_ _ _
  intro child references covers inside
  refine irefList_eq ?_ covers inside references
  split <;> omega

theorem parseTref_meets (within : count ≤ (account slice budget).limit)
    (bound : header.bodyEnd ≤ slice.length) :
    Meets (account slice budget) count (parseTref slice budget header walk)
      (Container.parseTref slice budget header walk) (Unvisited count walk) := by
  refine Meets.bind ?_ fun _ _ _ same => .pure ⟨same, rfl⟩
  exact listLoop_meets within bound (trefCheck_eq header.bodyEnd)
    (fun child references covers _ => trefList_eq covers references) _ _

theorem parseIpma_meets (within : count ≤ (account slice budget).limit) :
    Meets (account slice budget) count (parseIpma slice budget header walk)
      (Container.parseIpma slice budget header walk) (Unvisited count walk) := by
  have limit := slice.length_bounded
  rw [parseIpma, readU8_eq]
  refine .of_bind within fun version isVersion => .of_bind within fun _ _ => ?_
  have start := (readBigEndian_ok isVersion).2.1
  rw [add_eq (by omega), of_ok_bind, readU8_eq]
  refine .of_bind within fun flags _ => ?_
  rw [add_eq (by omega), of_ok_bind, readU32_eq]
  refine .of_bind within fun entryCount isCount => ?_
  have inside := (readBigEndian_ok isCount).2.1
  rw [add_eq (by omega), of_ok_bind]
  refine .of_bind within fun entries isEntries => ?_
  obtain ⟨isSum, fits⟩ := countUp_eq_ok.mp isEntries
  refine Meets.bind ?_ fun _ _ _ same => .pure ⟨same, rfl⟩
  refine entryLoop_meets within ?_ (by omega)
  split <;> omega

end

/-! ## Visiting boxes -/

/-- The count is that of the walk, which has visited a box at each smaller depth. -/
structure Counted (budget : Budget) (depth count : Nat) (walk : Walk) : Prop where
  boxes : count = walk.boxes
  within : walk.Within budget
  deep : depth ≤ walk.boxes

theorem Counted.le_limit {depth count : Nat} {walk : Walk} (counted : Counted budget depth count walk) :
    count ≤ (account slice budget).limit := by
  rw [counted.boxes]
  exact Nat.le_succ_of_le counted.within.boxes

/-- What is done with a box at the depth does what the plain visit does. -/
def Accounts (slice : Slice) (budget : Budget) (depth : Nat) (visit : Header → Walk → Task Walk)
    (plainVisit : Header → Walk → Except Error Walk) : Prop :=
  ∀ header walk count, header.bodyStart ≤ header.bodyEnd → header.bodyEnd ≤ slice.length →
    Counted budget depth count walk →
      Meets (account slice budget) count (visit header walk) (plainVisit header walk) (Counted budget depth)

section

variable {depth count : Nat} {walk : Walk} {visit : Nat → Header → Walk → Task Walk}
  {plainVisit : Header → Walk → Except Error Walk}

theorem walkLoop_continues {finish offset : Nat} (before : offset < finish) :
    walkLoop slice plainVisit finish offset walk = (do
      (.ok () : Except Error Unit)
      let child ← Container.readHeader slice offset finish
      let walk ← plainVisit child walk
      walkLoop slice plainVisit finish child.next walk) := by
  rw [walkLoop, if_pos before]
  split
  next error fails =>
    rw [fails]
    rfl
  next child reads =>
    rw [reads]
    change _ = (plainVisit child walk >>= fun walk => _)
    cases plainVisit child walk <;> rfl

theorem walkBoxes_meets (visits : Accounts slice budget depth (visit depth) plainVisit) {start finish : Nat}
    (bound : finish ≤ slice.length) (counted : Counted budget depth count walk) :
    Meets (account slice budget) count (walkBoxes slice visit start finish depth walk)
      (Container.walkBoxes slice plainVisit start finish walk) (Counted budget depth) := by
  refine .of_bind counted.le_limit fun _ _ => ?_
  refine boxLoop_meets plainVisit (walkLoop slice plainVisit finish) bound ?_ ?_ (fun _ => rfl) ?_ ?_
    (Nat.le_refl _) counted
  · intro offset walk past
    rw [walkLoop, if_neg past]
  · exact fun _ _ before => walkLoop_continues before
  · exact fun _ _ kept => kept.le_limit
  · exact fun child count walk covers inside kept => visits child walk count covers inside kept

theorem Counted.deeper {count : Nat} {walk : Walk} (counted : Counted budget (depth + 1) count walk) :
    deeper depth = .of (.ok (depth + 1)) := by
  have few := Nat.le_trans counted.deep counted.within.boxes
  have bits := budget.maxContainerBoxes.toNat_lt
  exact deeper_eq (by omega)

theorem walkBody_meets (visits : Accounts slice budget (depth + 1) (visit (depth + 1)) plainVisit)
    {header : Header} {skipped : Nat} (covers : header.bodyStart ≤ header.bodyEnd)
    (bound : header.bodyEnd ≤ slice.length) (near : skipped ≤ 78)
    (counted : Counted budget (depth + 1) count walk) :
    Meets (account slice budget) count (walkBody slice visit header skipped depth walk)
      (Container.walkBoxes slice plainVisit (header.bodyStart + skipped) header.bodyEnd walk)
      (Counted budget (depth + 1)) := by
  have limit := slice.length_bounded
  rw [walkBody, add_eq (by omega), of_ok_bind, counted.deeper, of_ok_bind]
  exact walkBoxes_meets visits bound counted

theorem walkVisualSampleEntry_meets
    (visits : Accounts slice budget (depth + 1) (visit (depth + 1)) plainVisit) {header : Header}
    (covers : header.bodyStart ≤ header.bodyEnd) (bound : header.bodyEnd ≤ slice.length)
    (counted : Counted budget (depth + 1) count walk) :
    Meets (account slice budget) count (walkVisualSampleEntry slice visit header depth walk)
      (Container.walkVisualSampleEntry slice plainVisit header walk) (Counted budget (depth + 1)) := by
  have within : count ≤ (account slice budget).limit := counted.le_limit
  rw [walkVisualSampleEntry, read_eq]
  refine .of_bind within fun entry isEntry => ?_
  have length := (read_ok isEntry).2.2.2
  rw [index_getD (by rw [length]; decide) 0, of_ok_bind]
  refine .of_bind within fun _ _ => ?_
  exact walkBody_meets visits covers bound (Nat.le_refl _) counted

/-- One entry, as the plain loop takes it. -/
def plainEntry (plainVisit : Header → Walk → Except Error Walk) (child : Header) (state : Nat × Walk) :
    Except Error (Nat × Walk) := do
  let walk ← plainVisit child state.2
  let seen ← okOr (if state.1 + 1 < 2 ^ 32 then some (state.1 + 1) else none) (.limit "container item count")
  pure (seen, walk)

theorem iinfLoop_continues {finish offset seen : Nat} (before : offset < finish) :
    iinfLoop slice plainVisit finish offset seen walk = (do
      (.ok () : Except Error Unit)
      let child ← Container.readHeader slice offset finish
      let state ← plainEntry plainVisit child (seen, walk)
      iinfLoop slice plainVisit finish child.next state.1 state.2) := by
  rw [iinfLoop, if_pos before]
  split
  next error fails =>
    rw [fails]
    rfl
  next child reads =>
    rw [reads]
    change _ = (plainEntry plainVisit child (seen, walk) >>= fun state => _)
    rw [plainEntry]
    split
    next error fails =>
      rw [fails]
      rfl
    next middle visited =>
      rw [visited]
      split
      next => rfl
      next => rfl

theorem iinfLoop_meets (visits : Accounts slice budget (depth + 1) (visit (depth + 1)) plainVisit)
    {finish offset seen : Nat} (bound : finish ≤ slice.length)
    (counted : Counted budget (depth + 1) count walk) :
    Meets (account slice budget) count
      (boxLoop slice (fun _ => pure ()) (iinfEntry visit depth) finish (finish - offset) offset (seen, walk))
      (iinfLoop slice plainVisit finish offset seen walk)
      (fun reached state => Counted budget (depth + 1) reached state.2) := by
  refine boxLoop_meets (plainEntry plainVisit)
    (fun offset state => iinfLoop slice plainVisit finish offset state.1 state.2) bound ?_ ?_
    (fun _ => rfl) (fun _ _ kept => kept.le_limit) ?_ (Nat.le_refl _) counted
  · intro offset state past
    rw [iinfLoop, if_neg past]
  · exact fun _ _ before => iinfLoop_continues before
  · intro child count state covers inside kept
    rw [iinfEntry, kept.deeper, of_ok_bind]
    refine (visits child state.2 count covers inside kept).bind fun reached walk _ keeps => ?_
    exact .of_bind keeps.le_limit fun _ _ => .pure keeps

theorem parseIinf_meets (visits : Accounts slice budget (depth + 1) (visit (depth + 1)) plainVisit)
    {header : Header} (bound : header.bodyEnd ≤ slice.length)
    (counted : Counted budget (depth + 1) count walk) :
    Meets (account slice budget) count (parseIinf slice visit header depth walk)
      (Container.parseIinf slice plainVisit header walk) (Counted budget (depth + 1)) := by
  have limit := slice.length_bounded
  have within : count ≤ (account slice budget).limit := counted.le_limit
  rw [parseIinf, readU8_eq]
  refine .of_bind within fun version isVersion => ?_
  have start := (readBigEndian_ok isVersion).2.1
  rw [add_eq (by omega), of_ok_bind]
  simp only
  generalize isWidth : (if version = 0 then 2 else 4) = width
  have small : width ≤ 4 := by
    rw [← isWidth]
    split <;> omega
  rw [readBigEndian_eq]
  refine .of_bind within fun declared _ => ?_
  rw [add_eq (by omega), of_ok_bind]
  refine (iinfLoop_meets visits bound counted).bind ?_
  rintro reached ⟨seen, walk⟩ _ kept
  exact .of_bind kept.le_limit fun _ _ => .pure kept

theorem stsdLoop_meets (visits : Accounts slice budget (depth + 1) (visit (depth + 1)) plainVisit)
    {finish : Nat} (bound : finish ≤ slice.length) {left offset : Nat}
    (counted : Counted budget (depth + 1) count walk) :
    Meets (account slice budget) count (stsdLoop slice visit finish depth left offset walk)
      (Container.stsdLoop slice plainVisit finish left offset walk) (Counted budget (depth + 1)) := by
  induction left generalizing offset count walk with
  | zero => exact .pure counted
  | succ left inductionHypothesis =>
    have within : count ≤ (account slice budget).limit := counted.le_limit
    refine .of_bind within fun _ _ => ?_
    rw [readHeader_eq]
    refine .of_bind within fun child isChild => ?_
    have placed := (readHeader_eq_ok bound).mp isChild
    refine .log ⟨placed.advances, Nat.le_trans placed.next_le bound⟩ ?_
    rw [counted.deeper, of_ok_bind]
    refine (visits child walk count placed.covers (Nat.le_trans placed.inside bound) counted).bind ?_
    exact fun _ _ _ kept => inductionHypothesis kept

theorem parseStsd_meets (visits : Accounts slice budget (depth + 1) (visit (depth + 1)) plainVisit)
    {header : Header} (bound : header.bodyEnd ≤ slice.length)
    (counted : Counted budget (depth + 1) count walk) :
    Meets (account slice budget) count (parseStsd slice visit header depth walk)
      (Container.parseStsd slice plainVisit header walk) (Counted budget (depth + 1)) := by
  have limit := slice.length_bounded
  have within : count ≤ (account slice budget).limit := counted.le_limit
  rw [parseStsd, readU8_eq]
  refine .of_bind within fun version isVersion => .of_bind within fun _ _ => ?_
  have start := (readBigEndian_ok isVersion).2.1
  rw [add_eq (by omega), of_ok_bind, readU32_eq]
  refine .of_bind within fun declared isDeclared => ?_
  have inside := (readBigEndian_ok isDeclared).2.1
  rw [add_eq (by omega), of_ok_bind]
  exact stsdLoop_meets visits bound counted

end

/-! ## The whole walk -/

theorem parseInfe_boxes {header : Header} {walk next : Walk}
    (parses : Container.parseInfe slice budget header walk = .ok next) : next.boxes = walk.boxes := by
  simp only [Container.parseInfe, bind_eq_ok, Prod.exists] at parses
  obtain ⟨id, itemType, contentType, _, items, _, parses⟩ := parses
  split at parses
  next => cases parses; rfl
  next =>
    split at parses
    next => cases parses; rfl
    next =>
      simp only [bind_eq_ok, pure_eq_ok] at parses
      obtain ⟨_, _, rfl⟩ := parses
      rfl

theorem within_of_same {walk next : Walk} (within : walk.Within budget) (sameTotals : next.totals = walk.totals)
    (sameItems : next.metadataItems = walk.metadataItems)
    (few : next.boxes ≤ budget.maxContainerBoxes.toNat) : next.Within budget := by
  refine ⟨?_, ?_, ?_, ?_, ?_, few, ?_⟩
  · rw [sameTotals]
    exact within.items
  · rw [sameTotals]
    exact within.ilocRecords
  · rw [sameTotals]
    exact within.irefReferences
  · rw [sameTotals]
    exact within.ipmaEntries
  · rw [sameTotals]
    exact within.ipmaAssociations
  · rw [sameItems]
    exact within.metadataItems

theorem meets_counted {audited : Task Walk} {plain : Except Error Walk} {count : Nat} {walk : Walk}
    (isCount : count = walk.boxes)
    (meets : Meets (account slice budget) count audited plain (Unvisited count walk)) :
    Meets (account slice budget) count audited plain (fun reached next => reached = next.boxes) := by
  refine meets.mono ?_
  rintro reached next _ ⟨rfl, sameBoxes⟩
  exact isCount.trans sameBoxes.symm

theorem visit_meets {levels stack depth : Nat} (isDepth : depth + levels = budget.maxContainerDepth.toNat + 1)
    (deep : levels < stack) :
    Accounts slice budget depth (visit slice budget stack depth) (Container.visit slice budget levels) := by
  induction levels generalizing stack depth with
  | zero =>
    intro header walk count _ _ counted
    cases stack with
    | zero => contradiction
    | succ stack =>
      rw [visit]
      refine .log (show depth ≤ _ by omega) ?_
      rw [rejectIf, if_pos (by omega)]
      exact .of (Nat.succ_le_succ (counted.boxes ▸ counted.within.boxes)) (by rintro _ ⟨⟩)
  | succ levels inductionHypothesis =>
    intro header walk count covers bound counted
    cases stack with
    | zero => contradiction
    | succ stack =>
      have visits := inductionHypothesis (show depth + 1 + levels = _ by omega) (Nat.lt_of_succ_lt_succ deep)
      have entered : Meets (account slice budget) count (visit slice budget (stack + 1) depth header walk)
          (Container.visit slice budget (levels + 1) header walk) (fun reached next => reached = next.boxes) := by
        have isBoxes := counted.boxes
        have boxesFew := counted.within.boxes
        have reachedDepth := counted.deep
        have within : count + 1 ≤ (account slice budget).limit := Nat.succ_le_succ (isBoxes ▸ boxesFew)
        rw [visit, Container.visit]
        refine .log (show depth ≤ _ by omega) ?_
        change Meets _ (count + 1) _ _ _
        rw [rejectIf, if_neg (by omega), of_ok_bind]
        refine .of_bind within fun boxes isSum => ?_
        obtain ⟨isSum, few⟩ := countUp_eq_ok.mp isSum
        have isCount : count + 1 = boxes := by omega
        have entered : ∀ next : Walk, next.totals = walk.totals → next.metadataItems = walk.metadataItems →
            next.boxes = boxes → Counted budget (depth + 1) (count + 1) next := by
          intro next sameTotals sameItems sameBoxes
          refine ⟨isCount.trans sameBoxes.symm, ?_, by omega⟩
          exact within_of_same counted.within sameTotals sameItems (by omega)
        cases classify header.kind with
        | metaBox | dref | urim | container =>
          refine Meets.mono (walkBody_meets visits covers bound ?_ (entered _ rfl rfl rfl)) ?_
          · decide
          · exact fun _ _ _ kept => kept.boxes
        | visualSampleEntry =>
          refine Meets.mono (walkVisualSampleEntry_meets visits covers bound (entered _ rfl rfl rfl)) ?_
          exact fun _ _ _ kept => kept.boxes
        | iinf =>
          refine Meets.mono (parseIinf_meets visits bound (entered _ rfl rfl rfl)) ?_
          exact fun _ _ _ kept => kept.boxes
        | stsd =>
          refine Meets.mono (parseStsd_meets visits bound (entered _ rfl rfl rfl)) ?_
          exact fun _ _ _ kept => kept.boxes
        | infe =>
          have kept := counted.within.metadataItems
          have bits := budget.maxMetadataItems.toNat_lt
          have short : ({ walk with boxes := boxes } : Walk).metadataItems.length < 2 ^ 32 := by
            simp only
            omega
          simp only
          rw [parseInfe_eq short]
          exact .of within fun next isNext => isCount.trans (parseInfe_boxes isNext).symm
        | iloc => exact meets_counted isCount (parseIloc_meets within)
        | iref => exact meets_counted isCount (parseIref_meets within bound)
        | tref => exact meets_counted isCount (parseTref_meets within bound)
        | ipma => exact meets_counted isCount (parseIpma_meets within)
        | ftyp =>
          simp only [parseFtyp, readFtyp_eq covers]
          exact .of_bind within fun _ _ => .pure isCount
        | colr =>
          simp only [parseColr, readColr_eq covers]
          exact .of_bind within fun _ _ => .pure isCount
        | mini | other => exact .pure isCount
      refine entered.mono fun reached next isNext isReached => ?_
      obtain ⟨content, children, _, _, walked⟩ :=
        (visit_visits header walk next covers bound counted.within).mp isNext
      refine ⟨isReached, walked.within, ?_⟩
      rw [walked.isResult, Walk.takeAll_boxes]
      exact Nat.le_trans counted.deep (Nat.le_add_right _ _)

theorem walkFile_meets (slice : Slice) (budget : Budget) :
    Meets (account slice budget) 0 (walkFile slice budget) (Container.walkFile slice budget)
      (Counted budget 0) := by
  have counted : Counted budget 0 0 {} := ⟨rfl, Walk.start_within budget, Nat.le_refl 0⟩
  exact walkBoxes_meets (visit_meets (Nat.zero_add _) (Nat.lt_succ_self _)) (Nat.le_refl _) counted

/-- As many extents are kept as there were location records. -/
theorem extents_few {walk : Walk} (walks : Container.walkFile slice budget = .ok walk) :
    walk.extents.length ≤ budget.maxContainerItems.toNat := by
  obtain ⟨boxes, _, ⟨within, _⟩, rfl⟩ := walkFile_eq_ok.mp walks
  rw [boxes.counted (fun walk => walk.extents.length) Content.ilocRecords rfl ?_]
  · exact within.ilocRecords
  · intro walk content
    cases content <;> simp [Walk.take, Content.ilocRecords]

theorem largestLoop_meets {count id index largest : Nat} {extents : List Extent}
    (few : index + extents.length ≤ budget.maxContainerItems.toNat) :
    Meets (account slice budget) count (largestLoop id index extents largest)
      (.ok (extents.foldl
        (fun largest extent => if extent.id = id then max largest extent.bytes else largest) largest))
      (fun reached _ => reached = count) := by
  induction extents generalizing index largest with
  | nil => exact .pure rfl
  | cons extent extents inductionHypothesis =>
    rw [List.length_cons] at few
    exact .log (show index < _ by omega) (inductionHypothesis (by omega))

theorem loadLoop_meets {count index total : Nat} {extents : List Extent} {ids : List Nat}
    (within : count ≤ (account slice budget).limit)
    (fewExtents : extents.length ≤ budget.maxContainerItems.toNat)
    (few : index + ids.length ≤ budget.maxMetadataItems.toNat) :
    Meets (account slice budget) count (loadLoop extents index ids total)
      (ids.foldlM (fun total id =>
        let largest := extents.foldl
          (fun largest extent => if extent.id = id then max largest extent.bytes else largest) 0
        okOr (checkedAdd total largest) (.limit "metadata extent bytes")) total)
      (fun reached _ => reached = count) := by
  induction ids generalizing index total with
  | nil => exact .pure rfl
  | cons id ids inductionHypothesis =>
    rw [List.length_cons] at few
    rw [List.foldlM_cons]
    refine .log (show index < _ by omega) ?_
    refine (largestLoop_meets (by omega)).ok_bind ?_
    rintro _ rfl
    exact .of_bind within fun _ _ => inductionHypothesis (by omega)

theorem checkMetadataBytes_meets {count : Nat} {walk : Walk}
    (within : count ≤ (account slice budget).limit)
    (fewItems : walk.metadataItems.length ≤ budget.maxMetadataItems.toNat)
    (fewExtents : walk.extents.length ≤ budget.maxContainerItems.toNat) :
    Meets (account slice budget) count (checkMetadataBytes budget walk)
      (Container.checkMetadataBytes budget walk)
      (fun reached _ => reached ≤ (account slice budget).limit) := by
  refine (loadLoop_meets within fewExtents (by omega)).bind ?_
  rintro _ total _ rfl
  exact .of within fun _ _ => within

/-- On every file and for every budget the preflight returns what the plain one does, so that it does not
panic and its loops and its recursion end.  Each turn of a loop consumes a header or has an index below a
budgeted count, the depth of a box is at most one more than the allowed one, and so is the number of
boxes that are visited. -/
theorem preflight_safe (slice : Slice) (budget : Budget) :
    ∃ events, preflight slice budget = some (events, Container.preflight slice budget) ∧
      (∀ event ∈ events, event.Allowed slice budget) ∧
      (events.map Event.visits).sum ≤ budget.maxContainerBoxes.toNat + 1 := by
  have meets : Meets (account slice budget) 0 (preflight slice budget) (Container.preflight slice budget)
      (fun reached _ => reached ≤ (account slice budget).limit) := by
    refine (walkFile_meets slice budget).bind fun count walk walks counted => ?_
    refine .of_bind counted.le_limit fun _ _ => ?_
    exact checkMetadataBytes_meets counted.le_limit counted.within.metadataItems (extents_few walks)
  obtain ⟨events, same, allowed, accounted⟩ := meets
  refine ⟨events, same, allowed, ?_⟩
  split at accounted
  next => exact Nat.zero_add (events.map Event.visits).sum ▸ accounted
  next => exact Nat.zero_add (events.map Event.visits).sum ▸ accounted

end

end Audited

end Genkan.DynamicWallpaper.Container
