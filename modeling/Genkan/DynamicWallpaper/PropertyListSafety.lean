import Genkan.DynamicWallpaper.AuditedPreflights
import Genkan.DynamicWallpaper.PropertyListMeaning

/-! # The preflight of a property list is safe on all bytes

Nothing in it panics, its loops end, and the turns of all loops together are within what the limits
allow: the walk pays nine turns for an object or a reference out of those that are left.
-/

namespace Genkan.DynamicWallpaper.Heic.Audited

open Foundations Foundations.Audit Foundations.Bytes Foundations.Results

/-- Every turn of a loop counts as one. -/
def account (limit : Nat) : Account Event where
  allowed := fun _ => True
  cost := fun _ => 1
  limit := limit

variable {limit count : Nat} {slice : Slice} {limits : Limits}

theorem index_bytes {position : Nat} (within : position < slice.length) :
    (index slice.bytes position : Task UInt8) = .of (.ok (slice.byte position)) := index_getD within 0

/-- A loop over positions whose turns have a bounded cost. -/
theorem positions_meet {α : Type} {event : Event} {body : Nat → Task α} {plain : Nat → Except Error α}
    (cost total : Nat) (within : count + total * cost ≤ limit)
    (turn : ∀ position < total, ∀ count, count + cost ≤ limit →
      Meets (account limit) (count + 1) (body position) (plain position) fun reached _ => reached ≤ count + cost) :
    Meets (account limit) count (each event body (List.range total)) ((List.range total).mapM plain)
      fun reached _ => reached ≤ count + total * cost := by
  have length : (List.range total).length = total := List.length_range
  have turns : Meets (account limit) count (each event body (List.range total)) ((List.range total).mapM plain)
      fun reached _ => reached ≤ count + (List.range total).length * cost := by
    refine Meets.each cost trivial (by rwa [length]) ?_
    intro position member spent fits
    exact turn position (List.mem_range.mp member) spent fits
  rwa [length] at turns

/-! ## Integers of a property list -/

theorem readBe_meets {start length : Nat} (within : count + length ≤ limit) :
    Meets (account limit) count (readBe slice start length) (Heic.readBe slice start length)
      fun reached _ => reached ≤ count + length := by
  refine .of_bind (show count ≤ limit by omega) fun finish isFinish => ?_
  refine .of_bind (show count ≤ limit by omega) fun part isPart => ?_
  rw [okOr_eq_ok, checkedAdd_eq_some] at isFinish
  rw [okOr_eq_ok, Slice.get] at isPart
  have short : part.length ≤ length := by
    split at isPart
    next =>
      rw [← Option.some.inj isPart, Slice.part, List.length_take]
      omega
    next => contradiction
  refine Meets.loop (fun bytes spent _ => spent + bytes.length ≤ count + length) trivial ?_ ?_
  · intro byte bytes spent value bound
    rw [List.length_cons] at bound
    have fits : spent + 1 ≤ limit := by omega
    exact .of fits fun _ _ => show spent + 1 + bytes.length ≤ count + length by omega
  · omega

/-- The length of an object takes one byte for each byte of its integer. -/
theorem objectLength_meets {offset info finish : Nat} (within : count + 8 ≤ limit) (bound : finish ≤ slice.length)
    (inside : offset < finish) :
    Meets (account limit) count (objectLength slice offset info finish)
      (Heic.objectLength slice offset info finish) fun reached _ => reached ≤ count + 8 := by
  have memory := slice.length_bounded
  have fits : count ≤ limit := by omega
  rw [objectLength, Heic.objectLength]
  split
  next =>
    rw [add_eq (by omega), of_ok_bind]
    exact .pure (Nat.le_add_right count 8)
  next =>
    rw [add_eq (by omega), of_ok_bind]
    refine .of_bind fits fun _ inRange => ?_
    have markerInside := (checkedRange_eq_ok (Nat.lt_of_le_of_lt bound (Slice.length_lt slice))).mp inRange
    rw [index_bytes (by omega), of_ok_bind]
    refine .of_bind fits fun _ isMarker => ?_
    rw [rejectIf_eq_ok, not_or, not_not, Nat.not_lt] at isMarker
    have narrow : 2 ^ ((slice.byte (offset + 1)).toNat % 16) ≤ 2 ^ 3 :=
      Nat.pow_le_pow_right (by decide) isMarker.2
    rw [shiftLeft_eq (by omega) (by omega), of_ok_bind, Nat.one_mul, add_eq (by omega), of_ok_bind]
    refine Meets.bind (readBe_meets (by omega)) fun reached length _ paid => ?_
    refine .of_bind (show reached ≤ limit by omega) fun _ _ => ?_
    rw [add_eq (by omega), of_ok_bind]
    exact .pure (by omega)

/-! ## The trailer -/

theorem readOffset_meets {tableOffset size position total : Nat} (within : count + 9 ≤ limit) (narrow : size ≤ 8)
    (inTable : position < total) (placed : tableOffset + total * size ≤ slice.length) :
    Meets (account limit) (count + 1) (readOffset slice tableOffset size position)
      (Heic.readOffset slice tableOffset size position) fun reached _ => reached ≤ count + 9 := by
  have memory := slice.length_bounded
  have entry : position * size ≤ total * size := Nat.mul_le_mul_right size (Nat.le_of_lt inTable)
  rw [readOffset, mul_eq (by omega), of_ok_bind, add_eq (by omega), of_ok_bind]
  refine Meets.bind (readBe_meets (by omega)) fun reached offset _ paid => ?_
  exact .of_bind (show reached ≤ limit by omega) fun _ _ => .pure (by omega)

/-- The turns over the trailer and the offset table. -/
theorem readTable_meets (within : count + 24 + limits.maxPlistObjects.toNat * 9 ≤ limit) :
    Meets (account limit) count (readTable slice limits) (Heic.readTable slice limits)
      fun reached _ => reached ≤ count + 24 + limits.maxPlistObjects.toNat * 9 := by
  have memory := slice.length_bounded
  have fits : count ≤ limit := by omega
  refine .of_bind fits fun _ isList => ?_
  rw [rejectIf_eq_ok, not_or, Nat.not_lt] at isList
  obtain ⟨long, _⟩ := isList
  rw [sub_eq (by omega), of_ok_bind, add_eq (by omega), of_ok_bind, index_bytes (by omega), of_ok_bind,
    add_eq (by omega), of_ok_bind, index_bytes (by omega), of_ok_bind]
  refine .of_bind fits fun _ widths => ?_
  rw [rejectIf_eq_ok, not_or, not_not, not_not] at widths
  rw [add_eq (by omega), of_ok_bind]
  refine Meets.bind (readBe_meets (by omega)) fun first objectCount _ firstPaid => ?_
  rw [add_eq (by omega), of_ok_bind]
  refine Meets.bind (readBe_meets (by omega)) fun second root _ secondPaid => ?_
  rw [add_eq (by omega), of_ok_bind]
  refine Meets.bind (readBe_meets (by omega)) fun third tableOffset _ thirdPaid => ?_
  have fitsThird : third ≤ limit := by omega
  refine .of_bind fitsThird fun _ counted => .of_bind fitsThird fun _ _ => ?_
  refine .of_bind fitsThird fun tableBytes isBytes => .of_bind fitsThird fun _ placed => ?_
  rw [rejectIf_eq_ok, not_or, Nat.not_lt] at counted
  rw [okOr_eq_ok, checkedMul_eq_some] at isBytes
  rw [rejectIf_eq_ok, not_or, not_not, checkedAdd_eq_some] at placed
  obtain ⟨rfl, _⟩ := isBytes
  have few : objectCount * 9 ≤ limits.maxPlistObjects.toNat * 9 := Nat.mul_le_mul_right 9 counted.2
  refine Meets.bind (positions_meet 9 objectCount (by omega) ?_) fun reached offsets _ paid => ?_
  · intro position inTable spent fitsTurn
    exact readOffset_meets fitsTurn widths.1.2 inTable (by omega)
  · exact .pure (by omega)

/-! ## Objects -/

section

variable {table : ObjectTable} {kind info offset depth expanded waiting spent : Nat}

theorem readReference_meets (whole : TableAt slice limits table) {start position total : Nat}
    (within : count + 9 ≤ limit) (inList : position < total)
    (placed : start + total * table.referenceSize ≤ table.tableOffset) (shallow : depth + 1 < 2 ^ 64) :
    Meets (account limit) (count + 1) (readReference slice table start depth position)
      (Heic.readReference slice table start position) fun reached _ => reached ≤ count + 9 := by
  have memory := slice.length_bounded
  have bound := whole.tableOffset_le
  have narrow := whole.referenceWidth.2
  have entry : position * table.referenceSize ≤ total * table.referenceSize :=
    Nat.mul_le_mul_right _ (Nat.le_of_lt inList)
  rw [readReference, mul_eq (by omega), of_ok_bind, add_eq (by omega), of_ok_bind]
  refine Meets.bind (readBe_meets (by omega)) fun reached child _ paid => ?_
  refine .of_bind (show reached ≤ limit by omega) fun _ _ => ?_
  rw [add_eq shallow, of_ok_bind]
  exact .pure (by omega)

theorem visitData_meets (whole : TableAt slice limits table) (within : count + 8 ≤ limit)
    (inside : offset < table.tableOffset) :
    Meets (account limit) count (visitData slice limits table kind info offset spent)
      (Heic.visitData slice limits table kind info offset spent) fun reached _ => reached ≤ count + 8 := by
  refine Meets.bind (objectLength_meets within whole.tableOffset_le inside) fun reached result _ paid => ?_
  have fits : reached ≤ limit := by omega
  exact .of_bind fits fun _ _ => .of_bind fits fun _ _ => .of_bind fits fun _ _ => .of fits fun _ _ => paid

/-- A collection takes its length, and a turn and an integer for each of its children. -/
theorem visitCollection_meets (whole : TableAt slice limits table)
    (within : count + 8 + (limits.maxExpandedPlistObjects.toNat - (expanded + waiting)) * 9 ≤ limit)
    (inside : offset < table.tableOffset) (shallow : depth + 1 < 2 ^ 64) :
    Meets (account limit) count
      (visitCollection slice limits table kind info offset depth expanded waiting spent)
      (Heic.visitCollection slice limits table kind info offset expanded waiting spent)
      fun reached result => reached ≤ count + 8 + result.2.length * 9 := by
  have bound := whole.tableOffset_le
  have finish : table.tableOffset < usizeLimit := Nat.lt_of_le_of_lt bound (Slice.length_lt slice)
  refine Meets.bind (objectLength_meets (by omega) bound inside) fun reached result _ paid => ?_
  have fits : reached ≤ limit := by omega
  refine .of_bind fits fun referenceCount _ => .of_bind fits fun size isSize => ?_
  refine .of_bind fits fun _ inTable => .of_bind fits fun _ _ => .of_bind fits fun charged _ => ?_
  refine .of_bind fits fun planned isPlanned => .of_bind fits fun _ few => ?_
  rw [okOr_eq_ok, checkedMul_eq_some] at isSize
  obtain ⟨rfl, _⟩ := isSize
  have placed := (checkedRange_eq_ok finish).mp inTable
  rw [okOr_eq_ok, Option.bind_eq_some_iff] at isPlanned
  obtain ⟨visited, isVisited, isPlanned⟩ := isPlanned
  rw [checkedAdd_eq_some] at isVisited isPlanned
  rw [rejectIf_eq_ok, Nat.not_lt] at few
  refine Meets.bind (positions_meet 9 referenceCount (by omega) ?_) fun last children isChildren paidChildren => ?_
  · intro position inList counted fitsTurn
    exact readReference_meets whole fitsTurn inList placed shallow
  · have length := (mapM_ok isChildren).length_eq
    rw [List.length_range] at length
    exact .pure (show last ≤ count + 8 + children.length * 9 by omega)

theorem visitPayload_meets (whole : TableAt slice limits table)
    (within : count + 8 + (limits.maxExpandedPlistObjects.toNat - (expanded + waiting)) * 9 ≤ limit)
    (inside : offset < table.tableOffset) (shallow : depth + 1 < 2 ^ 64) (nibble : info < 16) :
    Meets (account limit) count
      (visitPayload slice limits table kind info offset depth expanded waiting spent)
      (Heic.visitPayload slice limits table kind info offset expanded waiting spent)
      fun reached result => reached ≤ count + 8 + result.2.length * 9 := by
  have memory := slice.length_bounded
  have bound := whole.tableOffset_le
  have fits : count ≤ limit := by omega
  have leaf : count ≤ count + 8 + ([] : List Nat).length * 9 := by omega
  unfold visitPayload
  split
  case h_1 => exact .of_bind fits fun _ _ => .pure leaf
  case h_2 | h_3 =>
    have small : 2 ^ info ≤ 2 ^ 15 := Nat.pow_le_pow_right (by decide) (Nat.le_of_lt_succ nibble)
    rw [shiftLeft_eq (by omega) (by omega), of_ok_bind, Nat.one_mul, add_eq (by omega), of_ok_bind]
    exact .of_bind fits fun _ _ => .pure leaf
  case h_4 =>
    refine .of_bind fits fun _ _ => ?_
    rw [add_eq (by omega), of_ok_bind]
    exact .of_bind fits fun _ _ => .pure leaf
  case h_5 | h_6 | h_7 =>
    refine Meets.bind (visitData_meets whole (by omega) inside) fun reached charged _ paid => .pure ?_
    exact Nat.le_trans paid (Nat.le_add_right _ _)
  case h_8 =>
    rw [add_eq (by omega), of_ok_bind, add_eq (by omega), of_ok_bind]
    exact .of_bind fits fun _ _ => .pure leaf
  case h_9 | h_10 | h_11 => exact visitCollection_meets whole within inside shallow
  case h_12 =>
    have plain : Heic.visitPayload slice limits table kind info offset expanded waiting spent =
        .error (.metadata "unsupported property list object") := by
      unfold Heic.visitPayload
      split
      case h_12 => rfl
      all_goals contradiction
    rw [plain]
    refine Meets.of (show count ≤ (account limit).limit from fits) ?_
    intro result fails
    contradiction

theorem visitObject_meets (whole : TableAt slice limits table) {reference : Nat}
    (within : count + 8 + (limits.maxExpandedPlistObjects.toNat - (expanded + waiting)) * 9 ≤ limit)
    (known : reference < table.objectCount) (shallow : depth + 1 < 2 ^ 64) :
    Meets (account limit) count (visitObject slice limits table reference depth expanded waiting spent)
      (Heic.visitObject slice limits table reference depth expanded waiting spent)
      fun reached result => reached ≤ count + 8 + result.2.length * 9 := by
  have bound := whole.tableOffset_le
  have fits : count ≤ limit := by omega
  have length : table.offsets.length = table.objectCount := by
    rw [whole.isOffsets, List.length_map, List.length_range]
  have found : table.offsets[reference]? = some (table.offsets.getD reference 0) := by
    rw [List.getD_eq_getElem?_getD, List.getElem?_eq_getElem (length ▸ known), Option.getD_some]
  have placed := whole.inside _ (List.mem_of_getElem? found)
  refine .of_bind fits fun charged _ => .of_bind fits fun _ _ => ?_
  rw [index_eq found, of_ok_bind, index_bytes (by omega), of_ok_bind]
  exact visitPayload_meets whole within placed.2 shallow (Nat.mod_lt _ (by decide))

/-! ## The walk -/

/-- The objects that are waiting: they exist, and their depth is at most the number of visited ones and one. -/
def Waiting (table : ObjectTable) (expanded : Nat) (stack : List (Nat × Nat)) : Prop :=
  ∀ item ∈ stack, item.1 < table.objectCount ∧ item.2 ≤ expanded + 1

/-- The turns that the walk may still take: nine for an object, and nine for a reference to one. -/
def turnsLeft (limits : Limits) (expanded waiting : Nat) : Nat :=
  (limits.maxExpandedPlistObjects.toNat + 1 - expanded) * 9 +
    (limits.maxExpandedPlistObjects.toNat - (expanded + waiting)) * 9

theorem payload_children {children : List Nat} {payload : Nat}
    (payloadAt : PayloadAt slice table kind info offset children payload) :
    ∀ child ∈ children, child < table.objectCount := by
  unfold PayloadAt at payloadAt
  split at payloadAt
  case h_1 | h_2 | h_3 | h_4 | h_8 =>
    rw [payloadAt.2.1]
    simp
  case h_5 | h_6 | h_7 =>
    obtain ⟨_, _, _, _, isNil, _⟩ := payloadAt
    rw [isNil]
    simp
  case h_9 | h_10 | h_11 =>
    obtain ⟨_, _, _, references, _⟩ := payloadAt
    exact references.exist
  case h_12 => contradiction

theorem expandObjects_cons (reference : Nat) (stack : List (Nat × Nat)) :
    Heic.expandObjects slice limits table expanded spent ((reference, depth) :: stack) = (do
      rejectIf (limits.maxExpandedPlistObjects.toNat < expanded + 1)
        (.limit "expanded property list object count")
      let (charged, children) ←
        Heic.visitObject slice limits table reference depth (expanded + 1) stack.length spent
      Heic.expandObjects slice limits table (expanded + 1) charged
        (children.foldl (fun stack child => (child, depth + 1) :: stack) stack)) := by
  rw [Heic.expandObjects, rejectIf]
  split
  next => rfl
  next =>
    cases Heic.visitObject slice limits table reference depth (expanded + 1) stack.length spent with
    | error error => rfl
    | ok result => rfl

/-- The last object that is popped is refused when it is one too many. -/
theorem expandObjects_meets (whole : TableAt slice limits table) {turns : Nat} {stack : List (Nat × Nat)}
    (isTurns : turns + expanded = limits.maxExpandedPlistObjects.toNat + 1)
    (planned : expanded + stack.length ≤ max 1 limits.maxExpandedPlistObjects.toNat)
    (paid : expanded * 64 ≤ spent) (bounded : spent ≤ limits.maxExpandedPlistBytes.toNat)
    (waits : Waiting table expanded stack)
    (within : count + turnsLeft limits expanded stack.length ≤ limit) :
    Meets (account limit) count (expandObjects slice limits table turns expanded spent stack)
      (Heic.expandObjects slice limits table expanded spent stack) fun reached _ => reached ≤ limit := by
  have machine := limits.maxExpandedPlistBytes.toNat_lt
  induction turns generalizing count expanded spent stack with
  | zero =>
    cases stack with
    | nil =>
      rw [Heic.expandObjects]
      exact .pure (by omega)
    | cons item stack =>
      rw [List.length_cons] at planned
      omega
  | succ turns inductionHypothesis =>
    cases stack with
    | nil =>
      rw [Heic.expandObjects]
      exact .pure (by omega)
    | cons item stack =>
      obtain ⟨reference, depth⟩ := item
      obtain ⟨⟨known, shallow⟩, rest⟩ := List.forall_mem_cons.mp waits
      simp only at known shallow
      rw [List.length_cons] at planned within
      rw [turnsLeft] at within
      rw [expandObjects, expandObjects_cons]
      refine .log trivial ?_
      rw [add_eq (by omega), of_ok_bind]
      refine .of_bind (show count + 1 ≤ limit by omega) fun _ few => ?_
      rw [rejectIf_eq_ok, Nat.not_lt] at few
      refine (visitObject_meets whole (by change count + 1 + 8 + _ ≤ limit; omega) known (by omega)).bind ?_
      rintro reached ⟨charged, children⟩ isVisit paidTurns
      obtain ⟨_, cost, ⟨payload, payloadAt, isCost⟩, isCharged, chargedPaid, ahead⟩ :=
        (visitObject_eq_ok whole (by omega)).mp isVisit
      -- The order in which the children are pushed does not matter for what waits.
      have permuted := push_eq children (depth + 1) stack
      have length := permuted.length_eq
      rw [List.length_append, List.length_map] at length
      simp only at paidTurns
      change reached ≤ count + 1 + 8 + _ at paidTurns
      refine inductionHypothesis (by omega) (by omega) (by omega) chargedPaid ?_ ?_
      · have children_exist := payload_children payloadAt
        intro item member
        cases List.mem_append.mp (permuted.mem_iff.mp member) with
        | inl pushed =>
          obtain ⟨child, inChildren, rfl⟩ := List.mem_map.mp pushed
          exact ⟨children_exist child inChildren, Nat.succ_le_succ shallow⟩
        | inr waiting =>
          obtain ⟨exist, deep⟩ := rest item waiting
          exact ⟨exist, Nat.le_succ_of_le deep⟩
      · rw [length, turnsLeft]
        omega

end

/-- Three integers of the trailer, the table, and the objects with the references to them. -/
def propertyListTurns (limits : Limits) : Nat :=
  24 + limits.maxPlistObjects.toNat * 9 + (limits.maxExpandedPlistObjects.toNat + 1) * 9 +
    limits.maxExpandedPlistObjects.toNat * 9

theorem preflightBinaryPlist_meets (slice : Slice) (limits : Limits) :
    Meets (account (propertyListTurns limits)) 0 (preflightBinaryPlist slice limits)
      (Heic.preflightBinaryPlist slice limits) fun reached _ => reached ≤ propertyListTurns limits := by
  have within : 0 + 24 + limits.maxPlistObjects.toNat * 9 ≤ propertyListTurns limits := by
    rw [propertyListTurns]
    omega
  refine (readTable_meets within).bind fun reached table isTable paid => ?_
  have whole := readTable_eq_ok.mp isTable
  refine expandObjects_meets whole rfl (Nat.le_max_left 1 _) (Nat.le_refl _) (Nat.zero_le _) ?_ ?_
  · intro item member
    rw [List.mem_singleton] at member
    rw [member]
    exact ⟨whole.rooted, Nat.le_refl 1⟩
  · rw [List.length_singleton, turnsLeft, propertyListTurns]
    omega

/-- The log of a preflight has as many entries as its loops have turns. -/
theorem turns_le {Value : Type} {audited : Task Value} {plain : Except Error Value}
    (meets : Meets (account limit) 0 audited plain fun reached _ => reached ≤ limit) :
    ∃ events, audited = some (events, plain) ∧ events.length ≤ limit := by
  obtain ⟨events, same, _, accounted⟩ := meets
  have total : (account limit).total events = events.length := by
    rw [Account.total, account, List.map_const', List.sum_replicate_nat, Nat.mul_one]
  rw [total, Nat.zero_add] at accounted
  refine ⟨events, same, ?_⟩
  split at accounted
  next => exact accounted
  next => exact accounted

end Genkan.DynamicWallpaper.Heic.Audited
