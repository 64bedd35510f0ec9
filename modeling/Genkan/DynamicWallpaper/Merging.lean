import Genkan.DynamicWallpaper.Schedule
import Genkan.DynamicWallpaper.Parsing
import Genkan.Foundations.Results

/-! # Properties are merged in any order

A property that occurs more than once counts only when all its occurrences are equal.  What the
reader ends up with is a verdict on the set of the occurrences, so their order does not matter.
-/

namespace Genkan.DynamicWallpaper

/-! ## Insertion -/

inductive PropertyValue where
  | time (schedule : Schedule TimePoint)
  | solar (schedule : Schedule SolarPoint)
  | appearance (pair : Appearance)
  deriving DecidableEq

def PropertyValue.property : PropertyValue → AppleProperty
  | time _ => .time
  | solar _ => .solar
  | appearance _ => .appearance

/-- The state after the insertion, and its result. -/
def insertProperty {α : Type} [DecidableEq α] (state : PropertyState α) (property : AppleProperty)
    (value : α) : PropertyState α × Except ModelError Unit :=
  match state with
  | .missing => (.valid value, .ok ())
  | .valid existing =>
    if existing = value then (.valid existing, .ok ())
    else (.conflicted, .error (.duplicateProperty property))
  | .conflicted => (.conflicted, .error (.duplicateProperty property))

def Metadata.insert (metadata : Metadata) (property : AppleProperty) (value : PropertyValue) :
    Metadata × Except ModelError Unit :=
  if value.property ≠ property then (metadata, .error .propertyTypeMismatch)
  else match value with
    | .time schedule =>
      let (time, result) := insertProperty metadata.time property schedule
      ({ metadata with time }, result)
    | .solar schedule =>
      let (solar, result) := insertProperty metadata.solar property schedule
      ({ metadata with solar }, result)
    | .appearance pair =>
      let (appearance, result) := insertProperty metadata.appearance property pair
      ({ metadata with appearance }, result)

namespace Heic

/-- A duplicate is no error of the reader. -/
def insertMetadataProperty (metadata : Metadata) (name : AppleProperty) (property : PropertyValue) :
    Metadata × Except Error Unit :=
  match metadata.insert name property with
  | (metadata, .ok ()) => (metadata, .ok ())
  | (metadata, .error (.duplicateProperty _)) => (metadata, .ok ())
  | (metadata, .error error) => (metadata, .error (.metadata error.toString))

/-- The loop of the reader: the first error ends it. -/
def insertAll : Metadata → List (AppleProperty × PropertyValue) → Except Error Metadata
  | metadata, [] => .ok metadata
  | metadata, (name, property) :: rest =>
    match insertMetadataProperty metadata name property with
    | (metadata, .ok ()) => insertAll metadata rest
    | (_, .error error) => .error error

end Heic

/-! ## The verdict on one property -/

/-- The state that the occurrences of a property leave behind. -/
structure Records {α : Type} (occurrences : List α) (state : PropertyState α) : Prop where
  missing : state = .missing ↔ occurrences = []
  valid : ∀ value, state = .valid value ↔
    occurrences ≠ [] ∧ ∀ occurrence ∈ occurrences, occurrence = value
  conflicted : state = .conflicted ↔
    ∃ first ∈ occurrences, ∃ second ∈ occurrences, first ≠ second

namespace Records

variable {α : Type} {occurrences others : List α} {state other : PropertyState α}

theorem none : Records ([] : List α) .missing where
  missing := by simp
  valid := by simp
  conflicted := by simp

theorem single (value : α) : Records [value] (.valid value) where
  missing := by simp
  valid := by simp
  conflicted := by simp

/-- One more occurrence of the value that all of them have. -/
theorem repeated {value : α} (records : Records occurrences (.valid value)) :
    Records (occurrences ++ [value]) (.valid value) := by
  obtain ⟨_, same⟩ := (records.valid value).mp rfl
  have all : ∀ occurrence ∈ occurrences ++ [value], occurrence = value := by
    intro occurrence member
    cases List.mem_append.mp member with
    | inl before => exact same occurrence before
    | inr last => exact List.mem_singleton.mp last
  constructor
  case missing => simp
  case valid =>
    intro found
    constructor
    · intro isValid
      exact ⟨by simp, PropertyState.valid.inj isValid ▸ all⟩
    · intro allFound
      have isFound : value = found := allFound.2 value (by simp)
      rw [isFound]
  case conflicted =>
    constructor
    · intro impossible
      contradiction
    · intro differing
      obtain ⟨first, firstMember, second, secondMember, differ⟩ := differing
      exact absurd ((all first firstMember).trans (all second secondMember).symm) differ

/-- Two different occurrences are a conflict, whatever else occurs. -/
theorem conflict {first second : α} (firstMember : first ∈ occurrences)
    (secondMember : second ∈ occurrences) (differ : first ≠ second) :
    Records occurrences .conflicted := by
  constructor
  case missing =>
    constructor
    · intro impossible
      contradiction
    · intro isNil
      rw [isNil] at firstMember
      contradiction
  case valid =>
    intro value
    constructor
    · intro impossible
      contradiction
    · intro same
      exact absurd ((same.2 first firstMember).trans (same.2 second secondMember).symm) differ
  case conflicted =>
    constructor
    · intro _
      exact ⟨first, firstMember, second, secondMember, differ⟩
    · intro _
      rfl

theorem insert [DecidableEq α] (records : Records occurrences state) (property : AppleProperty)
    (value : α) : Records (occurrences ++ [value]) (insertProperty state property value).1 := by
  have last : value ∈ occurrences ++ [value] := by simp
  cases state with
  | missing =>
    have isNil := records.missing.mp rfl
    rw [isNil]
    exact single value
  | valid existing =>
    rw [insertProperty]
    split
    next same => exact same ▸ records.repeated
    next differ =>
      obtain ⟨nonempty, same⟩ := (records.valid existing).mp rfl
      obtain ⟨occurrence, member⟩ := List.exists_mem_of_ne_nil _ nonempty
      have isExisting := same occurrence member
      exact conflict (List.mem_append_left _ (isExisting ▸ member)) last differ
  | conflicted =>
    obtain ⟨first, firstMember, second, secondMember, differ⟩ := records.conflicted.mp rfl
    exact conflict (List.mem_append_left _ firstMember) (List.mem_append_left _ secondMember) differ

/-- The state depends only on which values occur. -/
theorem unique (records : Records occurrences state) (otherRecords : Records others other)
    (same : ∀ value, value ∈ occurrences ↔ value ∈ others) : state = other := by
  cases state with
  | missing =>
    have isNil : others = [] := by
      apply List.eq_nil_iff_forall_not_mem.mpr
      intro value member
      have before := (same value).mpr member
      rw [records.missing.mp rfl] at before
      contradiction
    exact (otherRecords.missing.mpr isNil).symm
  | valid value =>
    obtain ⟨nonempty, all⟩ := (records.valid value).mp rfl
    obtain ⟨occurrence, member⟩ := List.exists_mem_of_ne_nil _ nonempty
    have otherNonempty : others ≠ [] := List.ne_nil_of_mem ((same occurrence).mp member)
    exact ((otherRecords.valid value).mpr
      ⟨otherNonempty, fun found isFound => all found ((same found).mpr isFound)⟩).symm
  | conflicted =>
    obtain ⟨first, firstMember, second, secondMember, differ⟩ := records.conflicted.mp rfl
    exact (otherRecords.conflicted.mpr
      ⟨first, (same first).mp firstMember, second, (same second).mp secondMember, differ⟩).symm

/-- A conflict stays one, whatever is inserted later. -/
theorem conflicted_append (records : Records occurrences .conflicted)
    (later : Records (occurrences ++ others) other) : other = .conflicted := by
  obtain ⟨first, firstMember, second, secondMember, differ⟩ := records.conflicted.mp rfl
  exact later.conflicted.mpr
    ⟨first, List.mem_append_left _ firstMember, second, List.mem_append_left _ secondMember, differ⟩

end Records

/-! ## The three properties -/

def PropertyValue.time? : PropertyValue → Option (Schedule TimePoint)
  | time schedule => some schedule
  | solar _ | appearance _ => none

def PropertyValue.solar? : PropertyValue → Option (Schedule SolarPoint)
  | solar schedule => some schedule
  | time _ | appearance _ => none

def PropertyValue.appearance? : PropertyValue → Option Appearance
  | appearance pair => some pair
  | time _ | solar _ => none

/-- Each property records its own occurrences and nothing else. -/
structure Metadata.Merges (values : List PropertyValue) (metadata : Metadata) : Prop where
  time : Records (values.filterMap PropertyValue.time?) metadata.time
  solar : Records (values.filterMap PropertyValue.solar?) metadata.solar
  appearance : Records (values.filterMap PropertyValue.appearance?) metadata.appearance

namespace Metadata

theorem insert_time (metadata : Metadata) (schedule : Schedule TimePoint) :
    metadata.insert .time (.time schedule) =
      ({ metadata with time := (insertProperty metadata.time .time schedule).1 },
        (insertProperty metadata.time .time schedule).2) := rfl

theorem insert_solar (metadata : Metadata) (schedule : Schedule SolarPoint) :
    metadata.insert .solar (.solar schedule) =
      ({ metadata with solar := (insertProperty metadata.solar .solar schedule).1 },
        (insertProperty metadata.solar .solar schedule).2) := rfl

theorem insert_appearance (metadata : Metadata) (pair : Appearance) :
    metadata.insert .appearance (.appearance pair) =
      ({ metadata with appearance := (insertProperty metadata.appearance .appearance pair).1 },
        (insertProperty metadata.appearance .appearance pair).2) := rfl

theorem merges_nil : Merges [] {} where
  time := .none
  solar := .none
  appearance := .none

/-- A value of another property is no occurrence. -/
theorem occurrences_other {α : Type} {part : PropertyValue → Option α} {value : PropertyValue}
    (other : part value = none) (values : List PropertyValue) :
    (values ++ [value]).filterMap part = values.filterMap part := by
  rw [List.filterMap_append, List.filterMap_cons_none other, List.filterMap_nil, List.append_nil]

theorem occurrences_own {α : Type} {part : PropertyValue → Option α} {value : PropertyValue}
    {occurrence : α} (own : part value = some occurrence) (values : List PropertyValue) :
    (values ++ [value]).filterMap part = values.filterMap part ++ [occurrence] := by
  rw [List.filterMap_append, List.filterMap_cons_some own, List.filterMap_nil]

theorem Merges.insert {values : List PropertyValue} {metadata : Metadata}
    (merges : Merges values metadata) (value : PropertyValue) :
    Merges (values ++ [value]) (metadata.insert value.property value).1 := by
  cases value with
  | time schedule =>
    rw [PropertyValue.property, insert_time]
    constructor
    · have own : PropertyValue.time? (.time schedule) = some schedule := rfl
      rw [occurrences_own own]
      exact merges.time.insert .time schedule
    · rw [occurrences_other rfl]
      exact merges.solar
    · rw [occurrences_other rfl]
      exact merges.appearance
  | solar schedule =>
    rw [PropertyValue.property, insert_solar]
    constructor
    · rw [occurrences_other rfl]
      exact merges.time
    · have own : PropertyValue.solar? (.solar schedule) = some schedule := rfl
      rw [occurrences_own own]
      exact merges.solar.insert .solar schedule
    · rw [occurrences_other rfl]
      exact merges.appearance
  | appearance pair =>
    rw [PropertyValue.property, insert_appearance]
    constructor
    · rw [occurrences_other rfl]
      exact merges.time
    · rw [occurrences_other rfl]
      exact merges.solar
    · have own : PropertyValue.appearance? (.appearance pair) = some pair := rfl
      rw [occurrences_own own]
      exact merges.appearance.insert .appearance pair

theorem Merges.unique {values others : List PropertyValue} {metadata other : Metadata}
    (merges : Merges values metadata) (otherMerges : Merges others other)
    (same : ∀ value, value ∈ values ↔ value ∈ others) : metadata = other := by
  have carried {α : Type} (part : PropertyValue → Option α) (found : α) :
      found ∈ values.filterMap part ↔ found ∈ others.filterMap part := by
    simp [List.mem_filterMap, same]
  have sameTime := merges.time.unique otherMerges.time (carried _)
  have sameSolar := merges.solar.unique otherMerges.solar (carried _)
  have sameAppearance := merges.appearance.unique otherMerges.appearance (carried _)
  cases metadata
  cases other
  simp only at sameTime sameSolar sameAppearance
  rw [sameTime, sameSolar, sameAppearance]

/-- A conflict in any of the properties stays one. -/
theorem Merges.conflicted_append {values more : List PropertyValue} {metadata later : Metadata}
    (merges : Merges values metadata) (laterMerges : Merges (values ++ more) later) :
    (metadata.time = .conflicted → later.time = .conflicted) ∧
      (metadata.solar = .conflicted → later.solar = .conflicted) ∧
      (metadata.appearance = .conflicted → later.appearance = .conflicted) := by
  obtain ⟨time, solar, appearance⟩ := laterMerges
  rw [List.filterMap_append] at time solar appearance
  refine ⟨?_, ?_, ?_⟩
  · intro conflict
    exact (conflict ▸ merges.time).conflicted_append time
  · intro conflict
    exact (conflict ▸ merges.solar).conflicted_append solar
  · intro conflict
    exact (conflict ▸ merges.appearance).conflicted_append appearance

end Metadata

/-! ## The reader -/

namespace Heic

/-- Every value is inserted under the name of its own property. -/
def WellTyped (entries : List (AppleProperty × PropertyValue)) : Prop :=
  ∀ entry ∈ entries, entry.2.property = entry.1

theorem insertProperty_error {α : Type} [DecidableEq α] {state : PropertyState α}
    {property : AppleProperty} {value : α} {error : ModelError}
    (fails : (insertProperty state property value).2 = .error error) :
    error = .duplicateProperty property := by
  cases state with
  | missing => cases fails
  | valid existing =>
    rw [insertProperty] at fails
    split at fails
    next => cases fails
    next =>
      cases fails
      rfl
  | conflicted =>
    cases fails
    rfl

/-- A value under its own name can only be refused as a duplicate, which the reader ignores. -/
theorem insertMetadataProperty_typed (metadata : Metadata) (value : PropertyValue) :
    insertMetadataProperty metadata value.property value =
      ((metadata.insert value.property value).1, .ok ()) := by
  have isDuplicate (error : ModelError) (fails : (metadata.insert value.property value).2 = .error error) :
      error = .duplicateProperty value.property := by
    cases value with
    | time schedule => exact insertProperty_error fails
    | solar schedule => exact insertProperty_error fails
    | appearance pair => exact insertProperty_error fails
  rw [insertMetadataProperty]
  split
  next isResult => rw [isResult]
  next isResult => rw [isResult]
  next error notDuplicate isResult =>
    have fails := congrArg Prod.snd isResult
    exact absurd (isDuplicate error fails) (notDuplicate _)

theorem insertAll_merges {entries : List (AppleProperty × PropertyValue)} (typed : WellTyped entries)
    {seen : List PropertyValue} {metadata : Metadata} (merges : metadata.Merges seen) :
    ∃ final, insertAll metadata entries = .ok final ∧ final.Merges (seen ++ entries.map Prod.snd) := by
  induction entries generalizing seen metadata with
  | nil => exact ⟨metadata, rfl, by rwa [List.map_nil, List.append_nil]⟩
  | cons entry entries inductionHypothesis =>
    obtain ⟨name, value⟩ := entry
    obtain rfl : value.property = name := typed (name, value) List.mem_cons_self
    have rest : WellTyped entries := fun other member => typed other (List.mem_cons_of_mem _ member)
    obtain ⟨final, isFinal, finalMerges⟩ := inductionHypothesis rest (merges.insert value)
    rw [List.append_assoc] at finalMerges
    refine ⟨final, ?_, finalMerges⟩
    rw [insertAll, insertMetadataProperty_typed]
    exact isFinal

theorem insertAll_empty {entries : List (AppleProperty × PropertyValue)} (typed : WellTyped entries) :
    ∃ final, insertAll {} entries = .ok final ∧ final.Merges (entries.map Prod.snd) :=
  insertAll_merges typed Metadata.merges_nil

/-- However the values are ordered, the reader ends up with the same metadata, and so with the same
selections: a property is valid exactly when it occurs and all its occurrences are equal, it is in
conflict once two of them differ and stays so, and it depends on no other property. -/
theorem merging_order_independent {entries : List (AppleProperty × PropertyValue)}
    (typed : WellTyped entries) :
    ∃ metadata, insertAll {} entries = .ok metadata ∧ metadata.Merges (entries.map Prod.snd) ∧
      (∀ permuted, entries.Perm permuted → ∃ other, insertAll {} permuted = .ok other ∧
        other = metadata ∧ ∀ appearance solarEnabled locationAvailable,
          other.select appearance solarEnabled locationAvailable =
            metadata.select appearance solarEnabled locationAvailable) ∧
      (∀ more, WellTyped more → ∃ later, insertAll {} (entries ++ more) = .ok later ∧
        (metadata.time = .conflicted → later.time = .conflicted) ∧
        (metadata.solar = .conflicted → later.solar = .conflicted) ∧
        (metadata.appearance = .conflicted → later.appearance = .conflicted)) ∧
      ∀ others, WellTyped others → ∃ other, insertAll {} others = .ok other ∧
        ((others.map Prod.snd).filterMap PropertyValue.time? =
          (entries.map Prod.snd).filterMap PropertyValue.time? → other.time = metadata.time) ∧
        ((others.map Prod.snd).filterMap PropertyValue.solar? =
          (entries.map Prod.snd).filterMap PropertyValue.solar? → other.solar = metadata.solar) ∧
        ((others.map Prod.snd).filterMap PropertyValue.appearance? =
          (entries.map Prod.snd).filterMap PropertyValue.appearance? →
          other.appearance = metadata.appearance) := by
  obtain ⟨metadata, isMetadata, merges⟩ := insertAll_empty typed
  refine ⟨metadata, isMetadata, merges, ?_, ?_, ?_⟩
  · intro permuted permutes
    have permutedTyped : WellTyped permuted :=
      fun entry member => typed entry (permutes.mem_iff.mpr member)
    obtain ⟨other, isOther, otherMerges⟩ := insertAll_empty permutedTyped
    -- What merging means is said of the values as a set, and it fixes the metadata.
    have same := otherMerges.unique merges fun value => ((permutes.map Prod.snd).mem_iff).symm
    refine ⟨other, isOther, same, ?_⟩
    intro appearance solarEnabled locationAvailable
    rw [same]
  · intro more moreTyped
    have wholeTyped : WellTyped (entries ++ more) := by
      intro entry member
      cases List.mem_append.mp member with
      | inl before => exact typed entry before
      | inr after => exact moreTyped entry after
    obtain ⟨later, isLater, laterMerges⟩ := insertAll_empty wholeTyped
    rw [List.map_append] at laterMerges
    exact ⟨later, isLater, merges.conflicted_append laterMerges⟩
  · intro others othersTyped
    obtain ⟨other, isOther, otherMerges⟩ := insertAll_empty othersTyped
    refine ⟨other, isOther, ?_, ?_, ?_⟩
    · intro same
      exact otherMerges.time.unique merges.time fun value => by rw [same]
    · intro same
      exact otherMerges.solar.unique merges.solar fun value => by rw [same]
    · intro same
      exact otherMerges.appearance.unique merges.appearance fun value => by rw [same]

/-- A time schedule, another one, and an appearance between them. -/
def sampleEntries : List (AppleProperty × PropertyValue) :=
  let point (image : Nat) : TimePoint :=
    { image := ⟨image⟩, time := { value := 1 / 4, valid := by norm_num } }
  [(.time, .time { points := [point 0], appearance := none, nonempty := by simp }),
    (.appearance, .appearance { light := ⟨0⟩, dark := ⟨1⟩ }),
    (.time, .time { points := [point 1], appearance := none, nonempty := by simp })]

theorem sampleEntries_typed : WellTyped sampleEntries := by
  intro entry member
  simp only [sampleEntries, List.mem_cons, List.not_mem_nil, or_false] at member
  obtain rfl | rfl | rfl := member <;> rfl

theorem merging_order_independent_sample :
    ∃ metadata, insertAll {} sampleEntries = .ok metadata ∧
      ∀ permuted, sampleEntries.Perm permuted → insertAll {} permuted = .ok metadata := by
  obtain ⟨metadata, isMetadata, _, permutes, _, _⟩ := merging_order_independent sampleEntries_typed
  refine ⟨metadata, isMetadata, ?_⟩
  intro permuted perm
  obtain ⟨other, isOther, same, _⟩ := permutes permuted perm
  rw [isOther, same]

/-- The two time schedules are in conflict, and the appearance stands. -/
example : (insertAll {} sampleEntries).toOption.map (fun metadata =>
    (metadata.time.value.isSome, metadata.appearance.value)) =
      some (false, some { light := ⟨0⟩, dark := ⟨1⟩ }) := by decide +kernel

end Heic

end Genkan.DynamicWallpaper
