import Genkan.Foundations.Lists
import Mathlib.Data.List.Sort
import Mathlib.Data.List.TakeWhile

/-! # The last of the greatest

The choice of an element of a list: the greatest key among the elements that qualify, and the last of
the list among those.  Reading a stably sorted list backwards makes this choice, and only the order
among elements of one key matters to it.
-/

namespace Foundations

universe u v

variable {α : Type u} {κ : Type v} [LinearOrder κ]

structure Latest (qualifies : α → Bool) (key : α → κ) (choices : List α) (choice : α) : Prop where
  greatest : ∀ other ∈ choices, qualifies other = true → key other ≤ key choice
  last : (choices.filter fun other => qualifies other && decide (key other = key choice)).getLast? =
    some choice

/-- The elements of each key stand in the same order. -/
def SameClasses (key : α → κ) (left right : List α) : Prop :=
  ∀ value, (left.filter fun element => decide (key element = value)) =
    right.filter fun element => decide (key element = value)

/-- A list without equal keys has classes of one element, which any order keeps. -/
theorem SameClasses.of_perm {key : α → κ} {left right : List α} (perm : left.Perm right)
    (distinct : (left.map key).Nodup) : SameClasses key left right := by
  intro value
  have short : (left.filter fun element => decide (key element = value)).length ≤ 1 := by
    rw [List.Nodup, List.pairwise_map] at distinct
    have differ := distinct.filter fun element => decide (key element = value)
    match isClass : left.filter fun element => decide (key element = value) with
    | [] | [_] => simp
    | first :: second :: rest =>
      have firstKey : first ∈ left.filter fun element => decide (key element = value) := by simp [isClass]
      have secondKey : second ∈ left.filter fun element => decide (key element = value) := by simp [isClass]
      rw [isClass, List.pairwise_cons] at differ
      simp only [List.mem_filter, decide_eq_true_eq] at firstKey secondKey
      exact absurd (firstKey.2.trans secondKey.2.symm) (differ.1 second List.mem_cons_self)
  have permuted := perm.filter fun element => decide (key element = value)
  match isClass : left.filter fun element => decide (key element = value), short with
  | [], _ =>
    rw [isClass] at permuted
    exact permuted.nil_eq
  | [single], _ =>
    rw [isClass] at permuted
    exact List.singleton_perm.mp permuted

variable {qualifies : α → Bool} {key : α → κ} {choices : List α} {choice other : α}

namespace Latest

theorem mem_qualifies (latest : Latest qualifies key choices choice) :
    choice ∈ choices ∧ qualifies choice = true := by
  have member := List.mem_of_getLast? latest.last
  simp only [List.mem_filter, Bool.and_eq_true] at member
  exact ⟨member.1, member.2.1⟩

theorem unique (left : Latest qualifies key choices choice)
    (right : Latest qualifies key choices other) : choice = other := by
  have sameKey : key choice = key other := le_antisymm
    (right.greatest _ left.mem_qualifies.1 left.mem_qualifies.2)
    (left.greatest _ right.mem_qualifies.1 right.mem_qualifies.2)
  have isLast := left.last
  rw [sameKey, right.last] at isLast
  exact (Option.some.inj isLast).symm

theorem of_sameClasses {left right : List α} (same : SameClasses key left right)
    (latest : Latest qualifies key left choice) : Latest qualifies key right choice := by
  constructor
  · intro other member isQualified
    have inClass : other ∈ right.filter fun element => decide (key element = key other) := by
      simp [member]
    rw [← same (key other)] at inClass
    exact latest.greatest other (List.mem_of_mem_filter inClass) isQualified
  · have isLast := latest.last
    rw [← List.filter_filter, same (key choice), List.filter_filter] at isLast
    exact isLast

/-- The new element is not chosen: it does not qualify, or its key is not greater. -/
theorem cons_other (latest : Latest qualifies key choices choice)
    (notGreater : qualifies other = true → key other ≤ key choice) :
    Latest qualifies key (other :: choices) choice := by
  constructor
  · intro element member isQualified
    cases List.mem_cons.mp member with
    | inl isOther => exact isOther ▸ notGreater (isOther ▸ isQualified)
    | inr old => exact latest.greatest element old isQualified
  · have isLast := latest.last
    rw [List.filter_cons]
    split
    next => rw [List.getLast?_cons, isLast, Option.getD_some]
    next => exact isLast

/-- The new element is chosen: every other one that qualifies has a smaller key. -/
theorem cons_self (isQualified : qualifies choice = true)
    (greater : ∀ element ∈ choices, qualifies element = true → key element < key choice) :
    Latest qualifies key (choice :: choices) choice := by
  have none : (choices.filter fun element =>
      qualifies element && decide (key element = key choice)) = [] := by
    rw [List.filter_eq_nil_iff]
    intro element member
    simp only [Bool.and_eq_true, decide_eq_true_eq, not_and]
    intro elementQualifies
    exact ne_of_lt (greater element member elementQualifies)
  constructor
  · intro element member elementQualifies
    cases List.mem_cons.mp member with
    | inl isChoice => exact le_of_eq (congrArg key isChoice)
    | inr old => exact le_of_lt (greater element old elementQualifies)
  · rw [List.filter_cons, if_pos (by simp [isQualified]), none]
    rfl

end Latest

/-! ## The sorted list read backwards -/

def sortedBy (key : α → κ) (choices : List α) : List α :=
  choices.insertionSort fun left right => key left ≤ key right

theorem mem_sortedBy : choice ∈ sortedBy key choices ↔ choice ∈ choices :=
  (List.perm_insertionSort _ choices).mem_iff

theorem sortedBy_pairwise (key : α → κ) (choices : List α) :
    (sortedBy key choices).Pairwise fun left right => key left ≤ key right := by
  have total : Std.Total fun left right : α => key left ≤ key right :=
    ⟨fun left right => le_total (key left) (key right)⟩
  have transitive : IsTrans α fun left right => key left ≤ key right :=
    ⟨fun _ _ _ first second => le_trans first second⟩
  exact List.pairwise_insertionSort _ choices

/-- A new element goes behind the smaller ones and before all others. -/
theorem sortedBy_cons (key : α → κ) (element : α) (choices : List α) :
    ∃ smaller others, sortedBy key choices = smaller ++ others ∧
      sortedBy key (element :: choices) = smaller ++ element :: others ∧
      (∀ other ∈ smaller, key other < key element) ∧ ∀ other ∈ others, key element ≤ key other := by
  let isSmaller : α → Bool := fun other => decide ¬ key element ≤ key other
  have splits : (sortedBy key choices).takeWhile isSmaller ++ (sortedBy key choices).dropWhile isSmaller =
      sortedBy key choices := List.takeWhile_append_dropWhile
  refine ⟨_, _, splits.symm, List.insertionSort_cons_eq_take_drop _ element choices, ?_, ?_⟩
  · intro other member
    have smaller := List.mem_takeWhile_imp member
    simpa [isSmaller] using smaller
  · have sorted := sortedBy_pairwise key choices
    rw [← splits] at sorted
    have othersSorted := (List.pairwise_append.mp sorted).2.1
    cases isOthers : (sortedBy key choices).dropWhile isSmaller with
    | nil => simp
    | cons first rest =>
      have stops : isSmaller first = false := by
        have head := List.head?_dropWhile_not isSmaller (sortedBy key choices)
        simpa [isOthers] using head
      have notSmaller : key element ≤ key first := by simpa [isSmaller] using stops
      rw [isOthers, List.pairwise_cons] at othersSorted
      intro other member
      cases List.mem_cons.mp member with
      | inl isFirst => exact isFirst ▸ notSmaller
      | inr later => exact le_trans notSmaller (othersSorted.1 other later)

/-- The last qualifying element of the stably sorted list is the last of the greatest. -/
theorem latest_of_sorted (found : (sortedBy key choices).reverse.find? qualifies = some choice) :
    Latest qualifies key choices choice := by
  induction choices generalizing choice with
  | nil => simp [sortedBy] at found
  | cons element choices inductionHypothesis =>
    obtain ⟨smaller, others, isSorted, isInserted, below, above⟩ := sortedBy_cons key element choices
    rw [isSorted, List.reverse_append, List.find?_append] at inductionHypothesis
    rw [isInserted, List.reverse_append, List.reverse_cons, List.append_assoc, List.find?_append] at found
    cases fromOthers : others.reverse.find? qualifies with
    | some chosen =>
      rw [fromOthers, Option.some_or] at found inductionHypothesis
      have isChosen := Option.some.inj found
      have member := List.mem_reverse.mp (List.mem_of_find?_eq_some fromOthers)
      exact (inductionHypothesis found).cons_other fun _ => isChosen ▸ above chosen member
    | none =>
      rw [fromOthers, Option.none_or] at found inductionHypothesis
      have noOther : ∀ other ∈ others, qualifies other = false := by simpa using fromOthers
      by_cases isQualified : qualifies element = true
      · -- No element behind the new one qualifies.
        rw [List.singleton_append, List.find?_cons_of_pos isQualified] at found
        cases found
        apply Latest.cons_self isQualified
        intro other member otherQualifies
        have sorted : other ∈ sortedBy key choices := mem_sortedBy.mpr member
        rw [isSorted, List.mem_append] at sorted
        cases sorted with
        | inl isSmaller => exact below other isSmaller
        | inr isOther => simp [noOther other isOther] at otherQualifies
      · rw [List.singleton_append, List.find?_cons_of_neg isQualified] at found
        exact (inductionHypothesis found).cons_other fun qualified => absurd qualified isQualified

/-- Where every element qualifies, the last of the sorted list is chosen. -/
theorem latest_getLast (nonempty : sortedBy key choices ≠ []) :
    Latest (fun _ => true) key choices ((sortedBy key choices).getLast nonempty) := by
  apply latest_of_sorted
  exact Lists.find?_reverse_of_all nonempty fun _ _ => rfl

end Foundations
