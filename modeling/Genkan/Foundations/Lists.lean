import Mathlib.Data.List.Forall2
import Mathlib.Data.List.Nodup

/-! # Lists with one entry replaced, and searches through lists -/

namespace Foundations.Lists

universe u v

variable {α : Type u} {β : Type v}

/-- An entry of an updated list is the new one, or it stood elsewhere before. -/
theorem mem_set_cases {list : List α} {index : Nat} {value other : α}
    (member : other ∈ list.set index value) :
    other = value ∨ ∃ position, position ≠ index ∧ list[position]? = some other := by
  obtain ⟨position, found⟩ := List.mem_iff_getElem?.mp member
  rw [List.getElem?_set] at found
  split at found
  next =>
    split at found
    next => exact .inl (Option.some.inj found).symm
    next => contradiction
  next elsewhere => exact .inr ⟨position, Ne.symm elsewhere, found⟩

theorem mem_set_of_found {list : List α} {index : Nat} {old : α} (found : list[index]? = some old)
    (value : α) : value ∈ list.set index value :=
  List.mem_set (List.getElem?_eq_some_iff.mp found).1 value

/-- An entry survives the replacement of another one. -/
theorem mem_set_of_ne {list : List α} {index position : Nat} {value other : α}
    (found : list[position]? = some other) (elsewhere : position ≠ index) :
    other ∈ list.set index value := by
  apply List.mem_of_getElem? (i := position)
  rw [List.getElem?_set_ne (Ne.symm elsewhere), found]

theorem getElem?_set_cases {list : List α} {index position : Nat} {value other : α}
    (found : (list.set index value)[position]? = some other) :
    (position = index ∧ other = value) ∨ (position ≠ index ∧ list[position]? = some other) := by
  by_cases here : position = index
  · subst here
    have bound : position < list.length := by
      have inside := (List.getElem?_eq_some_iff.mp found).1
      simpa using inside
    rw [List.getElem?_set_self bound] at found
    exact .inl ⟨rfl, (Option.some.inj found).symm⟩
  · rw [List.getElem?_set_ne (Ne.symm here)] at found
    exact .inr ⟨here, found⟩

theorem getElem?_append_cases {list : List α} {position : Nat} {value other : α}
    (found : (list ++ [value])[position]? = some other) :
    (position = list.length ∧ other = value) ∨
      (position ≠ list.length ∧ list[position]? = some other) := by
  by_cases inside : position < list.length
  · rw [List.getElem?_append_left inside] at found
    exact .inr ⟨Nat.ne_of_lt inside, found⟩
  · rw [List.getElem?_append_right (Nat.le_of_not_lt inside), List.getElem?_singleton,
      Option.ite_none_right_eq_some] at found
    obtain ⟨isZero, isValue⟩ := found
    exact .inl ⟨by omega, (Option.some.inj isValue).symm⟩

theorem map_set_of_eq {list : List α} {index : Nat} {old value : α} {f : α → β}
    (found : list[index]? = some old) (same : f value = f old) :
    (list.set index value).map f = list.map f := by
  apply List.ext_getElem?
  intro position
  simp only [List.getElem?_map, List.getElem?_set]
  split
  next here =>
    subst here
    obtain ⟨bound, isOld⟩ := List.getElem?_eq_some_iff.mp found
    simp [bound, isOld, same]
  next => rfl

theorem mem_modify_cases {list : List α} {index : Nat} {f : α → α} {other : α}
    (member : other ∈ list.modify index f) : other ∈ list ∨ ∃ old ∈ list, other = f old := by
  obtain ⟨position, found⟩ := List.mem_iff_getElem?.mp member
  rw [List.getElem?_modify] at found
  obtain ⟨old, isOld, isOther⟩ := Option.map_eq_some_iff.mp found
  have oldMember := List.mem_of_getElem? isOld
  split at isOther
  next => exact .inr ⟨old, oldMember, isOther.symm⟩
  next => exact .inl (isOther ▸ oldMember)

theorem map_modify_of_eq {list : List α} {index : Nat} {f : α → α} {g : α → β}
    (same : ∀ value, g (f value) = g value) : (list.modify index f).map g = list.map g := by
  apply List.ext_getElem?
  intro position
  rw [List.getElem?_map, List.getElem?_modify, List.getElem?_map]
  cases list[position]? with
  | none => rfl
  | some value => by_cases here : index = position <;> simp [here, same]

theorem modify_of_found {list : List α} {index : Nat} {old : α} (found : list[index]? = some old)
    (f : α → α) : list.modify index f = list.set index (f old) := by
  apply List.ext_getElem?
  intro position
  simp only [List.getElem?_modify, List.getElem?_set]
  split
  next here =>
    subst here
    obtain ⟨bound, isOld⟩ := List.getElem?_eq_some_iff.mp found
    simp [bound, isOld]
  next => simp

theorem modify_of_missing {list : List α} {index : Nat} (missing : list[index]? = none) (f : α → α) :
    list.modify index f = list :=
  List.modify_eq_self (List.getElem?_eq_none_iff.mp missing)

/-- Entries at different positions differ in a key without duplicates. -/
theorem key_ne_of_nodup {list : List α} {key : α → β} (distinct : (list.map key).Nodup)
    {first second : Nat} {left right : α} (isLeft : list[first]? = some left)
    (isRight : list[second]? = some right) (differ : second ≠ first) : key right ≠ key left := by
  intro same
  apply differ
  obtain ⟨firstBound, rfl⟩ := List.getElem?_eq_some_iff.mp isLeft
  obtain ⟨secondBound, rfl⟩ := List.getElem?_eq_some_iff.mp isRight
  have firstPlace : first < (list.map key).length := by simpa using firstBound
  have secondPlace : second < (list.map key).length := by simpa using secondBound
  have equal : (list.map key)[second] = (list.map key)[first] := by simpa using same
  exact distinct.getElem_inj_iff.mp equal

theorem length_le_one_of_key_eq {list : List α} {key : α → β} (distinct : (list.map key).Nodup)
    (same : ∀ first ∈ list, ∀ second ∈ list, key first = key second) : list.length ≤ 1 := by
  match list, distinct, same with
  | [], _, _ => exact Nat.zero_le 1
  | [_], _, _ => exact Nat.le_refl 1
  | first :: second :: rest, distinct, same =>
    simp [same first (by simp) second (by simp)] at distinct

theorem find?_congr {list : List α} {first second : α → Bool}
    (same : ∀ value ∈ list, first value = second value) : list.find? first = list.find? second := by
  induction list with
  | nil => rfl
  | cons head tail inductionHypothesis =>
    rw [List.find?_cons, List.find?_cons, same head List.mem_cons_self,
      inductionHypothesis fun value member => same value (List.mem_cons_of_mem head member)]

/-- Where every entry is found, the list read backwards yields its last one. -/
theorem find?_reverse_of_all {list : List α} (nonempty : list ≠ []) {found : α → Bool}
    (all : ∀ value ∈ list, found value = true) :
    list.reverse.find? found = some (list.getLast nonempty) := by
  obtain isNil | ⟨before, last, isList⟩ := List.eq_nil_or_concat list
  · exact absurd isNil nonempty
  · subst isList
    simp [all last (by simp)]

/-- What is not the removed entry stays. -/
theorem mem_eraseIdx_of_ne {list : List α} {index : Nat} {value other : α} (found : list[index]? = some value)
    (member : other ∈ list) (apart : other ≠ value) : other ∈ list.eraseIdx index := by
  obtain ⟨position, isOther⟩ := List.mem_iff_getElem?.mp member
  refine List.mem_eraseIdx_iff_getElem?.mpr ⟨position, ?_, isOther⟩
  intro same
  subst same
  exact apart (Option.some.inj (isOther.symm.trans found))

/-- In a list of related elements the one at an index is related to all the others. -/
theorem related_of_mem_eraseIdx {related : α → α → Prop}
    (symmetric : ∀ first second, related first second → related second first) {list : List α}
    (pairwise : list.Pairwise related) {index : Nat} {value other : α} (found : list[index]? = some value)
    (member : other ∈ list.eraseIdx index) : related value other := by
  obtain ⟨bound, isValue⟩ := List.getElem?_eq_some_iff.mp found
  obtain ⟨position, within, apart, isOther⟩ := List.mem_eraseIdx_iff_getElem.mp member
  have pairs := List.pairwise_iff_getElem.mp pairwise
  rw [← isValue, ← isOther]
  cases Nat.lt_or_gt_of_ne apart with
  | inl before => exact symmetric _ _ (pairs position index within bound before)
  | inr after => exact pairs index position bound within after

/-- What is ordered on one side of a relation is ordered on the other. -/
theorem pairwise_of_related {list : List α} {image : List β} {related : α → β → Prop}
    {before : α → α → Prop} {after : β → β → Prop} (all : List.Forall₂ related list image)
    (ordered : list.Pairwise before)
    (carries : ∀ x y x' y', related x x' → related y y' → before x y → after x' y') :
    image.Pairwise after := by
  induction all with
  | nil => exact .nil
  | cons head tail inductionHypothesis =>
    rw [List.pairwise_cons] at ordered ⊢
    refine ⟨?_, inductionHypothesis ordered.2⟩
    intro other member
    obtain ⟨index, inside, rfl⟩ := List.mem_iff_getElem.mp member
    have source := tail.length_eq ▸ inside
    exact carries _ _ _ _ head (tail.get source inside) (ordered.1 _ (List.getElem_mem source))

/-- In a list made of chunks of one size, a chunk is found at its number times the size. -/
theorem getElem?_flatMap_chunk {list : List α} {f : α → List β} {size : Nat}
    (chunks : ∀ value ∈ list, (f value).length = size) {index offset : Nat} {value : α}
    (found : list[index]? = some value) (inside : offset < size) :
    (list.flatMap f)[index * size + offset]? = (f value)[offset]? := by
  induction list generalizing index with
  | nil => simp at found
  | cons head tail inductionHypothesis =>
    have headLength := chunks head List.mem_cons_self
    rw [List.flatMap_cons]
    cases index with
    | zero =>
      obtain rfl : head = value := Option.some.inj found
      rw [Nat.zero_mul, Nat.zero_add, List.getElem?_append_left (headLength ▸ inside)]
    | succ index =>
      rw [Nat.add_mul, List.getElem?_append_right (by omega), headLength,
        show index * size + 1 * size + offset - size = index * size + offset by omega]
      exact inductionHypothesis (fun other member => chunks other (List.mem_cons_of_mem head member)) found

theorem length_flatMap_chunk {list : List α} {f : α → List β} {size : Nat}
    (chunks : ∀ value ∈ list, (f value).length = size) :
    (list.flatMap f).length = list.length * size := by
  induction list with
  | nil => simp
  | cons head tail inductionHypothesis =>
    rw [List.flatMap_cons, List.length_append, chunks head List.mem_cons_self,
      inductionHypothesis fun other member => chunks other (List.mem_cons_of_mem head member),
      List.length_cons, Nat.add_mul, Nat.one_mul, Nat.add_comm]

theorem take_four {list : List α} {start : Nat} (fallback : α) (within : start + 4 ≤ list.length) :
    (list.drop start).take 4 = [list.getD start fallback, list.getD (start + 1) fallback,
      list.getD (start + 2) fallback, list.getD (start + 3) fallback] := by
  have entry : ∀ index, index < 4 →
      ((list.drop start).take 4)[index]? = some (list.getD (start + index) fallback) := by
    intro index inside
    rw [List.getElem?_take_of_lt inside, List.getElem?_drop, List.getD_eq_getElem?_getD,
      List.getElem?_eq_getElem (by omega), Option.getD_some]
  apply List.ext_getElem?
  intro index
  cases Nat.lt_or_ge index 4 with
  | inl inside =>
    rw [entry index inside]
    match index, inside with
    | 0, _ | 1, _ | 2, _ | 3, _ => rfl
  | inr outside => rw [List.getElem?_eq_none (by rw [List.length_take]; omega), List.getElem?_eq_none outside]

/-! ## Lists that grow at the end -/

/-- Every entry has the property, given the entries before it. -/
def EachAfter (property : List α → α → Prop) (list : List α) : Prop :=
  ∀ before value after, list = before ++ value :: after → property before value

theorem append_singleton_split {list before after : List α} {value last : α}
    (split : list ++ [last] = before ++ value :: after) :
    (list = before ∧ last = value ∧ after = []) ∨
      ∃ rest, after = rest ++ [last] ∧ list = before ++ value :: rest := by
  obtain isNil | ⟨rest, other, rfl⟩ := List.eq_nil_or_concat after
  · subst isNil
    obtain ⟨same, lastSame⟩ := List.append_inj' split rfl
    exact .inl ⟨same, List.head_eq_of_cons_eq lastSame, rfl⟩
  · rw [List.concat_eq_append, ← List.cons_append, ← List.append_assoc] at split
    obtain ⟨same, lastSame⟩ := List.append_inj' split rfl
    exact .inr ⟨rest, by rw [List.concat_eq_append, List.head_eq_of_cons_eq lastSame], same⟩

theorem eachAfter_nil (property : List α → α → Prop) : EachAfter property [] := by
  intro before value after split
  simp at split

theorem EachAfter.append {property : List α → α → Prop} {list : List α} (each : EachAfter property list)
    {last : α} (holds : property list last) : EachAfter property (list ++ [last]) := by
  intro before value after split
  obtain ⟨rfl, rfl, _⟩ | ⟨rest, _, same⟩ := append_singleton_split split
  · exact holds
  · exact each before value rest same

theorem count_le_one [BEq α] [LawfulBEq α] {list : List α} {value : α}
    (first : ∀ before after, list = before ++ value :: after → value ∉ before) : list.count value ≤ 1 := by
  by_cases member : value ∈ list
  · obtain ⟨before, after, split⟩ := List.append_of_mem member
    have notBefore := first before after split
    have notAfter : value ∉ after := by
      intro again
      obtain ⟨middle, rest, rfl⟩ := List.append_of_mem again
      exact first (before ++ value :: middle) rest (by simp [split]) (by simp)
    have counted : list.count value = 1 := by
      rw [split, List.count_append, List.count_cons_self, List.count_eq_zero_of_not_mem notBefore,
        List.count_eq_zero_of_not_mem notAfter]
    exact Nat.le_of_eq counted
  · rw [List.count_eq_zero_of_not_mem member]
    exact Nat.zero_le _

end Foundations.Lists
