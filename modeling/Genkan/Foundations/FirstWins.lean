import Mathlib.Data.List.Forall2
import Mathlib.Data.List.Nodup
import Mathlib.Data.List.Perm.Lattice

/-! # The first of every key

A scan that keeps a value when its key has not been seen before.  When the values come in groups and a
key names at most one value of a group, what is kept depends on the groups and not on the order inside
them.
-/

namespace Foundations.FirstWins

universe u v

variable {α : Type u} {κ : Type v} [DecidableEq κ] {key : α → κ}

def keepFirst (key : α → κ) (seen : List κ) : List α → List α
  | [] => []
  | value :: rest =>
    if key value ∈ seen then keepFirst key seen rest else value :: keepFirst key (key value :: seen) rest

theorem mem_keepFirst_fresh {seen : List κ} {values : List α} {value : α}
    (kept : value ∈ keepFirst key seen values) : key value ∉ seen ∧ value ∈ values := by
  induction values generalizing seen with
  | nil => cases kept
  | cons head rest inductionHypothesis =>
    by_cases known : key head ∈ seen
    · rw [keepFirst, if_pos known] at kept
      obtain ⟨fresh, member⟩ := inductionHypothesis kept
      exact ⟨fresh, .tail _ member⟩
    · rw [keepFirst, if_neg known] at kept
      cases kept with
      | head => exact ⟨known, .head _⟩
      | tail _ kept =>
        obtain ⟨fresh, member⟩ := inductionHypothesis kept
        rw [List.mem_cons, not_or] at fresh
        exact ⟨fresh.2, .tail _ member⟩

theorem nodup_keys (key : α → κ) (seen : List κ) (values : List α) :
    ((keepFirst key seen values).map key).Nodup := by
  induction values generalizing seen with
  | nil => exact List.nodup_nil
  | cons head rest inductionHypothesis =>
    by_cases known : key head ∈ seen
    · rw [keepFirst, if_pos known]
      exact inductionHypothesis seen
    · rw [keepFirst, if_neg known, List.map_cons, List.nodup_cons]
      refine ⟨?_, inductionHypothesis _⟩
      intro member
      obtain ⟨value, kept, sameKey⟩ := List.mem_map.mp member
      exact (mem_keepFirst_fresh kept).1 (sameKey ▸ List.mem_cons_self)

theorem mem_keepFirst_seen {seen : List κ} {known : κ} {values : List α} {value : α} :
    value ∈ keepFirst key (known :: seen) values ↔ value ∈ keepFirst key seen values ∧ key value ≠ known := by
  induction values generalizing seen known with
  | nil => simp [keepFirst]
  | cons head rest inductionHypothesis =>
    by_cases earlier : key head ∈ seen
    · rw [keepFirst, if_pos (List.mem_cons_of_mem _ earlier), keepFirst, if_pos earlier]
      exact inductionHypothesis
    · -- Only the head can differ, so the question is whether it has the known key.
      by_cases same : key head = known
      · subst same
        rw [keepFirst, if_pos List.mem_cons_self, keepFirst, if_neg earlier, List.mem_cons, inductionHypothesis]
        constructor
        · intro ⟨kept, other⟩
          exact ⟨.inr ⟨kept, other⟩, other⟩
        · intro ⟨kept, other⟩
          exact kept.resolve_left fun isHead => other (congrArg key isHead)
      · have fresh : key head ∉ known :: seen := by simp [same, earlier]
        rw [keepFirst, if_neg fresh, keepFirst, if_neg earlier, List.mem_cons, List.mem_cons,
          inductionHypothesis, inductionHypothesis, inductionHypothesis]
        constructor
        · intro kept
          cases kept with
          | inl isHead => exact ⟨.inl isHead, fun sameKey => same (isHead ▸ sameKey)⟩
          | inr kept => exact ⟨.inr ⟨kept.1.1, kept.2⟩, kept.1.2⟩
        · intro ⟨kept, other⟩
          cases kept with
          | inl isHead => exact .inl isHead
          | inr kept => exact .inr ⟨⟨kept.1, other⟩, kept.2⟩

theorem mem_keepFirst_cons {seen : List κ} {head : α} {rest : List α} {value : α} :
    value ∈ keepFirst key seen (head :: rest) ↔
      (value = head ∧ key head ∉ seen) ∨ (value ∈ keepFirst key seen rest ∧ key value ≠ key head) := by
  by_cases known : key head ∈ seen
  · rw [keepFirst, if_pos known]
    constructor
    · intro kept
      exact .inr ⟨kept, fun sameKey => (mem_keepFirst_fresh kept).1 (sameKey ▸ known)⟩
    · intro kept
      cases kept with
      | inl isHead => exact absurd known isHead.2
      | inr kept => exact kept.1
  · rw [keepFirst, if_neg known, List.mem_cons, mem_keepFirst_seen]
    simp [known]

theorem mem_keepFirst_append {seen : List κ} {left right : List α} {value : α} :
    value ∈ keepFirst key seen (left ++ right) ↔
      value ∈ keepFirst key seen left ∨ (value ∈ keepFirst key seen right ∧ key value ∉ left.map key) := by
  induction left with
  | nil => simp [keepFirst]
  | cons head rest inductionHypothesis =>
    rw [List.cons_append, mem_keepFirst_cons, mem_keepFirst_cons, inductionHypothesis, List.map_cons,
      List.mem_cons, not_or, or_and_right, or_assoc, and_assoc, and_comm (a := key value ∉ rest.map key)]

/-- A key names at most one value of the group. -/
def KeyOn (key : α → κ) (group : List α) : Prop :=
  ∀ left ∈ group, ∀ right ∈ group, key left = key right → left = right

theorem mem_keepFirst_group {seen : List κ} {group : List α} (keyed : KeyOn key group) {value : α} :
    value ∈ keepFirst key seen group ↔ key value ∉ seen ∧ value ∈ group := by
  constructor
  · exact mem_keepFirst_fresh
  · intro ⟨fresh, member⟩
    induction group with
    | nil => cases member
    | cons head rest inductionHypothesis =>
      rw [mem_keepFirst_cons]
      by_cases isHead : value = head
      · exact .inl ⟨isHead, isHead ▸ fresh⟩
      · have later : value ∈ rest := (List.mem_cons.mp member).resolve_left isHead
        have keyedRest : KeyOn key rest := fun left isLeft right isRight =>
          keyed left (.tail _ isLeft) right (.tail _ isRight)
        refine .inr ⟨inductionHypothesis keyedRest later, ?_⟩
        intro sameKey
        exact isHead (keyed value member head (.head _) sameKey)

/-- What is kept stands in the first group that has its key. -/
theorem mem_keepFirst_flatten {groups : List (List α)} (keyed : ∀ group ∈ groups, KeyOn key group) {value : α} :
    value ∈ keepFirst key [] groups.flatten ↔
      ∃ before group after, groups = before ++ group :: after ∧ value ∈ group ∧
        ∀ earlier ∈ before, ∀ other ∈ earlier, key other ≠ key value := by
  induction groups with
  | nil => simp [keepFirst]
  | cons first rest inductionHypothesis =>
    have keyedRest : ∀ group ∈ rest, KeyOn key group := fun group isIn => keyed group (.tail _ isIn)
    rw [List.flatten_cons, mem_keepFirst_append, mem_keepFirst_group (keyed first (.head _)),
      inductionHypothesis keyedRest]
    constructor
    · intro kept
      cases kept with
      | inl kept => exact ⟨[], first, rest, rfl, kept.2, by simp⟩
      | inr kept =>
        obtain ⟨⟨before, group, after, split, member, unseen⟩, absent⟩ := kept
        refine ⟨first :: before, group, after, by rw [split, List.cons_append], member, ?_⟩
        intro earlier isEarlier other isOther sameKey
        cases isEarlier with
        | head => exact absent (sameKey ▸ List.mem_map_of_mem isOther)
        | tail _ isEarlier => exact unseen earlier isEarlier other isOther sameKey
    · -- The first group of the split is the first of all, or lies behind it.
      intro ⟨before, group, after, split, member, unseen⟩
      cases before with
      | nil =>
        rw [List.nil_append, List.cons.injEq] at split
        exact .inl ⟨List.not_mem_nil, split.1 ▸ member⟩
      | cons head before =>
        rw [List.cons_append, List.cons.injEq] at split
        obtain ⟨isFirst, split⟩ := split
        subst isFirst
        have others : ∀ earlier ∈ before, ∀ other ∈ earlier, key other ≠ key value :=
          fun earlier isEarlier => unseen earlier (.tail _ isEarlier)
        refine .inr ⟨⟨before, group, after, split, member, others⟩, ?_⟩
        intro present
        obtain ⟨other, isOther, sameKey⟩ := List.mem_map.mp present
        exact unseen first (.head _) other isOther sameKey

/-- The order inside the groups decides nothing. -/
theorem keepFirst_perm {groups shuffled : List (List α)} (perm : List.Forall₂ List.Perm groups shuffled)
    (keyed : ∀ group ∈ groups, KeyOn key group) :
    (keepFirst key [] groups.flatten).Perm (keepFirst key [] shuffled.flatten) := by
  have same : ∀ seen value, value ∈ keepFirst key seen groups.flatten ↔
      value ∈ keepFirst key seen shuffled.flatten := by
    induction perm with
    | nil => exact fun _ _ => Iff.rfl
    | @cons first second rest others perm _ inductionHypothesis =>
      intro seen value
      have keyedFirst := keyed first (.head _)
      have keyedSecond : KeyOn key second := fun left isLeft right isRight =>
        keyedFirst left (perm.mem_iff.mpr isLeft) right (perm.mem_iff.mpr isRight)
      rw [List.flatten_cons, List.flatten_cons, mem_keepFirst_append, mem_keepFirst_append,
        mem_keepFirst_group keyedFirst, mem_keepFirst_group keyedSecond, perm.mem_iff,
        inductionHypothesis (fun group isIn => keyed group (.tail _ isIn)) seen value, (perm.map key).mem_iff]
  exact (List.perm_ext_iff_of_nodup (nodup_keys key [] _).of_map (nodup_keys key [] _).of_map).mpr (same [])

end Foundations.FirstWins
