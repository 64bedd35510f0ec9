import Mathlib.Data.List.MinMax
import Mathlib.Data.String.Basic

/-! # Selecting the connector that presents authentication

The `genkan-output-selection` crate.  Connector names are compared as strings; the order of Lean
strings is the byte order of their UTF-8 encodings.
-/

namespace Genkan.OutputSelection

universe u

variable {α : Type u}

def internalFallback : String := "eDP-1"

def requestedOutput (outputs : List (α × Option String)) (requested : Option String) :
    Option (α × Option String) :=
  requested.bind fun requested => outputs.find? fun output => output.2 = some requested

/-- The named outputs other than the internal panel, keyed by their name. -/
def externalOutputs (outputs : List (α × Option String)) : List (String × α) :=
  outputs.filterMap fun output =>
    (output.2.filter (· ≠ internalFallback)).map fun name => (name, output.1)

def defaultOutput (outputs : List (α × Option String)) : Option α :=
  (((externalOutputs outputs).argmin (·.1)).map (·.2)).or <|
    ((outputs.find? fun output => output.2 = some internalFallback).map (·.1)).or <|
      outputs.head?.map (·.1)

def select (outputs : List (α × Option String)) (requested : Option String) : Option α :=
  ((requestedOutput outputs requested).map (·.1)).or (defaultOutput outputs)

/-! ## The selected output is one of the outputs -/

theorem requestedOutput_mem {outputs : List (α × Option String)} {requested : Option String}
    {output : α × Option String} (found : requestedOutput outputs requested = some output) :
    output ∈ outputs := by
  obtain ⟨name, _, found⟩ := Option.bind_eq_some_iff.mp found
  exact List.mem_of_find?_eq_some found

theorem externalOutputs_mem {outputs : List (α × Option String)} {entry : String × α}
    (member : entry ∈ externalOutputs outputs) : ∃ name, (entry.2, name) ∈ outputs := by
  obtain ⟨⟨output, name⟩, isOutput, keyed⟩ := List.mem_filterMap.mp member
  obtain ⟨_, _, rfl⟩ := Option.map_eq_some_iff.mp keyed
  exact ⟨name, isOutput⟩

theorem defaultOutput_mem {outputs : List (α × Option String)} {output : α}
    (found : defaultOutput outputs = some output) : ∃ name, (output, name) ∈ outputs := by
  simp only [defaultOutput, Option.or_eq_some_iff, Option.map_eq_some_iff] at found
  rcases found with ⟨entry, isLeast, rfl⟩ | ⟨_, ⟨entry, isFound, rfl⟩ | ⟨_, entry, isHead, rfl⟩⟩
  · exact externalOutputs_mem (List.argmin_mem (by simpa using isLeast))
  · exact ⟨entry.2, List.mem_of_find?_eq_some isFound⟩
  · exact ⟨entry.2, List.mem_of_mem_head? isHead⟩

theorem select_mem {outputs : List (α × Option String)} {requested : Option String} {output : α}
    (found : select outputs requested = some output) : ∃ name, (output, name) ∈ outputs := by
  simp only [select, Option.or_eq_some_iff, Option.map_eq_some_iff] at found
  rcases found with ⟨entry, isRequested, rfl⟩ | ⟨_, isDefault⟩
  · exact ⟨entry.2, requestedOutput_mem isRequested⟩
  · exact defaultOutput_mem isDefault

theorem select_isSome {outputs : List (α × Option String)} (nonempty : outputs ≠ [])
    (requested : Option String) : (select outputs requested).isSome := by
  cases outputs with
  | nil => contradiction
  | cons first rest => simp [select, defaultOutput]

/-! ## The selected output does not depend on the order of the outputs -/

/-- No two outputs have one name; outputs without a name do not count. -/
def Distinct (outputs : List (α × Option String)) : Prop := (outputs.filterMap (·.2)).Nodup

theorem Distinct.output_eq {outputs : List (α × Option String)} (distinct : Distinct outputs)
    {name : String} {left right : α} (isLeft : (left, some name) ∈ outputs)
    (isRight : (right, some name) ∈ outputs) : left = right := by
  induction outputs with
  | nil => cases isLeft
  | cons first rest inductionHypothesis =>
    have restDistinct : Distinct rest := distinct.sublist ((List.sublist_cons_self first rest).filterMap _)
    have unrepeated : ∀ output, first = (output, some name) → ∀ other, (other, some name) ∉ rest := by
      intro output isFirst other member
      subst isFirst
      have fresh := (List.nodup_cons.mp distinct).1
      exact fresh (List.mem_filterMap.mpr ⟨_, member, rfl⟩)
    cases isLeft with
    | head =>
      cases isRight with
      | head => rfl
      | tail _ isRight => exact absurd isRight (unrepeated left rfl right)
    | tail _ isLeft =>
      cases isRight with
      | head => exact absurd isLeft (unrepeated right rfl left)
      | tail _ isRight => exact inductionHypothesis restDistinct isLeft isRight

def Absent (outputs : List (α × Option String)) (requested : Option String) : Prop :=
  ∀ name ∈ requested, ∀ output ∈ outputs, output.2 ≠ some name

/-- What the selection is for, in terms of the outputs and not of their order. -/
inductive Preferred (outputs : List (α × Option String)) (requested : Option String) : α → Prop
  | requested {name : String} {output : α} (isRequested : requested = some name)
      (member : (output, some name) ∈ outputs) : Preferred outputs requested output
  | external {name : String} {output : α} (absent : Absent outputs requested)
      (member : (output, some name) ∈ outputs) (isExternal : name ≠ internalFallback)
      (least : ∀ other ∈ outputs, ∀ otherName ∈ other.2, otherName ≠ internalFallback → name ≤ otherName) :
      Preferred outputs requested output
  | internal {output : α} (absent : Absent outputs requested)
      (member : (output, some internalFallback) ∈ outputs)
      (alone : ∀ other ∈ outputs, ∀ otherName ∈ other.2, otherName = internalFallback) :
      Preferred outputs requested output

theorem Preferred.perm {outputs shuffled : List (α × Option String)} {requested : Option String}
    {output : α} (preferred : Preferred outputs requested output) (perm : outputs.Perm shuffled) :
    Preferred shuffled requested output := by
  cases preferred with
  | requested isRequested member => exact .requested isRequested (perm.mem_iff.mp member)
  | external absent member isExternal least =>
    refine .external ?_ (perm.mem_iff.mp member) isExternal ?_
    · exact fun name isName other isOther => absent name isName other (perm.mem_iff.mpr isOther)
    · exact fun other isOther => least other (perm.mem_iff.mpr isOther)
  | internal absent member alone =>
    refine .internal ?_ (perm.mem_iff.mp member) ?_
    · exact fun name isName other isOther => absent name isName other (perm.mem_iff.mpr isOther)
    · exact fun other isOther => alone other (perm.mem_iff.mpr isOther)

theorem mem_externalOutputs {outputs : List (α × Option String)} {name : String} {output : α} :
    (name, output) ∈ externalOutputs outputs ↔
      (output, some name) ∈ outputs ∧ name ≠ internalFallback := by
  constructor
  · intro member
    obtain ⟨⟨entry, entryName⟩, isOutput, keyed⟩ := List.mem_filterMap.mp member
    obtain ⟨_, named, same⟩ := Option.map_eq_some_iff.mp keyed
    obtain ⟨isName, external⟩ := Option.filter_eq_some_iff.mp named
    cases same
    cases isName
    exact ⟨isOutput, by simpa using external⟩
  · intro ⟨member, external⟩
    exact List.mem_filterMap.mpr ⟨_, member, by simp [external]⟩

theorem requestedOutput_of_absent {outputs : List (α × Option String)} {requested : Option String}
    (absent : Absent outputs requested) : requestedOutput outputs requested = none := by
  cases requested with
  | none => rfl
  | some name =>
    refine List.find?_eq_none.mpr fun output member => ?_
    simpa using absent name rfl output member

theorem find_of_distinct {outputs : List (α × Option String)} (distinct : Distinct outputs)
    {name : String} {output : α} (member : (output, some name) ∈ outputs) :
    (outputs.find? fun output => output.2 = some name) = some (output, some name) := by
  cases found : outputs.find? fun output => output.2 = some name with
  | none => simpa using List.find?_eq_none.mp found _ member
  | some entry =>
    obtain ⟨entry, entryName⟩ := entry
    have named : entryName = some name := by simpa using List.find?_some found
    subst named
    rw [distinct.output_eq (List.mem_of_find?_eq_some found) member]

theorem Preferred.select_eq {outputs : List (α × Option String)} {requested : Option String} {output : α}
    (preferred : Preferred outputs requested output) (distinct : Distinct outputs) :
    select outputs requested = some output := by
  cases preferred with
  | requested isRequested member =>
    subst isRequested
    simp only [select, requestedOutput, Option.bind_some, find_of_distinct distinct member, Option.map_some,
      Option.some_or]
  | @external name _ absent member isExternal least =>
    have isEntry : (name, output) ∈ externalOutputs outputs := mem_externalOutputs.mpr ⟨member, isExternal⟩
    cases isFirst : (externalOutputs outputs).argmin (·.1) with
    | none => simp [List.argmin_eq_none.mp isFirst] at isEntry
    | some first =>
      obtain ⟨firstName, firstOutput⟩ := first
      obtain ⟨isOutput, firstExternal⟩ := mem_externalOutputs.mp (List.argmin_mem isFirst)
      have below : firstName ≤ name := List.le_of_mem_argmin isEntry isFirst
      have above : name ≤ firstName := least _ isOutput firstName rfl firstExternal
      have same : firstName = name := le_antisymm below above
      subst same
      have isSame : firstOutput = output := distinct.output_eq isOutput member
      simp [select, requestedOutput_of_absent absent, defaultOutput, isFirst, isSame]
  | internal absent member alone =>
    have noExternal : externalOutputs outputs = [] := by
      refine List.eq_nil_iff_forall_not_mem.mpr ?_
      intro (name, other) isEntry
      obtain ⟨isOutput, isExternal⟩ := mem_externalOutputs.mp isEntry
      exact isExternal (alone _ isOutput name rfl)
    simp [select, requestedOutput_of_absent absent, defaultOutput, noExternal, find_of_distinct distinct member]

theorem Preferred.exists_of_named {outputs : List (α × Option String)} (requested : Option String)
    (named : ∃ output ∈ outputs, output.2.isSome) : ∃ output, Preferred outputs requested output := by
  by_cases absent : Absent outputs requested
  · cases isFirst : (externalOutputs outputs).argmin (·.1) with
    | none =>
      have noExternal := List.argmin_eq_none.mp isFirst
      have alone : ∀ other ∈ outputs, ∀ otherName ∈ other.2, otherName = internalFallback := by
        intro (other, _) isOther otherName isName
        cases isName
        by_contra external
        have isEntry := mem_externalOutputs.mpr ⟨isOther, external⟩
        simp [noExternal] at isEntry
      obtain ⟨⟨output, name⟩, member, isNamed⟩ := named
      obtain ⟨name, isName⟩ := Option.isSome_iff_exists.mp isNamed
      cases isName
      rw [alone _ member name rfl] at member
      exact ⟨output, .internal absent member alone⟩
    | some first =>
      obtain ⟨name, output⟩ := first
      obtain ⟨isOutput, external⟩ := mem_externalOutputs.mp (List.argmin_mem isFirst)
      refine ⟨output, .external absent isOutput external ?_⟩
      intro (other, _) isOther otherName isName otherExternal
      cases isName
      exact List.le_of_mem_argmin (f := (·.1)) (mem_externalOutputs.mpr ⟨isOther, otherExternal⟩) isFirst
  · simp only [Absent, not_forall, not_not] at absent
    obtain ⟨name, isRequested, ⟨output, _⟩, member, isName⟩ := absent
    cases isName
    exact ⟨output, .requested isRequested member⟩

theorem select_of_perm {outputs shuffled : List (α × Option String)} (requested : Option String)
    (distinct : Distinct outputs) (named : ∃ output ∈ outputs, output.2.isSome)
    (perm : outputs.Perm shuffled) : select shuffled requested = select outputs requested := by
  have shuffledDistinct : Distinct shuffled := (perm.filterMap _).nodup_iff.mp distinct
  obtain ⟨output, preferred⟩ := Preferred.exists_of_named requested named
  rw [preferred.select_eq distinct, (preferred.perm perm).select_eq shuffledDistinct]

end Genkan.OutputSelection
