import Genkan.SessionLock.AuthenticationOutput

/-! # Which output presents authentication

The selection by name depends on the outputs and not on the order in which they were discovered.  The
runtime selects twice, over all outputs and over the configured ones; both work on the indices of the
whole list, so that what they return can be compared and used there.
-/

namespace Genkan.SessionLock

open Foundations OutputSelection

universe u

variable {α : Type u}

namespace Runtime

/-- The index of the output that would present authentication if all of them were configured. -/
def preferredIndex (outputs : List (Option String × Bool × Bool)) (requested : Option String) :
    Option Nat :=
  select (outputs.zipIdx.map fun entry => (entry.2, entry.1.1)) requested

def IsConfigured (outputs : List (Option String × Bool × Bool)) (index : Nat) : Prop :=
  ∃ output, outputs[index]? = some output ∧ output.2.1 = true

/-- The first configured output that has the role. -/
def Holds (outputs : List (Option String × Bool × Bool)) (index : Nat) : Prop :=
  (∃ output, outputs[index]? = some output ∧ output.2.1 = true ∧ output.2.2 = true) ∧
    ∀ earlier < index, ∀ output, outputs[earlier]? = some output → ¬ (output.2.1 = true ∧ output.2.2 = true)

variable {outputs : List (Option String × Bool × Bool)} {requested : Option String}

theorem selectAuthenticationIndex_isSome_iff (outputs : List (Option String × Bool × Bool))
    (requested : Option String) :
    (selectAuthenticationIndex outputs requested).isSome ↔ ∃ output ∈ outputs, output.2.1 = true := by
  constructor
  · intro selected
    obtain ⟨index, isSelected⟩ := Option.isSome_iff_exists.mp selected
    obtain ⟨output, isOutput, configured⟩ := selectAuthenticationIndex_configured isSelected
    exact ⟨output, List.mem_of_getElem? isOutput, configured⟩
  · intro configured
    exact selectAuthenticationIndex_isSome requested configured

theorem selectAuthenticationIndex_preferred {index : Nat}
    (isPreferred : preferredIndex outputs requested = some index) (configured : IsConfigured outputs index) :
    selectAuthenticationIndex outputs requested = some index := by
  obtain ⟨output, isOutput, configured⟩ := configured
  rw [preferredIndex] at isPreferred
  simp [selectAuthenticationIndex, isPreferred, isOutput, configured]

theorem findIdx?_of_holds {index : Nat} (holder : Holds outputs index) :
    (outputs.findIdx? fun output => output.2.1 && output.2.2) = some index := by
  obtain ⟨⟨output, isOutput, configured, authentication⟩, first⟩ := holder
  obtain ⟨bound, isOutput⟩ := List.getElem?_eq_some_iff.mp isOutput
  rw [List.findIdx?_eq_some_iff_getElem]
  refine ⟨bound, by simp [isOutput, configured, authentication], ?_⟩
  intro earlier before
  have other := first earlier before outputs[earlier] (List.getElem?_eq_getElem _)
  simpa using other

theorem selectAuthenticationIndex_holder {index : Nat} (holder : Holds outputs index)
    (unconfigured : ∀ preferred ∈ preferredIndex outputs requested, ¬ IsConfigured outputs preferred) :
    selectAuthenticationIndex outputs requested = some index := by
  have keeps : ¬ ((preferredIndex outputs requested).any fun index => (outputs[index]?).any (·.2.1)) = true := by
    intro configured
    obtain ⟨preferred, isPreferred, configured⟩ := (Option.any_eq_true _ _).mp configured
    obtain ⟨output, isOutput, configured⟩ := (Option.any_eq_true _ _).mp configured
    exact unconfigured preferred isPreferred ⟨output, isOutput, configured⟩
  simp only [preferredIndex] at keeps
  simp only [selectAuthenticationIndex, keeps, findIdx?_of_holds holder, Option.some_or]
  rfl

/-- The outputs of the first part carry any values; those of the second are what the runtime knows of
its surfaces: the name, whether it is configured, and whether it has the role. -/
theorem authentication_selection :
    (∀ (outputs : List (α × Option String)) (requested : Option String),
      Distinct outputs → (∃ output ∈ outputs, output.2.isSome) →
        (∀ shuffled, outputs.Perm shuffled → select shuffled requested = select outputs requested) ∧
        (∀ name output, requested = some name → (output, some name) ∈ outputs →
          select outputs requested = some output) ∧
        (Absent outputs requested →
          (∃ name output, (output, some name) ∈ outputs ∧ name ≠ internalFallback) →
          ∃ name output, select outputs requested = some output ∧ (output, some name) ∈ outputs ∧
            name ≠ internalFallback ∧
            ∀ other ∈ outputs, ∀ otherName ∈ other.2, otherName ≠ internalFallback → name ≤ otherName)) ∧
    ∀ (outputs : List (Option String × Bool × Bool)) (requested : Option String),
      ((selectAuthenticationIndex outputs requested).isSome ↔ ∃ output ∈ outputs, output.2.1 = true) ∧
      (∀ index, selectAuthenticationIndex outputs requested = some index → IsConfigured outputs index) ∧
      (∀ preferred, preferredIndex outputs requested = some preferred → IsConfigured outputs preferred →
        selectAuthenticationIndex outputs requested = some preferred) ∧
      ∀ holder, Holds outputs holder →
        (∀ preferred ∈ preferredIndex outputs requested, ¬ IsConfigured outputs preferred) →
        selectAuthenticationIndex outputs requested = some holder := by
  constructor
  · intro outputs requested distinct named
    refine ⟨fun shuffled perm => select_of_perm requested distinct named perm, ?_, ?_⟩
    · intro name output isRequested member
      exact (Preferred.requested isRequested member).select_eq distinct
    · intro absent ⟨name, output, member, isExternal⟩
      obtain ⟨chosen, preferred⟩ := Preferred.exists_of_named requested named
      have selected := preferred.select_eq distinct
      cases preferred with
      | requested isRequested isOutput => exact absurd rfl (absent _ isRequested _ isOutput)
      | @external first _ _ isOutput firstExternal least =>
        exact ⟨first, chosen, selected, isOutput, firstExternal, least⟩
      | internal _ _ alone => exact absurd (alone _ member name rfl) isExternal
  · intro outputs requested
    refine ⟨selectAuthenticationIndex_isSome_iff outputs requested, ?_, ?_, ?_⟩
    · intro index selected
      exact selectAuthenticationIndex_configured selected
    · intro preferred isPreferred configured
      exact selectAuthenticationIndex_preferred isPreferred configured
    · intro holder isHolder unconfigured
      exact selectAuthenticationIndex_holder isHolder unconfigured

/-- Two orders of one discovery, and an external output that is not configured yet. -/
theorem authentication_selection_sample :
    select [(3, some "DP-1"), (2, some "eDP-1"), (1, some "DP-2")] none =
        select [(1, some "DP-2"), (2, some "eDP-1"), (3, some "DP-1")] none ∧
      selectAuthenticationIndex [(some "DP-1", false, false), (some "eDP-1", true, true)] none = some 1 := by
  obtain ⟨ordered, indexed⟩ := authentication_selection
  obtain ⟨shuffles, _⟩ := ordered [(1, some "DP-2"), (2, some "eDP-1"), (3, some "DP-1")] none
    (by unfold Distinct; decide) (by decide)
  obtain ⟨_, _, _, holder⟩ := indexed [(some "DP-1", false, false), (some "eDP-1", true, true)] none
  have reversed : ([(1, some "DP-2"), (2, some "eDP-1"), (3, some "DP-1")] : List (Nat × Option String)).Perm
      [(3, some "DP-1"), (2, some "eDP-1"), (1, some "DP-2")] := by decide
  refine ⟨shuffles _ reversed, holder 1 ⟨⟨_, rfl, rfl, rfl⟩, ?_⟩ ?_⟩
  · intro earlier before output isOutput
    obtain rfl : earlier = 0 := by omega
    cases isOutput
    decide
  · intro preferred isPreferred configured
    have first : preferred = 0 := by
      have isFirst : preferredIndex [(some "DP-1", false, false), (some "eDP-1", true, true)] none = some 0 := by
        decide
      rw [isFirst] at isPreferred
      exact (Option.some.inj isPreferred).symm
    subst first
    obtain ⟨output, isOutput, isConfigured⟩ := configured
    cases isOutput
    cases isConfigured

end Runtime

end Genkan.SessionLock
