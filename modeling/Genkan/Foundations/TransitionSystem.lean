import Mathlib.Data.List.GetD
import Mathlib.Data.Nat.Init

/-! # Labelled transition systems and their finite runs

A system is a set of initial states and a labelled step relation.  A `Run` records every state it
passes through, so that statements about "some moment between two steps" quantify over indices
instead of over ghost variables.  The rules below are the only inductions over runs in the
development: invariants, properties that stay true, and the step at which a property was entered.
-/

namespace Foundations

universe u v

structure TransitionSystem (State : Type u) (Label : Type v) where
  initial : State → Prop
  step : State → Label → State → Prop

namespace TransitionSystem

variable {State : Type u} {Label : Type v} {system : TransitionSystem State Label}

structure Run (system : TransitionSystem State Label) where
  length : Nat
  state : Nat → State
  label : Nat → Label
  starts : system.initial (state 0)
  steps : ∀ index, index < length → system.step (state index) (label index) (state (index + 1))

inductive Reachable (system : TransitionSystem State Label) : State → Prop
  | initial {state : State} : system.initial state → Reachable system state
  | step {state next : State} {label : Label} :
      Reachable system state → system.step state label next → Reachable system next

/-! ## Invariants -/

theorem Reachable.invariant (property : State → Prop)
    (initially : ∀ state, system.initial state → property state)
    (preserved : ∀ state label next, property state → system.step state label next → property next)
    {state : State} (reachable : system.Reachable state) : property state := by
  induction reachable with
  | initial starts => exact initially _ starts
  | step _ steps inductionHypothesis => exact preserved _ _ _ inductionHypothesis steps

/-- The indexed rule: the property may speak about the part of the run already behind it. -/
theorem Run.indexed_invariant (run : system.Run) (property : Nat → Prop) (initially : property 0)
    (preserved : ∀ index, index < run.length → property index → property (index + 1)) :
    ∀ index, index ≤ run.length → property index := by
  intro index bound
  induction index with
  | zero => exact initially
  | succ index inductionHypothesis =>
    exact preserved index (by omega) (inductionHypothesis (by omega))

theorem Run.reachable (run : system.Run) (index : Nat) (bound : index ≤ run.length) :
    system.Reachable (run.state index) := by
  refine run.indexed_invariant (fun index => system.Reachable (run.state index))
    (.initial run.starts) ?_ index bound
  intro index bound reachable
  exact .step reachable (run.steps index bound)

theorem Run.invariant (run : system.Run) (property : State → Prop)
    (initially : ∀ state, system.initial state → property state)
    (preserved : ∀ state label next, property state → system.step state label next → property next)
    (index : Nat) (bound : index ≤ run.length) : property (run.state index) :=
  (run.reachable index bound).invariant property initially preserved

/-- Every step of the run is taken in a state and with a label that satisfy the condition. -/
def Run.Meets (run : system.Run) (condition : State → Label → Prop) : Prop :=
  ∀ index, index < run.length → condition (run.state index) (run.label index)

theorem Run.invariant_of_meets (run : system.Run) {condition : State → Label → Prop}
    (meets : run.Meets condition) (property : State → Prop)
    (initially : ∀ state, system.initial state → property state)
    (preserved : ∀ state label next, property state → condition state label →
      system.step state label next → property next)
    (index : Nat) (bound : index ≤ run.length) : property (run.state index) := by
  refine run.indexed_invariant (fun index => property (run.state index))
    (initially _ run.starts) ?_ index bound
  intro index bound holds
  exact preserved _ _ _ holds (meets index bound) (run.steps index bound)

/-! ## Properties that stay true -/

theorem Run.stays (run : system.Run) (property : State → Prop) {first last : Nat}
    (order : first ≤ last) (bound : last ≤ run.length)
    (preserved : ∀ index, first ≤ index → index < last → property (run.state index) →
      property (run.state (index + 1)))
    (holds : property (run.state first)) : property (run.state last) := by
  induction last, order using Nat.le_induction with
  | base => exact holds
  | succ last order inductionHypothesis =>
    apply preserved last order (by omega)
    apply inductionHypothesis (by omega)
    intro index after before
    exact preserved index after (by omega)

/-- A property that every step keeps holds from the moment it is established. -/
theorem Run.stable (run : system.Run) (property : State → Prop)
    (preserved : ∀ state label next, property state → system.step state label next → property next)
    {first last : Nat} (order : first ≤ last) (bound : last ≤ run.length)
    (holds : property (run.state first)) : property (run.state last) :=
  run.stays property order bound
    (fun index _ before holds => preserved _ _ _ holds (run.steps index (by omega))) holds

/-- The last step at which a property became true: it holds from there on. -/
theorem Run.entered (run : system.Run) (property : State → Prop) {last : Nat}
    (bound : last ≤ run.length) (initially : ¬ property (run.state 0))
    (holds : property (run.state last)) :
    ∃ entry, entry < last ∧ ¬ property (run.state entry) ∧
      ∀ index, entry < index → index ≤ last → property (run.state index) := by
  induction last with
  | zero => exact absurd holds initially
  | succ last inductionHypothesis =>
    by_cases before : property (run.state last)
    · obtain ⟨entry, entryBefore, outside, inside⟩ := inductionHypothesis (by omega) before
      refine ⟨entry, by omega, outside, ?_⟩
      intro index after order
      cases Nat.lt_or_ge last index with
      | inl isLast =>
        have equal : index = last + 1 := by omega
        exact equal ▸ holds
      | inr earlier => exact inside index after earlier
    · refine ⟨last, by omega, before, ?_⟩
      intro index after order
      have equal : index = last + 1 := by omega
      exact equal ▸ holds

/-! ## Parts of a system -/

section Parts

variable {PartState : Type*} {PartLabel : Type*} {part : TransitionSystem PartState PartLabel}

/-- What a part of the system goes through, when every step of the system is one of its steps. -/
def Run.project (run : system.Run) (view : State → PartState) (relabel : State → Label → PartLabel)
    (initially : ∀ state, system.initial state → part.initial (view state))
    (steps : ∀ state label next, system.step state label next →
      part.step (view state) (relabel state label) (view next)) : part.Run where
  length := run.length
  state index := view (run.state index)
  label index := relabel (run.state index) (run.label index)
  starts := initially _ run.starts
  steps index bound := steps _ _ _ (run.steps index bound)

/-- A part that every step either leaves alone or moves by one of its own steps is reachable for itself. -/
theorem Reachable.project (view : State → PartState)
    (initially : ∀ state, system.initial state → part.initial (view state))
    (steps : ∀ state label next, system.Reachable state → part.Reachable (view state) →
      system.step state label next →
      view next = view state ∨ ∃ relabelled, part.step (view state) relabelled (view next))
    {state : State} (reachable : system.Reachable state) : part.Reachable (view state) := by
  induction reachable with
  | initial starts => exact .initial (initially _ starts)
  | step reached taken inductionHypothesis =>
    rcases steps _ _ _ reached inductionHypothesis taken with same | ⟨_, moved⟩
    · exact same ▸ inductionHypothesis
    · exact .step inductionHypothesis moved

end Parts

/-! ## Counting steps -/

/-- How many of the first `index` steps change the state in the given way. -/
noncomputable def Run.count (run : system.Run) (changes : State → State → Prop) : Nat → Nat
  | 0 => 0
  | index + 1 => run.count changes index +
      open Classical in if changes (run.state index) (run.state (index + 1)) then 1 else 0

theorem Run.count_succ_of_changes (run : system.Run) {changes : State → State → Prop} {index : Nat}
    (changed : changes (run.state index) (run.state (index + 1))) :
    run.count changes (index + 1) = run.count changes index + 1 := by
  simp [Run.count, changed]

theorem Run.count_succ_of_not_changes (run : system.Run) {changes : State → State → Prop}
    {index : Nat} (unchanged : ¬ changes (run.state index) (run.state (index + 1))) :
    run.count changes (index + 1) = run.count changes index := by
  simp [Run.count, unchanged]

theorem Run.count_le (run : system.Run) (changes : State → State → Prop) (index : Nat) :
    run.count changes index ≤ index := by
  induction index with
  | zero => exact Nat.le_refl _
  | succ index inductionHypothesis =>
    simp only [Run.count]
    split <;> omega

theorem Run.count_mono (run : system.Run) (changes : State → State → Prop) {first last : Nat}
    (order : first ≤ last) : run.count changes first ≤ run.count changes last := by
  induction last, order using Nat.le_induction with
  | base => exact Nat.le_refl _
  | succ last order inductionHypothesis =>
    exact Nat.le_trans inductionHypothesis (Nat.le_add_right _ _)

/-! ## Systems given by a partial step function -/

def ofPartial (initial : State → Prop) (next : State → Label → Option State) :
    TransitionSystem State Label where
  initial := initial
  step state label result := next state label = some result

theorem reachable_of_labels {initial : State → Prop} {next : State → Label → Option State}
    {start final : State} (reachable : (ofPartial initial next).Reachable start) (labels : List Label)
    (evaluates : labels.foldlM next start = some final) : (ofPartial initial next).Reachable final := by
  induction labels generalizing start with
  | nil =>
    cases evaluates
    exact reachable
  | cons label rest inductionHypothesis =>
    obtain ⟨middle, steps, evaluates⟩ := Option.bind_eq_some_iff.mp evaluates
    exact inductionHypothesis (.step reachable steps) evaluates

/-- The run that takes the steps of a list of labels, all of which are enabled. -/
def runOfLabels [Inhabited Label] {initial : State → Prop} {next : State → Label → Option State}
    (start : State) (starts : initial start) (labels : List Label)
    (enabled : (labels.foldlM next start).isSome = true) : (ofPartial initial next).Run where
  length := labels.length
  state index := ((labels.take index).foldlM next start).getD start
  label index := labels.getD index default
  starts := by
    change initial _
    simpa using starts
  steps := by
    intro index bound
    obtain ⟨final, evaluates⟩ := Option.isSome_iff_exists.mp enabled
    rw [← List.take_append_drop index labels, List.foldlM_append,
      List.drop_eq_getElem_cons bound] at evaluates
    simp only [List.foldlM_cons, Option.bind_eq_bind, Option.bind_eq_some_iff] at evaluates
    obtain ⟨state, reached, after, steps, _⟩ := evaluates
    change next _ (labels.getD index default) = some _
    rw [List.getD_eq_getElem _ _ bound, List.take_succ_eq_append_getElem bound, List.foldlM_append,
      reached]
    simp [steps]

/-! ## Systems given by a total step function -/

def ofTotal (initial : State → Prop) (next : State → Label → State) :
    TransitionSystem State Label where
  initial := initial
  step state label result := result = next state label

theorem reachable_foldl {initial : State → Prop} {next : State → Label → State} {start : State}
    (reachable : (ofTotal initial next).Reachable start) (labels : List Label) :
    (ofTotal initial next).Reachable (labels.foldl next start) := by
  induction labels generalizing start with
  | nil => exact reachable
  | cons label rest inductionHypothesis => exact inductionHypothesis (.step reachable rfl)

/-- Every step of a list of labels is taken in a state and with a label that satisfy the condition. -/
def Throughout (next : State → Label → State) (condition : State → Label → Prop) :
    State → List Label → Prop
  | _, [] => True
  | state, label :: labels => condition state label ∧ Throughout next condition (next state label) labels

theorem throughout_append {next : State → Label → State} {condition : State → Label → Prop}
    {state : State} {first second : List Label} :
    Throughout next condition state (first ++ second) ↔
      Throughout next condition state first ∧ Throughout next condition (first.foldl next state) second := by
  induction first generalizing state with
  | nil => simp [Throughout]
  | cons label first inductionHypothesis => simp [Throughout, inductionHypothesis, and_assoc]

/-- How many steps of a list of labels are of a kind. -/
def countSteps (next : State → Label → State) (kind : State → Label → Bool) : State → List Label → Nat
  | _, [] => 0
  | state, label :: labels =>
    (if kind state label then 1 else 0) + countSteps next kind (next state label) labels

/-- The run that takes the steps of a list of labels. -/
def totalRun [Inhabited Label] (initial : State → Prop) (next : State → Label → State)
    (start : State) (starts : initial start) (labels : List Label) : (ofTotal initial next).Run where
  length := labels.length
  state index := (labels.take index).foldl next start
  label index := labels.getD index default
  starts := by
    change initial _
    simpa using starts
  steps := by
    intro index bound
    change _ = next _ (labels.getD index default)
    rw [List.getD_eq_getElem _ _ bound, List.take_succ_eq_append_getElem bound, List.foldl_append]
    rfl

theorem totalRun_meets [Inhabited Label] {initial : State → Prop} {next : State → Label → State}
    {start : State} (starts : initial start) {labels : List Label} {condition : Label → Prop}
    (each : ∀ label ∈ labels, condition label) :
    (totalRun initial next start starts labels).Meets fun _ label => condition label := by
  intro index bound
  change condition (labels.getD index default)
  rw [List.getD_eq_getElem _ _ bound]
  exact each _ (List.getElem_mem bound)

end TransitionSystem

end Foundations
