import Mathlib.Data.List.Forall2

/-! # Computations that may fail -/

namespace Foundations.Results

universe u v

variable {Error : Type u} {α β : Type v}

/-- A sequence succeeds when both of its parts do. -/
theorem bind_eq_ok {first : Except Error α} {next : α → Except Error β} {result : β} :
    first >>= next = .ok result ↔ ∃ value, first = .ok value ∧ next value = .ok result := by
  cases first with
  | error error =>
    constructor
    · intro fails
      cases fails
    · intro succeeds
      obtain ⟨_, isOk, _⟩ := succeeds
      cases isOk
  | ok value =>
    constructor
    · intro continues
      exact ⟨value, rfl, continues⟩
    · intro succeeds
      obtain ⟨_, isOk, continues⟩ := succeeds
      cases isOk
      exact continues

theorem ok_bind (value : α) (next : α → Except Error β) : (Except.ok value >>= next) = next value := rfl

theorem pure_eq_ok {value result : α} :
    (pure value : Except Error α) = .ok result ↔ value = result := by
  constructor
  · intro same
    exact Except.ok.inj same
  · intro same
    rw [same]
    rfl

theorem toOption_eq_some {result : Except Error α} {value : α} :
    result.toOption = some value ↔ result = .ok value := by
  cases result with
  | error error => simp [Except.toOption]
  | ok found => simp [Except.toOption]

/-- A relation that every step keeps and that composes relates the ends of a fold. -/
theorem foldlM_related {State : Type v} {step : State → α → Except Error State}
    (related : State → State → Prop) (reflexive : ∀ state, related state state)
    (transitive : ∀ first second third, related first second → related second third →
      related first third)
    (steps : ∀ state item next, step state item = .ok next → related state next)
    (items : List α) {start final : State} (folds : items.foldlM step start = .ok final) :
    related start final := by
  induction items generalizing start with
  | nil =>
    have same : start = final := Except.ok.inj folds
    exact same ▸ reflexive start
  | cons item items inductionHypothesis =>
    obtain ⟨next, isNext, folds⟩ := bind_eq_ok.mp folds
    exact transitive _ _ _ (steps _ _ _ isNext) (inductionHypothesis folds)

/-- A list of computations, each of which accepts some items and then yields a known value. -/
theorem mapM_eq_ok {compute : α → Except Error β} {accepts : α → Prop} {value : α → β}
    {items : List α} {results : List β}
    (each : ∀ item ∈ items, ∀ result, compute item = .ok result ↔ accepts item ∧ result = value item) :
    items.mapM compute = .ok results ↔ (∀ item ∈ items, accepts item) ∧ results = items.map value := by
  induction items generalizing results with
  | nil =>
    simp only [List.mapM_nil, List.map_nil, List.not_mem_nil, false_implies, implies_true, true_and]
    constructor
    · intro isNil
      exact (Except.ok.inj isNil).symm
    · intro isNil
      rw [isNil]
      rfl
  | cons item items inductionHypothesis =>
    have first := each item List.mem_cons_self
    have others : items.mapM compute = .ok (items.map value) ↔ ∀ item ∈ items, accepts item := by
      rw [inductionHypothesis fun later member => each later (List.mem_cons_of_mem _ member)]
      exact and_iff_left rfl
    rw [List.mapM_cons, bind_eq_ok, List.map_cons, List.forall_mem_cons]
    constructor
    · intro succeeds
      obtain ⟨result, isResult, continues⟩ := succeeds
      obtain ⟨rest, isRest, isResults⟩ := bind_eq_ok.mp continues
      obtain ⟨acceptsRest, restValue⟩ :=
        (inductionHypothesis fun later member => each later (List.mem_cons_of_mem _ member)).mp isRest
      obtain ⟨accepted, resultValue⟩ := (first result).mp isResult
      have isWhole := Except.ok.inj isResults
      rw [← isWhole, resultValue, restValue]
      exact ⟨⟨accepted, acceptsRest⟩, rfl⟩
    · intro accepted
      obtain ⟨⟨acceptsItem, acceptsRest⟩, isResults⟩ := accepted
      refine ⟨value item, (first _).mpr ⟨acceptsItem, rfl⟩, ?_⟩
      rw [others.mpr acceptsRest, isResults]
      rfl

/-! ## Computing on every item of a list -/

theorem mapM_ok {compute : α → Except Error β} {items : List α} {results : List β}
    (computes : items.mapM compute = .ok results) :
    List.Forall₂ (fun item result => compute item = .ok result) items results := by
  induction items generalizing results with
  | nil =>
    have isNil : [] = results := Except.ok.inj computes
    exact isNil ▸ .nil
  | cons item items inductionHypothesis =>
    rw [List.mapM_cons] at computes
    obtain ⟨result, isResult, continues⟩ := bind_eq_ok.mp computes
    obtain ⟨rest, isRest, isWhole⟩ := bind_eq_ok.mp continues
    rw [← pure_eq_ok.mp isWhole]
    exact .cons isResult (inductionHypothesis isRest)

/-- Every result is that of an item. -/
theorem mem_of_mapM {compute : α → Except Error β} {items : List α} {results : List β}
    (computes : items.mapM compute = .ok results) {result : β} (member : result ∈ results) :
    ∃ item ∈ items, compute item = .ok result := by
  have related := mapM_ok computes
  clear computes
  induction related with
  | nil => cases member
  | @cons item first items results isFirst _ inductionHypothesis =>
    cases List.mem_cons.mp member with
    | inl isResult => exact ⟨item, List.mem_cons_self, isResult ▸ isFirst⟩
    | inr later =>
      obtain ⟨found, isItem, isResult⟩ := inductionHypothesis later
      exact ⟨found, List.mem_cons_of_mem _ isItem, isResult⟩

theorem mapM_succeeds {compute : α → Except Error β} {items : List α}
    (each : ∀ item ∈ items, ∃ result, compute item = .ok result) :
    ∃ results, items.mapM compute = .ok results := by
  induction items with
  | nil => exact ⟨[], rfl⟩
  | cons item items inductionHypothesis =>
    obtain ⟨result, isResult⟩ := each item List.mem_cons_self
    obtain ⟨rest, isRest⟩ := inductionHypothesis fun later member => each later (List.mem_cons_of_mem _ member)
    refine ⟨result :: rest, ?_⟩
    rw [List.mapM_cons, isResult, isRest]
    rfl

/-- A loop that computes on each item and only then takes the result into its state. -/
theorem foldlM_eq_mapM {State : Type v} {compute : α → Except Error β} (take : State → β → State)
    (items : List α) (start : State) :
    (items.foldlM (fun state item => do let result ← compute item; pure (take state result)) start) =
      (do let results ← items.mapM compute; pure (results.foldl take start)) := by
  induction items generalizing start with
  | nil => rfl
  | cons item items inductionHypothesis =>
    rw [List.foldlM_cons, List.mapM_cons]
    cases isResult : compute item with
    | error error => rfl
    | ok result =>
      have continues := inductionHypothesis (take start result)
      cases isRest : items.mapM compute with
      | error error =>
        rw [isRest] at continues
        exact continues
      | ok rest =>
        rw [isRest] at continues
        exact continues

/-! ## Computations with corresponding results -/

/-- The first computation succeeds exactly when the second does, with the image of its result. -/
def Mirrors (image : α → β) (mirrored : Except Error β) (plain : Except Error α) : Prop :=
  ∀ result, mirrored = .ok result ↔ ∃ value, plain = .ok value ∧ image value = result

namespace Mirrors

variable {γ δ : Type v} {image : α → β} {mirrored : Except Error β} {plain : Except Error α}

theorem refl (plain : Except Error α) : Mirrors id plain plain := by
  intro result
  constructor
  · intro succeeds
    exact ⟨result, succeeds, rfl⟩
  · intro succeeds
    obtain ⟨value, isValue, same⟩ := succeeds
    exact same ▸ isValue

theorem pure (image : α → β) (value : α) : Mirrors image (pure (image value) : Except Error β) (pure value) := by
  intro result
  rw [pure_eq_ok]
  constructor
  · intro same
    exact ⟨value, rfl, same⟩
  · intro succeeds
    obtain ⟨found, isValue, same⟩ := succeeds
    exact pure_eq_ok.mp isValue ▸ same

theorem bind (first : Mirrors image mirrored plain) {final : γ → δ} {next : β → Except Error δ}
    {plainNext : α → Except Error γ}
    (rest : ∀ value, plain = .ok value → Mirrors final (next (image value)) (plainNext value)) :
    Mirrors final (mirrored >>= next) (plain >>= plainNext) := by
  intro result
  simp only [bind_eq_ok]
  constructor
  · intro succeeds
    obtain ⟨found, isFound, continues⟩ := succeeds
    obtain ⟨value, isValue, same⟩ := (first found).mp isFound
    obtain ⟨last, isLast, isResult⟩ := (rest value isValue result).mp (same ▸ continues)
    exact ⟨last, ⟨value, isValue, isLast⟩, isResult⟩
  · intro succeeds
    obtain ⟨last, ⟨value, isValue, isLast⟩, isResult⟩ := succeeds
    exact ⟨image value, (first _).mpr ⟨value, isValue, rfl⟩,
      (rest value isValue result).mpr ⟨last, isLast, isResult⟩⟩

/-- Computations with the same results. -/
theorem eq_ok {other : Except Error α} (mirrors : Mirrors id other plain) {result : α} :
    other = .ok result ↔ plain = .ok result := by
  rw [mirrors result]
  constructor
  · intro succeeds
    obtain ⟨value, isValue, same⟩ := succeeds
    exact same ▸ isValue
  · intro succeeds
    exact ⟨result, succeeds, rfl⟩

end Mirrors

/-! ## The errors of a computation -/

/-- Whatever error it ends with is of the kind. -/
def FailsWith (kind : Error → Prop) (result : Except Error α) : Prop :=
  ∀ error, result = .error error → kind error

namespace FailsWith

variable {kind : Error → Prop}

theorem ok (value : α) : FailsWith kind (.ok value : Except Error α) := by
  intro error fails
  cases fails

theorem error {error : Error} (holds : kind error) : FailsWith kind (.error error : Except Error α) := by
  intro other fails
  exact Except.error.inj fails ▸ holds

theorem bind {first : Except Error α} {next : α → Except Error β} (fails : FailsWith kind first)
    (rest : ∀ value, FailsWith kind (next value)) : FailsWith kind (first >>= next) := by
  cases first with
  | error error => exact .error (fails error rfl)
  | ok value => exact rest value

theorem mapError {Other : Type u} {wrap : Other → Error} (wraps : ∀ other, kind (wrap other))
    (result : Except Other α) : FailsWith kind (result.mapError wrap) := by
  cases result with
  | error other => exact .error (wraps other)
  | ok value => exact .ok value

theorem foldlM {State : Type v} {step : State → α → Except Error State}
    (each : ∀ state item, FailsWith kind (step state item)) (items : List α) (start : State) :
    FailsWith kind (items.foldlM step start) := by
  induction items generalizing start with
  | nil => exact .ok start
  | cons item items inductionHypothesis =>
    rw [List.foldlM_cons]
    exact (each start item).bind inductionHypothesis

end FailsWith

end Foundations.Results
