/-! # Programs that ask and wait

A program is a tree: it is done, or it asks something and goes on with the answer, whatever that is.  A
protocol says what may be asked in each of its states, and how a question with its answer moves it on.  A
program follows a protocol when it asks only what it may, and the rules below follow the shape of the
program, so that a program made of parts is judged part by part.
-/

namespace Foundations

universe u v w

inductive Interaction {Query : Type u} (Answer : Query → Type v) (Result : Type v) where
  | done (result : Result)
  | ask (query : Query) (next : Answer query → Interaction Answer Result)

namespace Interaction

variable {Query : Type u} {Answer : Query → Type v} {Result Other : Type v}

def bind (program : Interaction Answer Result) (next : Result → Interaction Answer Other) :
    Interaction Answer Other :=
  match program with
  | .done result => next result
  | .ask query rest => .ask query fun answer => (rest answer).bind next

instance : Monad (Interaction Answer) where
  pure := .done
  bind := bind

end Interaction

/-! ## Protocols -/

structure Protocol (Query : Type u) (Answer : Query → Type v) (State : Type w) where
  allows : State → Query → Prop
  advance : State → (query : Query) → Answer query → State

namespace Interaction

variable {Query : Type u} {Answer : Query → Type v} {Result Other : Type v} {State : Type w}
  {protocol : Protocol Query Answer State}

/-- From the state on, only what is allowed is asked, and the end meets the condition. -/
def Follows (protocol : Protocol Query Answer State) (ends : Result → State → Prop) :
    Interaction Answer Result → State → Prop
  | .done result, state => ends result state
  | .ask query next, state =>
    protocol.allows state query ∧
      ∀ answer, (next answer).Follows protocol ends (protocol.advance state query answer)

@[simp] theorem follows_pure {ends : Result → State → Prop} {result : Result} {state : State} :
    (pure result : Interaction Answer Result).Follows protocol ends state ↔ ends result state := Iff.rfl

/-- What follows has to hold at every end of what comes first. -/
theorem follows_bind {program : Interaction Answer Result} {next : Result → Interaction Answer Other}
    {ends : Other → State → Prop} {state : State} :
    (program >>= next).Follows protocol ends state ↔
      program.Follows protocol (fun result => (next result).Follows protocol ends) state := by
  change (program.bind next).Follows protocol ends state ↔ _
  induction program generalizing state with
  | done result => exact Iff.rfl
  | ask query rest inductionHypothesis =>
    simp only [bind, Follows]
    exact and_congr_right fun _ => forall_congr' fun answer => inductionHypothesis answer

theorem Follows.mono {program : Interaction Answer Result} {ends weaker : Result → State → Prop}
    {state : State} (follows : program.Follows protocol ends state)
    (weakens : ∀ result state, ends result state → weaker result state) :
    program.Follows protocol weaker state := by
  induction program generalizing state with
  | done result => exact weakens result state follows
  | ask query rest inductionHypothesis =>
    exact ⟨follows.1, fun answer => inductionHypothesis answer (follows.2 answer)⟩

theorem Follows.bind {program : Interaction Answer Result} {next : Result → Interaction Answer Other}
    {middle : Result → State → Prop} {ends : Other → State → Prop} {state : State}
    (follows : program.Follows protocol middle state)
    (goesOn : ∀ result state, middle result state → (next result).Follows protocol ends state) :
    (program >>= next).Follows protocol ends state :=
  follows_bind.mpr (follows.mono goesOn)

/-! ## Handlers -/

/-- Every question is answered by a handler that keeps a state. -/
def run (handler : State → (query : Query) → State × Answer query) :
    Interaction Answer Result → State → State × Result
  | .done result, state => (state, result)
  | .ask query next, state => (next (handler state query).2).run handler (handler state query).1

/-- What every answer does to the state, the program does. -/
theorem run_related {related : State → State → Prop} (refl : ∀ state, related state state)
    (trans : ∀ first second third, related first second → related second third → related first third)
    {handler : State → (query : Query) → State × Answer query}
    (handles : ∀ state query, related state (handler state query).1)
    (program : Interaction Answer Result) (state : State) : related state (program.run handler state).1 := by
  induction program generalizing state with
  | done result => exact refl state
  | ask query next inductionHypothesis =>
    rw [run]
    exact trans _ _ _ (handles state query) (inductionHypothesis _ _)

end Interaction

end Foundations
