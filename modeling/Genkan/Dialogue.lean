import Genkan.Conversation
import Genkan.Foundations.TransitionSystem

/-! # Runs of a conversation

The buffered response is bounded, it is held only while a prompt waits for it, and what `submit`
returns was typed after the last event that cleared it.
-/

namespace Genkan

open Foundations Foundations.TransitionSystem

/-! ## Bounded text -/

theorem appendCharacters_bounded (value : List Char) {characters : Nat} {target : String}
    (counted : characters = target.length) (short : target.length ≤ maxTextChars)
    (small : target.utf8ByteSize ≤ maxInputBytes) :
    (appendCharacters characters target value).length ≤ maxTextChars ∧
      (appendCharacters characters target value).utf8ByteSize ≤ maxInputBytes := by
  induction value generalizing characters target with
  | nil => exact ⟨short, small⟩
  | cons character value inductionHypothesis =>
    simp only [appendCharacters]
    split
    next => exact ⟨short, small⟩
    next fits =>
      simp only [not_or, Nat.not_lt] at fits
      apply inductionHypothesis
      · rw [String.length_push, counted]
      · rw [String.length_push]
        omega
      · rw [String.utf8ByteSize_push]
        exact fits.2

theorem boundedText_length (value : String) : (boundedText value).length ≤ maxTextChars := by
  have taken : (value.toList.take maxTextChars).length ≤ maxTextChars := List.length_take_le ..
  simp only [boundedText]
  split
  next => rw [String.length_ofList]; exact taken
  next =>
    have positive : 0 < maxTextChars := by decide
    rw [String.length_ofList, List.length_append, List.length_dropLast, List.length_singleton]
    omega

theorem cleanPrompt_length (prompt : String) : (cleanPrompt prompt).length ≤ maxTextChars := by
  rw [cleanPrompt]
  exact boundedText_length _

theorem password_length : "Password".length ≤ maxTextChars := by decide +kernel

theorem dropLast_bounded (input : String) :
    (String.ofList input.toList.dropLast).length ≤ input.length ∧
      (String.ofList input.toList.dropLast).utf8ByteSize ≤ input.utf8ByteSize := by
  obtain isNil | ⟨before, last, isInput⟩ := List.eq_nil_or_concat input.toList
  · have isEmpty : input = "" := by rw [← String.ofList_toList (s := input), isNil]
    subst isEmpty
    exact ⟨Nat.le_refl _, Nat.le_refl _⟩
  · rw [List.concat_eq_append] at isInput
    have whole : input = String.ofList before ++ String.ofList [last] := by
      rw [← String.ofList_append, ← isInput, String.ofList_toList]
    rw [isInput, List.dropLast_concat, whole, String.length_append, String.utf8ByteSize_append]
    exact ⟨Nat.le_add_right _ _, Nat.le_add_right _ _⟩

/-! ## Operations -/

inductive Operation where
  | beginAttempt
  | invalidateAttempt
  | updateInput (value : String)
  | pushInput (value : String)
  | popInput
  | submit
  | receive (attempt : Attempt) (response : Response)
  | fail (message : String)
  | setNotice (message : String) (error : Bool)
  deriving DecidableEq, Repr

namespace Conversation

def perform (conversation : Conversation) : Operation → Conversation
  | .beginAttempt => conversation.beginAttempt.1
  | .invalidateAttempt => conversation.invalidateAttempt
  | .updateInput value => (conversation.updateInput value).1
  | .pushInput value => (conversation.pushInput value).1
  | .popInput => conversation.popInput.1
  | .submit => conversation.submit.1
  | .receive attempt response => (conversation.receive attempt response).1
  | .fail message => conversation.fail message
  | .setNotice message error => conversation.setNotice message error

/-- The operation hands a response out. -/
def answers (conversation : Conversation) : Operation → Bool
  | .submit => conversation.submit.2.isSome
  | _ => false

/-- The operation is a prompt that the conversation accepts. -/
def prompts (conversation : Conversation) : Operation → Bool
  | .receive attempt (.prompt _ _) => conversation.accepts attempt
  | _ => false

/-- The operation is a prompt or a failure that the conversation accepts, or changes the attempt. -/
def renews (conversation : Conversation) : Operation → Bool
  | .beginAttempt | .invalidateAttempt | .fail _ => true
  | .receive attempt (.prompt _ _) | .receive attempt (.failure _) => conversation.accepts attempt
  | _ => false

def run (operations : List Operation) : Conversation := operations.foldl perform new

/-! ## Bounds -/

structure Bounded (conversation : Conversation) : Prop where
  characters : conversation.input.length ≤ maxTextChars
  bytes : conversation.input.utf8ByteSize ≤ maxInputBytes
  waiting : conversation.input ≠ "" → conversation.status = .waiting
  prompt : conversation.prompt.length ≤ maxTextChars
  notice : ∀ message, conversation.message = some message → message.length ≤ maxTextChars

/-- Whatever else an operation changes, a cleared response is within its bounds. -/
theorem bounded_of_cleared {conversation : Conversation} (cleared : conversation.input = "")
    (prompt : conversation.prompt.length ≤ maxTextChars)
    (notice : ∀ message, conversation.message = some message → message.length ≤ maxTextChars) :
    conversation.Bounded where
  characters := by rw [cleared]; exact Nat.zero_le _
  bytes := by rw [cleared]; exact Nat.zero_le _
  waiting := fun holds => absurd cleared holds
  prompt := prompt
  notice := notice

theorem bounded_of_edited {conversation : Conversation} (bounded : conversation.Bounded)
    (waiting : conversation.status = .waiting) {input : String} (characters : input.length ≤ maxTextChars)
    (bytes : input.utf8ByteSize ≤ maxInputBytes) : { conversation with input := input }.Bounded where
  characters := characters
  bytes := bytes
  waiting := fun _ => waiting
  prompt := bounded.prompt
  notice := bounded.notice

theorem Bounded.setNotice {conversation : Conversation} (bounded : conversation.Bounded)
    (message : String) (error : Bool) : (conversation.setNotice message error).Bounded where
  characters := bounded.characters
  bytes := bounded.bytes
  waiting := bounded.waiting
  prompt := bounded.prompt
  notice := by
    intro notice isNotice
    cases isNotice
    exact boundedText_length message

theorem Bounded.receive {conversation : Conversation} (bounded : conversation.Bounded)
    (attempt : Attempt) (response : Response) : (conversation.receive attempt response).1.Bounded := by
  simp only [Conversation.receive]
  split
  next => exact bounded
  next =>
    cases response with
    | prompt secret message =>
      refine bounded_of_cleared rfl ?_ bounded.notice
      dsimp only
      exact cleanPrompt_length message
    | notice error message => exact bounded.setNotice message error
    | success =>
      refine bounded_of_cleared rfl bounded.prompt ?_
      simp [clearNotice]
    | failure message =>
      refine bounded_of_cleared rfl password_length ?_
      intro notice isNotice
      cases isNotice
      exact boundedText_length message

theorem Bounded.performed {conversation : Conversation} (bounded : conversation.Bounded)
    (operation : Operation) : (conversation.perform operation).Bounded := by
  cases operation with
  | beginAttempt =>
    simp only [perform, Conversation.beginAttempt, clearNotice]
    exact bounded_of_cleared rfl bounded.prompt (by simp)
  | invalidateAttempt =>
    simp only [perform, Conversation.invalidateAttempt, clearResponse]
    exact bounded_of_cleared rfl bounded.prompt bounded.notice
  | updateInput value =>
    simp only [perform, Conversation.updateInput]
    split
    next => exact bounded
    next waiting =>
      obtain ⟨characters, bytes⟩ := appendCharacters_bounded value.toList
        (show 0 = "".length from rfl) (Nat.zero_le _) (Nat.zero_le _)
      exact bounded_of_edited bounded (by simpa using waiting) characters bytes
  | pushInput value =>
    simp only [perform, Conversation.pushInput]
    split
    next => exact bounded
    next waiting =>
      obtain ⟨characters, bytes⟩ := appendCharacters_bounded value.toList rfl bounded.characters bounded.bytes
      exact bounded_of_edited bounded (by simpa using waiting) characters bytes
  | popInput =>
    simp only [perform, Conversation.popInput]
    split
    next => exact bounded
    next waiting =>
      split
      next => exact bounded
      next =>
        obtain ⟨characters, bytes⟩ := dropLast_bounded conversation.input
        exact bounded_of_edited bounded (by simpa using waiting) (Nat.le_trans characters bounded.characters)
          (Nat.le_trans bytes bounded.bytes)
  | submit =>
    simp only [perform, Conversation.submit]
    split
    next => exact bounded
    next => exact bounded_of_cleared rfl bounded.prompt bounded.notice
  | receive attempt response => exact bounded.receive attempt response
  | fail message => exact bounded.receive conversation.attempt (.failure message)
  | setNotice message error => exact bounded.setNotice message error

theorem run_bounded (operations : List Operation) : (run operations).Bounded := by
  induction operations using List.reverseRecOn with
  | nil => exact bounded_of_cleared rfl password_length (by simp [run, new])
  | append_singleton operations operation inductionHypothesis =>
    rw [run, List.foldl_concat]
    exact inductionHypothesis.performed operation

/-! ## Stale results -/

theorem receive_stale {conversation : Conversation} {attempt : Attempt}
    (stale : conversation.accepts attempt = false) (response : Response) :
    conversation.receive attempt response = (conversation, none) := by
  simp [receive, stale]

/-! ## Answers -/

/-- A conversation waits for a response only since a prompt. -/
theorem waiting_of_performed {conversation : Conversation} {operation : Operation}
    (silent : conversation.prompts operation = false)
    (waiting : (conversation.perform operation).status = .waiting) :
    conversation.status = .waiting ∧ conversation.answers operation = false := by
  cases operation with
  | beginAttempt => simp [perform, beginAttempt, clearResponse, clearNotice] at waiting
  | invalidateAttempt => exact ⟨waiting, rfl⟩
  | updateInput value =>
    simp only [perform, updateInput] at waiting
    split at waiting <;> exact ⟨waiting, rfl⟩
  | pushInput value =>
    simp only [perform, pushInput_kept] at waiting
    exact ⟨waiting, rfl⟩
  | popInput =>
    simp only [perform, popInput_kept] at waiting
    exact ⟨waiting, rfl⟩
  | submit =>
    simp only [perform, submit] at waiting
    split at waiting
    next other => exact absurd waiting other
    next => simp at waiting
  | receive attempt response =>
    simp only [perform, receive] at waiting
    split at waiting
    next => exact ⟨waiting, rfl⟩
    next current =>
      cases response with
      | prompt secret message =>
        simp only [prompts] at silent
        simp [silent] at current
      | notice error message => exact ⟨waiting, rfl⟩
      | success => simp at waiting
      | failure message => simp at waiting
  | fail message => simp [perform] at waiting
  | setNotice message error => exact ⟨waiting, rfl⟩

theorem waiting_of_answers {conversation : Conversation} {operation : Operation}
    (answers : conversation.answers operation = true) : conversation.status = .waiting := by
  cases operation with
  | submit =>
    simp only [Conversation.answers, submit] at answers
    split at answers
    next => simp at answers
    next waiting => simpa using waiting
  | _ => simp [Conversation.answers] at answers

/-- Without a prompt at most one response is handed out, and only to a prompt that waits. -/
theorem answers_bound (conversation : Conversation) (operations : List Operation)
    (silent : Throughout perform (fun state operation => state.prompts operation = false) conversation
      operations) :
    countSteps perform answers conversation operations ≤ if conversation.status = .waiting then 1 else 0 := by
  induction operations generalizing conversation with
  | nil => exact Nat.zero_le _
  | cons operation operations inductionHypothesis =>
    obtain ⟨quiet, rest⟩ := silent
    have later := inductionHypothesis _ rest
    simp only [countSteps]
    by_cases still : (conversation.perform operation).status = .waiting
    · obtain ⟨waiting, unanswered⟩ := waiting_of_performed quiet still
      simpa [waiting, unanswered, still] using later
    · rw [if_neg still] at later
      by_cases answered : conversation.answers operation = true
      · rw [if_pos (waiting_of_answers answered), if_pos answered]
        omega
      · rw [if_neg answered]
        omega

/-! ## The text of a response -/

/-- What an operation makes of a response that is being typed. -/
def edit (input : String) : Operation → String
  | .updateInput value => appendBounded "" value
  | .pushInput value => appendBounded input value
  | .popInput => .ofList input.toList.dropLast
  | _ => input

def typed (operations : List Operation) : String := operations.foldl edit ""

theorem input_of_renews {conversation : Conversation} {operation : Operation}
    (renews : conversation.renews operation = true) : (conversation.perform operation).input = "" := by
  cases operation with
  | beginAttempt | invalidateAttempt => rfl
  | fail message => simp [perform, fail, receive, accepts, setNotice, clearResponse]
  | receive attempt response =>
    cases response with
    | prompt secret message => simp_all [Conversation.renews, perform, receive, clearResponse]
    | failure message => simp_all [Conversation.renews, perform, receive, setNotice, clearResponse]
    | notice error message | success => simp [Conversation.renews] at renews
  | _ => simp [Conversation.renews] at renews

theorem input_of_edited {conversation : Conversation} {operation : Operation}
    (kept : conversation.renews operation = false) (waiting : conversation.status = .waiting)
    (still : (conversation.perform operation).status = .waiting) :
    (conversation.perform operation).input = edit conversation.input operation := by
  cases operation with
  | beginAttempt | invalidateAttempt | fail message => simp [renews] at kept
  | updateInput value => simp [perform, updateInput, waiting, edit, clearResponse]
  | pushInput value => simp [perform, pushInput, waiting, edit]
  | popInput =>
    simp only [perform, popInput, waiting, edit]
    split
    next empty => contradiction
    next =>
      split
      next empty =>
        have isNil : conversation.input.toList = [] := by simpa using empty
        rw [isNil, List.dropLast_nil, ← isNil, String.ofList_toList]
      next => rfl
  | submit => simp [perform, submit, waiting] at still
  | receive attempt response =>
    simp only [perform, receive] at still ⊢
    split
    next => rfl
    next current =>
      rw [if_neg current] at still
      cases response with
      | prompt secret message =>
        simp only [renews] at kept
        simp [kept] at current
      | notice error message => rfl
      | success => simp at still
      | failure message => simp at still
  | setNotice message error => rfl

theorem renews_of_prompts {conversation : Conversation} {operation : Operation}
    (kept : conversation.renews operation = false) : conversation.prompts operation = false := by
  cases operation with
  | receive attempt response =>
    cases response with
    | prompt secret message => exact kept
    | _ => rfl
  | _ => rfl

/-- The operations since the last one that renewed the conversation. -/
structure Since (operations before : List Operation) (renewal : Operation) (after : List Operation) :
    Prop where
  whole : operations = before ++ renewal :: after
  renews : (run before).renews renewal = true
  kept : Throughout perform (fun state operation => state.renews operation = false)
    ((run before).perform renewal) after

/-- While a prompt waits, the buffer holds what was typed since the last renewal. -/
theorem input_typed (operations : List Operation) (waiting : (run operations).status = .waiting) :
    ∃ before renewal after, Since operations before renewal after ∧
      (run operations).input = typed after := by
  -- From the end of the run, the operations go back to the last one that renews the input.
  induction operations using List.reverseRecOn with
  | nil => simp [run, new] at waiting
  | append_singleton operations operation inductionHypothesis =>
    have steps : run (operations ++ [operation]) = (run operations).perform operation := by
      rw [run, List.foldl_concat]
      rfl
    rw [steps] at waiting ⊢
    by_cases renewed : (run operations).renews operation = true
    · exact ⟨operations, operation, [], ⟨rfl, renewed, trivial⟩, input_of_renews renewed⟩
    · have kept : (run operations).renews operation = false := by simpa using renewed
      obtain ⟨before_waiting, _⟩ := waiting_of_performed (renews_of_prompts kept) waiting
      obtain ⟨before, renewal, after, since, isTyped⟩ := inductionHypothesis before_waiting
      refine ⟨before, renewal, after ++ [operation], ⟨?_, since.renews, ?_⟩, ?_⟩
      · rw [since.whole, List.append_assoc, List.cons_append]
      · rw [throughout_append]
        refine ⟨since.kept, ?_, trivial⟩
        have reached : after.foldl perform ((run before).perform renewal) = run operations := by
          rw [since.whole, run, run, List.foldl_append, List.foldl_cons]
        rw [reached]
        exact kept
      · rw [input_of_edited kept before_waiting waiting, isTyped, typed, typed, List.foldl_concat]

/-- The conversation keeps its bounds, ignores stale results, answers each prompt at most once, and
answers it with what was typed since it was asked. -/
theorem conversation_keeps :
    (∀ operations, (run operations).Bounded) ∧
    (∀ conversation attempt response, accepts conversation attempt = false →
      conversation.receive attempt response = (conversation, none)) ∧
    (∀ before operations,
      Throughout perform (fun state operation => state.prompts operation = false) (run before) operations →
        countSteps perform answers (run before) operations ≤ 1) ∧
    ∀ operations attempt text, (run operations).submit.2 = some (attempt, text) →
      ∃ before renewal after, Since operations before renewal after ∧ text = typed after := by
  refine ⟨run_bounded, fun _ _ response stale => receive_stale stale response, ?_, ?_⟩
  · intro before operations silent
    have bound := answers_bound (run before) operations silent
    split at bound <;> omega
  · intro operations attempt text submitted
    simp only [submit] at submitted
    split at submitted
    next => contradiction
    next other =>
      have waiting : (run operations).status = .waiting := by simpa using other
      obtain ⟨before, renewal, after, since, isTyped⟩ := input_typed operations waiting
      cases submitted
      exact ⟨before, renewal, after, since, isTyped⟩

end Conversation

end Genkan
