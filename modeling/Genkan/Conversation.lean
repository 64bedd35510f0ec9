import Genkan.Foundations.Text

/-! # A conversation with an authentication backend

The model of one authentication dialogue that the lock screen and the greeter share: the prompt,
the notice and the typed response, and the attempt whose results still count.
-/

namespace Genkan

open Foundations

def maxTextChars : Nat := 512

def maxInputBytes : Nat := maxTextChars * 4

structure Attempt where
  number : UInt64
  deriving DecidableEq, Repr

def Attempt.next (attempt : Attempt) : Attempt := { number := attempt.number + 1 }

inductive Status where
  | waiting
  | submitting
  | succeeded
  | failed
  deriving DecidableEq, Repr

inductive Response where
  | prompt (secret : Bool) (message : String)
  | notice (error : Bool) (message : String)
  | success
  | failure (message : String)
  deriving DecidableEq, Repr

inductive Effect where
  | prompt
  | notice
  | authenticated
  | failed
  deriving DecidableEq, Repr

/-! ## Bounded text -/

def appendCharacters : Nat → String → List Char → String
  | _, target, [] => target
  | characters, target, character :: rest =>
    if characters = maxTextChars ∨ target.utf8ByteSize + character.utf8Size > maxInputBytes then target
    else appendCharacters (characters + 1) (target.push character) rest

def appendBounded (target value : String) : String :=
  appendCharacters target.length target value.toList

def boundedText (value : String) : String :=
  let bounded := value.toList.take maxTextChars
  if (value.toList.drop maxTextChars).isEmpty then .ofList bounded
  else .ofList (bounded.dropLast ++ ['…'])

def cleanPrompt (prompt : String) : String :=
  let prompt := Text.trim (Text.trimEndMatches (Text.trim prompt.toList) ':')
  boundedText (if prompt.isEmpty then "Password" else .ofList prompt)

/-! ## The conversation -/

structure Conversation where
  input : String
  prompt : String
  message : Option String
  messageIsError : Bool
  secret : Bool
  status : Status
  attempt : Attempt
  deriving DecidableEq, Repr

namespace Conversation

def new : Conversation where
  input := ""
  prompt := "Password"
  message := none
  messageIsError := false
  secret := true
  status := .submitting
  attempt := { number := 1 }

def setNotice (conversation : Conversation) (message : String) (error : Bool) : Conversation :=
  { conversation with message := some (boundedText message), messageIsError := error }

def clearNotice (conversation : Conversation) : Conversation :=
  { conversation with message := none, messageIsError := false }

def clearResponse (conversation : Conversation) : Conversation :=
  { conversation with input := "" }

def beginAttempt (conversation : Conversation) : Conversation × Attempt :=
  let conversation := { conversation with attempt := conversation.attempt.next }
  ({ conversation.clearResponse.clearNotice with status := .submitting }, conversation.attempt)

def invalidateAttempt (conversation : Conversation) : Conversation :=
  { conversation with attempt := conversation.attempt.next }.clearResponse

def accepts (conversation : Conversation) (attempt : Attempt) : Bool :=
  attempt == conversation.attempt

def updateInput (conversation : Conversation) (value : String) : Conversation × Bool :=
  if conversation.status ≠ .waiting then (conversation, false)
  else ({ conversation with input := appendBounded conversation.clearResponse.input value }, true)

def pushInput (conversation : Conversation) (value : String) : Conversation × Bool :=
  if conversation.status ≠ .waiting then (conversation, false)
  else
    let input := appendBounded conversation.input value
    ({ conversation with input := input }, input.utf8ByteSize != conversation.input.utf8ByteSize)

def popInput (conversation : Conversation) : Conversation × Bool :=
  if conversation.status ≠ .waiting then (conversation, false)
  else if conversation.input.toList.isEmpty then (conversation, false)
  else ({ conversation with input := .ofList conversation.input.toList.dropLast }, true)

def submit (conversation : Conversation) : Conversation × Option (Attempt × String) :=
  if conversation.status ≠ .waiting then (conversation, none)
  else
    ({ conversation with status := .submitting, input := "" },
      some (conversation.attempt, conversation.input))

def receive (conversation : Conversation) (attempt : Attempt) (response : Response) :
    Conversation × Option Effect :=
  if !conversation.accepts attempt then (conversation, none)
  else
    match response with
    | .prompt secret message =>
      ({ conversation.clearResponse with
          prompt := cleanPrompt message
          secret := secret
          status := .waiting }, some .prompt)
    | .notice error message => (conversation.setNotice message error, some .notice)
    | .success =>
      ({ conversation.clearResponse.clearNotice with status := .succeeded }, some .authenticated)
    | .failure message =>
      let conversation := { conversation.clearResponse with prompt := "Password", secret := true }
      ({ conversation.setNotice message true with status := .failed }, some .failed)

def fail (conversation : Conversation) (message : String) : Conversation :=
  (conversation.receive conversation.attempt (.failure message)).1

/-! ## Status and attempt -/

@[simp] theorem fail_status (conversation : Conversation) (message : String) :
    (conversation.fail message).status = .failed := by
  simp [fail, receive, accepts]

@[simp] theorem fail_attempt (conversation : Conversation) (message : String) :
    (conversation.fail message).attempt = conversation.attempt := by
  simp [fail, receive, accepts, setNotice, clearResponse]

@[simp] theorem beginAttempt_status (conversation : Conversation) :
    conversation.beginAttempt.1.status = .submitting := rfl

@[simp] theorem beginAttempt_attempt (conversation : Conversation) :
    conversation.beginAttempt.1.attempt = conversation.beginAttempt.2 := rfl

@[simp] theorem receive_attempt (conversation : Conversation) (attempt : Attempt)
    (response : Response) : (conversation.receive attempt response).1.attempt = conversation.attempt := by
  simp only [receive]
  split
  next => rfl
  next => split <;> rfl

@[simp] theorem pushInput_kept (conversation : Conversation) (value : String) :
    (conversation.pushInput value).1.status = conversation.status ∧
      (conversation.pushInput value).1.attempt = conversation.attempt := by
  simp only [pushInput]
  split <;> exact ⟨rfl, rfl⟩

@[simp] theorem popInput_kept (conversation : Conversation) :
    conversation.popInput.1.status = conversation.status ∧
      conversation.popInput.1.attempt = conversation.attempt := by
  simp only [popInput]
  split
  next => exact ⟨rfl, rfl⟩
  next => split <;> exact ⟨rfl, rfl⟩

end Conversation

end Genkan
