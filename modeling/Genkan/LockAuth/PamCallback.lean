import Genkan.LockAuth.BoundedText
import Mathlib.Data.List.Forall2

/-! # What a call of the conversation callback leaves behind

A transcript says how a call serves the messages of its array: what it sends and receives for each,
and which responses it collects before it ends.
-/

namespace Genkan.LockAuth

open Foundations.Bytes Foundations.ByteStream Foundations.Utf8

/-! ## Messages -/

inductive Request where
  | prompt (secret : Bool) (text : String)
  | notice (error : Bool) (text : String)

/-- What a message asks the callback to do, unless it makes it fail. -/
def request (message : Option PamMessage) : Option Request := do
  let message ← message
  let text ← boundedMessage (← message.msg)
  match ← MessageStyle.ofCode message.msgStyle with
  | .promptEchoOn => some (.prompt false text)
  | .promptEchoOff => some (.prompt true text)
  | .textInfo => some (.notice false text)
  | .errorMsg => some (.notice true text)

def isPrompt (message : Option PamMessage) : Bool :=
  match message.bind fun message => MessageStyle.ofCode message.msgStyle with
  | some .promptEchoOn | some .promptEchoOff => true
  | _ => false

/-- The prompt that a message asks for. -/
def asks (message : Option PamMessage) : Option (Bool × String) :=
  match request message with
  | some (.prompt secret text) => some (secret, text)
  | _ => none

theorem serve_eq (callback : Callback) (index : Nat) (message : Option PamMessage) :
    callback.serve index message =
      match request message with
      | some (.prompt secret text) => callback.ask index text secret
      | some (.notice error text) =>
        ({ callback with conversation := callback.conversation.notice text error }, true)
      | none => (callback, false) := by
  cases message with
  | none => rfl
  | some message =>
    simp only [Callback.serve, request, Option.bind_eq_bind, Option.bind_some]
    cases message.msg with
    | none => rfl
    | some msg =>
      simp only [Option.bind_some]
      cases boundedMessage msg with
      | none => rfl
      | some text =>
        simp only [Option.bind_some]
        cases MessageStyle.ofCode message.msgStyle with
        | none => rfl
        | some style => cases style <;> rfl

theorem isPrompt_of_request {message : Option PamMessage} {request : Request}
    (asked : LockAuth.request message = some request) :
    isPrompt message = (match request with | .prompt _ _ => true | .notice _ _ => false) := by
  cases message with
  | none => contradiction
  | some message =>
    simp only [LockAuth.request, Option.bind_eq_bind, Option.bind_eq_some_iff, Option.some.injEq,
      exists_eq_left'] at asked
    obtain ⟨msg, _, text, _, style, isStyle, isRequest⟩ := asked
    simp only [isPrompt, Option.bind_some, isStyle]
    cases style <;> cases isRequest <;> rfl

/-! ## One prompt -/

/-- What is sent and received for one prompt, and the response to it. -/
inductive Prompted (id : UInt64) (secret : Bool) (text : String) : List Event → Option Secret → Prop
  | unsent : Prompted id secret text [] none
  | answered (value : Secret) : Prompted id secret text
      [.sent (.prompt id secret text), .received (.ok (.response id value))] (some value)
  | refused {result : Except ProtocolError Message} (wrong : ∀ value, result ≠ .ok (.response id value)) :
      Prompted id secret text [.sent (.prompt id secret text), .received result] none

/-- A message is sent whole or not at all. -/
theorem send_cases (connection : Connection) (message : Message) :
    (connection.send message).2 = .ok () ∧
        (connection.send message).1.log = connection.log ++ [.sent message] ∨
      ∃ error, (connection.send message).2 = .error error ∧
        (connection.send message).1.log = connection.log := by
  cases written : LockAuth.send message (connection.writes.headD none) with
  | ok frame => exact .inl (by simp only [Connection.send, written, and_self])
  | error error => exact .inr ⟨error, by simp only [Connection.send, written, and_self]⟩

theorem prompt_prompted (conversation : PamConversation) (text : String) (secret : Bool)
    (fresh : ¬ conversation.nextId > maxMessages) :
    (conversation.prompt text secret).1.nextId = conversation.nextId + 1 ∧
    ∃ said, (conversation.prompt text secret).1.connection.log = conversation.connection.log ++ said ∧
      Prompted conversation.nextId secret text said (conversation.prompt text secret).2 := by
  have sends := send_cases conversation.connection (.prompt conversation.nextId secret text)
  simp only [PamConversation.prompt, if_neg fresh]
  generalize conversation.connection.send (.prompt conversation.nextId secret text) = outcome at sends ⊢
  obtain ⟨connection, result⟩ := outcome
  rcases sends with ⟨rfl, isSent⟩ | ⟨error, rfl, isSent⟩
  · have isReceived : connection.receive.1.log = conversation.connection.log ++
        [.sent (.prompt conversation.nextId secret text), .received connection.receive.2] := by
      simp only at isSent
      simp [Connection.receive, isSent]
    dsimp only
    generalize connection.receive = reply at isReceived ⊢
    obtain ⟨connection, reply⟩ := reply
    dsimp only at isReceived
    have refused (wrong : ∀ value, reply ≠ .ok (.response conversation.nextId value)) :
        Prompted conversation.nextId secret text
          [.sent (.prompt conversation.nextId secret text), .received reply] none := .refused wrong
    cases reply with
    | error error => exact ⟨rfl, _, isReceived, refused (by simp)⟩
    | ok message =>
      cases message with
      | response responseId value =>
        by_cases same : responseId = conversation.nextId
        · subst same
          simp only [if_true]
          exact ⟨trivial, _, isReceived, .answered value⟩
        · simp only [if_neg same]
          refine ⟨trivial, _, isReceived, refused ?_⟩
          intro other equal
          simp only [Except.ok.injEq, Message.response.injEq] at equal
          exact same equal.1
      | _ => exact ⟨rfl, _, isReceived, refused (by simp)⟩
  · exact ⟨rfl, [], by simpa using isSent, .unsent⟩

/-! ## Transcripts -/

def noticeMessage (error : Bool) (text : String) : Message := if error then .error text else .info text

/-- The messages from some point on, the responses collected for them, what is sent and received
meanwhile, and whether all of them could be served.  A message that is not a prompt has no response. -/
inductive Transcript :
    UInt64 → List (Option PamMessage) → List (Option Secret) → List Event → Bool → Prop
  | done {id : UInt64} : Transcript id [] [] [] true
  | prompt {id : UInt64} {message : Option PamMessage} {messages : List (Option PamMessage)}
      {secret : Bool} {text : String} {value : Secret} {answers : List (Option Secret)}
      {said : List Event} {ok : Bool} (asked : request message = some (.prompt secret text))
      (fresh : id ≤ maxMessages) (rest : Transcript (id + 1) messages answers said ok) :
      Transcript id (message :: messages) (some value :: answers)
        (.sent (.prompt id secret text) :: .received (.ok (.response id value)) :: said) ok
  | notice {id : UInt64} {message : Option PamMessage} {messages : List (Option PamMessage)}
      {error : Bool} {text : String} {answers : List (Option Secret)} {said : List Event} {ok : Bool}
      (asked : request message = some (.notice error text)) (delivered : Bool)
      (rest : Transcript id messages answers said ok) :
      Transcript id (message :: messages) (none :: answers)
        ((if delivered then [.sent (noticeMessage error text)] else []) ++ said) ok
  | malformed {id : UInt64} {message : Option PamMessage} {messages : List (Option PamMessage)}
      (refused : request message = none) : Transcript id (message :: messages) [] [] false
  | exhausted {id : UInt64} {message : Option PamMessage} {messages : List (Option PamMessage)}
      {secret : Bool} {text : String} (asked : request message = some (.prompt secret text))
      (used : maxMessages < id) : Transcript id (message :: messages) [] [] false
  /-- The prompt has no response, or there is no memory for it. -/
  | failed {id : UInt64} {message : Option PamMessage} {messages : List (Option PamMessage)}
      {secret : Bool} {text : String} {said : List Event} {answer : Option Secret}
      (asked : request message = some (.prompt secret text)) (fresh : id ≤ maxMessages)
      (prompted : Prompted id secret text said answer) :
      Transcript id (message :: messages) [] said false

/-- The slots of the array when the first response is stored at a pointer. -/
def slotsFrom : Nat → List (Option Secret) → List PamResponse
  | _, [] => []
  | pointer, none :: answers => .zeroed :: slotsFrom pointer answers
  | pointer, some _ :: answers => ⟨some pointer, 0⟩ :: slotsFrom (pointer + 1) answers

def responseBuffer (value : Secret) : Buffer where
  bytes := value.value ++ [0]
  freed := false

def buffersOf (answers : List (Option Secret)) : List Buffer :=
  answers.filterMap (Option.map responseBuffer)

/-! ## One message -/

theorem store_cases (memory : Memory) (value : Secret) :
    (memory.store value.value).2 = some memory.buffers.length ∧
        (memory.store value.value).1.buffers = memory.buffers ++ [responseBuffer value] ∨
      (memory.store value.value).2 = none ∧ (memory.store value.value).1.buffers = memory.buffers := by
  cases granted : memory.allocations.headD true with
  | true => exact .inl (by simp only [Memory.store, Memory.allocate, granted, if_true, responseBuffer, and_self])
  | false =>
    exact .inr (by simp only [Memory.store, Memory.allocate, granted, Bool.false_eq_true, if_false, and_self])

theorem ask_exhausted {callback : Callback} (exhausted : callback.conversation.nextId > maxMessages)
    (index : Nat) (text : String) (secret : Bool) : callback.ask index text secret = (callback, false) := by
  simp only [Callback.ask, PamConversation.prompt, if_pos exhausted]

/-- A prompt stores the response to it or fails. -/
theorem ask_outcome (callback : Callback) (index : Nat) (text : String) (secret : Bool)
    (fresh : ¬ callback.conversation.nextId > maxMessages) :
    (callback.ask index text secret).1.conversation.nextId = callback.conversation.nextId + 1 ∧
    ∃ said answer, Prompted callback.conversation.nextId secret text said answer ∧
      (callback.ask index text secret).1.conversation.connection.log =
        callback.conversation.connection.log ++ said ∧
      ((∃ value, answer = some value ∧ (callback.ask index text secret).2 = true ∧
          (callback.ask index text secret).1.memory.buffers =
            callback.memory.buffers ++ [responseBuffer value] ∧
          (callback.ask index text secret).1.pending =
            callback.pending.set index ⟨some callback.memory.buffers.length, 0⟩) ∨
        (callback.ask index text secret).2 = false ∧
          (callback.ask index text secret).1.memory.buffers = callback.memory.buffers ∧
          (callback.ask index text secret).1.pending = callback.pending) := by
  obtain ⟨counted, said, logged, prompted⟩ := prompt_prompted callback.conversation text secret fresh
  simp only [Callback.ask]
  generalize callback.conversation.prompt text secret = outcome at counted logged prompted ⊢
  obtain ⟨conversation, answer⟩ := outcome
  dsimp only at counted logged prompted
  cases answer with
  | none => exact ⟨counted, said, none, prompted, logged, .inr ⟨rfl, rfl, rfl⟩⟩
  | some value =>
    dsimp only
    have stored := store_cases callback.memory value
    generalize callback.memory.store value.value = store at stored ⊢
    obtain ⟨memory, pointer⟩ := store
    rcases stored with ⟨rfl, buffers⟩ | ⟨rfl, buffers⟩
    · exact ⟨counted, said, some value, prompted, logged, .inl ⟨value, rfl, rfl, buffers, rfl⟩⟩
    · exact ⟨counted, said, some value, prompted, logged, .inr ⟨rfl, buffers, rfl⟩⟩

/-! ## The loop -/

/-- What the loop adds to a callback whose first slots are already filled. -/
structure Collected (callback : Callback) (filled : List PamResponse) (count : Nat) (final : Callback)
    (answers : List (Option Secret)) (said : List Event) : Prop where
  logged : final.conversation.connection.log = callback.conversation.connection.log ++ said
  buffers : final.memory.buffers = callback.memory.buffers ++ buffersOf answers
  pending : final.pending = filled ++ slotsFrom callback.memory.buffers.length answers ++
    .replicate (count - answers.length) .zeroed

theorem Collected.nothing {callback final : Callback} {filled : List PamResponse} {count : Nat}
    {said : List Event} (vacant : callback.pending = filled ++ .replicate count .zeroed)
    (logged : final.conversation.connection.log = callback.conversation.connection.log ++ said)
    (buffers : final.memory.buffers = callback.memory.buffers)
    (pending : final.pending = callback.pending) : Collected callback filled count final [] said where
  logged := logged
  buffers := by simpa [buffersOf] using buffers
  pending := by simpa [slotsFrom, pending] using vacant

theorem slotsFrom_cons (pointer : Nat) (answer : Option Secret) (answers : List (Option Secret)) :
    slotsFrom pointer (answer :: answers) =
      slotsFrom pointer [answer] ++ slotsFrom (pointer + (buffersOf [answer]).length) answers := by
  cases answer <;> simp [slotsFrom, buffersOf]

/-- One more message in front of a loop. -/
theorem Collected.cons {callback middle final : Callback} {filled : List PamResponse} {count : Nat}
    {answer : Option Secret} {answers : List (Option Secret)} {first said : List Event}
    (logged : middle.conversation.connection.log = callback.conversation.connection.log ++ first)
    (buffers : middle.memory.buffers = callback.memory.buffers ++ buffersOf [answer])
    (rest : Collected middle (filled ++ slotsFrom callback.memory.buffers.length [answer]) count final
      answers said) :
    Collected callback filled (count + 1) final (answer :: answers) (first ++ said) where
  logged := by rw [rest.logged, logged, List.append_assoc]
  buffers := by
    rw [rest.buffers, buffers, List.append_assoc, buffersOf, buffersOf, buffersOf, ← List.filterMap_append,
      List.singleton_append]
  pending := by
    rw [rest.pending, buffers, List.length_append, slotsFrom_cons _ answer answers,
      List.length_cons, Nat.add_sub_add_right]
    simp only [List.append_assoc]

theorem serveAll_transcript (messages : List (Option PamMessage)) (callback : Callback)
    (filled : List PamResponse)
    (vacant : callback.pending = filled ++ .replicate messages.length .zeroed) :
    ∃ answers said,
      Transcript callback.conversation.nextId messages answers said
        (callback.serveAll filled.length messages).2 ∧
      Collected callback filled messages.length (callback.serveAll filled.length messages).1 answers said := by
  induction messages generalizing callback filled with
  | nil => exact ⟨[], [], .done, .nothing vacant (by simp [Callback.serveAll]) rfl rfl⟩
  | cons message messages inductionHypothesis =>
    simp only [Callback.serveAll, serve_eq]
    cases asked : request message with
    | none => exact ⟨[], [], .malformed asked, .nothing vacant (by simp) rfl rfl⟩
    | some request =>
      cases request with
      | notice error text =>
        dsimp only
        -- The slot of a notice stays as `calloc` left it.
        have later := inductionHypothesis
          { callback with conversation := callback.conversation.notice text error } (filled ++ [.zeroed])
          (by simpa [List.replicate_succ] using vacant)
        rw [List.length_append, List.length_singleton] at later
        obtain ⟨answers, said, transcript, collected⟩ := later
        rcases send_cases callback.conversation.connection (noticeMessage error text) with
          ⟨_, isSent⟩ | ⟨_, _, isSent⟩
        · exact ⟨none :: answers, _, .notice asked true transcript,
            .cons isSent (by simp [buffersOf]) collected⟩
        · exact ⟨none :: answers, _, .notice asked false transcript,
            .cons (isSent.trans (List.append_nil _).symm) (by simp [buffersOf]) collected⟩
      | prompt secret text =>
        dsimp only
        by_cases exhausted : callback.conversation.nextId > maxMessages
        · rw [ask_exhausted exhausted]
          exact ⟨[], [], .exhausted asked exhausted, .nothing vacant (by simp) rfl rfl⟩
        · have outcome := ask_outcome callback filled.length text secret exhausted
          generalize callback.ask filled.length text secret = next at outcome ⊢
          obtain ⟨next, ok⟩ := next
          obtain ⟨counted, said, answer, prompted, logged, stored⟩ := outcome
          dsimp only at counted logged stored
          have fresh : callback.conversation.nextId ≤ maxMessages := UInt64.not_lt.mp exhausted
          rcases stored with ⟨value, rfl, rfl, buffers, pending⟩ | ⟨rfl, buffers, pending⟩
          · -- The answer fills the next slot, and the rest is served from the one after it.
            have later := inductionHypothesis next
              (filled ++ slotsFrom callback.memory.buffers.length [some value])
              (by simp [pending, vacant, slotsFrom, List.replicate_succ])
            rw [List.length_append, slotsFrom, slotsFrom, List.length_singleton, counted] at later
            obtain ⟨answers, rest, transcript, collected⟩ := later
            cases prompted with
            | answered value =>
              exact ⟨some value :: answers, _, .prompt asked fresh transcript,
                .cons logged (by simpa [buffersOf] using buffers) collected⟩
          · exact ⟨[], said, .failed asked fresh prompted, .nothing vacant logged buffers pending⟩

/-! ## Clearing -/

theorem zeroizeAndFree_cleared (value : Secret) : (Memory.zeroizeAndFree (responseBuffer value)).cleared := by
  have whole : Memory.strlen (responseBuffer value) = value.value.length := by
    simp only [Memory.strlen, responseBuffer]
    rw [List.takeWhile_append_of_pos]
    · simp
    · intro byte member
      have nonzero : byte ≠ 0 := fun zero => value.plain (zero ▸ member)
      simpa using nonzero
  refine ⟨rfl, ?_⟩
  intro byte member
  rw [Memory.zeroizeAndFree, whole, responseBuffer, List.drop_left] at member
  cases List.mem_append.mp member with
  | inl zeroed => exact List.eq_of_mem_replicate zeroed
  | inr last => exact List.mem_singleton.mp last

theorem clearResponses_zeroed (count : Nat) (memory : Memory) :
    clearResponses (.replicate count .zeroed) memory = memory := by
  induction count with
  | zero => rfl
  | succ count inductionHypothesis =>
    rw [List.replicate_succ, clearResponses]
    exact inductionHypothesis

/-- Exactly the buffers of the collected responses are overwritten and released. -/
theorem clearResponses_slotsFrom (answers : List (Option Secret)) (count : Nat) (old : List Buffer)
    (memory : Memory) (holds : memory.buffers = old ++ buffersOf answers) :
    (clearResponses (slotsFrom old.length answers ++ .replicate count .zeroed) memory).buffers =
      old ++ (buffersOf answers).map Memory.zeroizeAndFree := by
  induction answers generalizing old memory with
  | nil => simpa [slotsFrom, buffersOf, clearResponses_zeroed] using holds
  | cons answer answers inductionHypothesis =>
    cases answer with
    | none => exact inductionHypothesis old memory holds
    | some value =>
      have first : buffersOf (some value :: answers) = responseBuffer value :: buffersOf answers := rfl
      have cleared : (memory.clear old.length).buffers =
          (old ++ [Memory.zeroizeAndFree (responseBuffer value)]) ++ buffersOf answers := by
        simp [Memory.clear, holds, first, List.modify_eq_take_drop]
      have later := inductionHypothesis _ _ cleared
      rw [List.length_append, List.length_singleton] at later
      simpa [slotsFrom, clearResponses, first] using later

/-! ## What a transcript says -/

/-- The prompts that were sent, in their order. -/
def prompted (said : List Event) : List (Bool × String) :=
  said.filterMap fun event =>
    match event with
    | .sent (.prompt _ secret text) => some (secret, text)
    | _ => none

/-- A prompt was followed by anything but the response to it. -/
def Unanswered (said : List Event) : Prop :=
  ∃ before id secret text result after,
    said = before ++ .sent (.prompt id secret text) :: .received result :: after ∧
      ∀ value, result ≠ .ok (.response id value)

theorem asks_prompt {message : Option PamMessage} {secret : Bool} {text : String}
    (asked : request message = some (.prompt secret text)) : asks message = some (secret, text) := by
  rw [asks, asked]

theorem asks_notice {message : Option PamMessage} {error : Bool} {text : String}
    (asked : request message = some (.notice error text)) : asks message = none := by
  rw [asks, asked]

theorem prompted_notice (error : Bool) (text : String) (delivered : Bool) (said : List Event) :
    prompted ((if delivered then [.sent (noticeMessage error text)] else []) ++ said) = prompted said := by
  cases delivered <;> cases error <;> rfl

namespace Transcript

variable {id : UInt64} {messages : List (Option PamMessage)} {answers : List (Option Secret)}
  {said : List Event} {ok : Bool}

/-- Prompts are sent in the order of the messages that ask for them. -/
theorem prompted_prefix (transcript : Transcript id messages answers said ok) :
    prompted said <+: messages.filterMap asks := by
  induction transcript with
  | done => exact List.nil_prefix
  | prompt asked fresh rest inductionHypothesis =>
    rw [List.filterMap_cons, asks_prompt asked]
    exact (List.cons_prefix_cons).mpr ⟨rfl, inductionHypothesis⟩
  | notice asked delivered rest inductionHypothesis =>
    rw [List.filterMap_cons, asks_notice asked, prompted_notice]
    exact inductionHypothesis
  | malformed | exhausted => exact List.nil_prefix
  | failed asked fresh exchanged =>
    rw [List.filterMap_cons, asks_prompt asked]
    cases exchanged with
    | unsent => exact List.nil_prefix
    | answered value => exact List.cons_prefix_cons.mpr ⟨rfl, List.nil_prefix⟩
    | refused wrong => exact List.cons_prefix_cons.mpr ⟨rfl, List.nil_prefix⟩

theorem answers_length (transcript : Transcript id messages answers said true) :
    answers.length = messages.length := by
  generalize served : true = ok at transcript
  induction transcript with
  | done => rfl
  | prompt asked fresh rest inductionHypothesis | notice asked delivered rest inductionHypothesis =>
    rw [List.length_cons, List.length_cons, inductionHypothesis served]
  | malformed | exhausted | failed => contradiction

/-- In a served array exactly the prompts have responses. -/
theorem answered_iff (transcript : Transcript id messages answers said true) :
    answers.map Option.isSome = messages.map isPrompt := by
  generalize served : true = ok at transcript
  induction transcript with
  | done => rfl
  | prompt asked fresh rest inductionHypothesis | notice asked delivered rest inductionHypothesis =>
    rw [List.map_cons, List.map_cons, inductionHypothesis served, isPrompt_of_request asked]
    rfl
  | malformed | exhausted | failed => contradiction

/-- A served array had every prompt answered. -/
theorem answered (transcript : Transcript id messages answers said true) : ¬ Unanswered said := by
  generalize served : true = ok at transcript
  induction transcript with
  | done => simp [Unanswered]
  | prompt asked fresh rest inductionHypothesis =>
    rintro ⟨before, id, secret, text, result, after, isSaid, wrong⟩
    cases before with
    | nil =>
      cases isSaid
      exact wrong _ rfl
    | cons event before =>
      cases before with
      | nil => cases isSaid
      | cons event before =>
        cases isSaid
        exact inductionHypothesis served ⟨before, id, secret, text, result, after, rfl, wrong⟩
  | notice asked delivered rest inductionHypothesis =>
    rintro ⟨before, id, secret, text, result, after, isSaid, wrong⟩
    cases delivered with
    | false => exact inductionHypothesis served ⟨before, id, secret, text, result, after, isSaid, wrong⟩
    | true =>
      cases before with
      | nil =>
        simp only [if_true, noticeMessage] at isSaid
        split at isSaid <;> cases isSaid
      | cons event before =>
        cases isSaid
        exact inductionHypothesis served ⟨before, id, secret, text, result, after, rfl, wrong⟩
  | malformed | exhausted | failed => contradiction

end Transcript

/-! ## Numbering -/

def promptIds (said : List Event) : List UInt64 :=
  said.filterMap fun event =>
    match event with
    | .sent (.prompt id _ _) => some id
    | _ => none

theorem promptIds_append (first second : List Event) :
    promptIds (first ++ second) = promptIds first ++ promptIds second := List.filterMap_append

/-- The prompts sent since `old` have increasing numbers, all of them used up. -/
structure Numbered (old : List Event) (conversation : PamConversation) (said : List Event) : Prop where
  logged : conversation.connection.log = old ++ said
  increasing : (promptIds said).Pairwise (· < ·)
  used : ∀ id ∈ promptIds said, id < conversation.nextId
  bounded : conversation.nextId ≤ maxMessages + 1

theorem Numbered.silent {old said more : List Event} {conversation next : PamConversation}
    (numbered : Numbered old conversation said)
    (logged : next.connection.log = conversation.connection.log ++ more)
    (counted : next.nextId = conversation.nextId) (unasked : promptIds more = []) :
    Numbered old next (said ++ more) where
  logged := by rw [logged, numbered.logged, List.append_assoc]
  increasing := by simpa [promptIds_append, unasked] using numbered.increasing
  used := by simpa [promptIds_append, unasked, counted] using numbered.used
  bounded := counted ▸ numbered.bounded

/-- A prompt uses up the next number, whether it could be sent or not. -/
theorem Numbered.prompted {old said more : List Event} {conversation next : PamConversation}
    {secret : Bool} {text : String} {answer : Option Secret}
    (numbered : Numbered old conversation said) (fresh : ¬ conversation.nextId > maxMessages)
    (exchanged : Prompted conversation.nextId secret text more answer)
    (logged : next.connection.log = conversation.connection.log ++ more)
    (counted : next.nextId = conversation.nextId + 1) : Numbered old next (said ++ more) := by
  have limit : conversation.nextId.toNat ≤ 128 :=
    UInt64.le_iff_toNat_le.mp (UInt64.not_lt.mp fresh)
  have after : next.nextId.toNat = conversation.nextId.toNat + 1 := by
    rw [counted, UInt64.toNat_add]
    simp
    omega
  have later : conversation.nextId < next.nextId := by
    rw [UInt64.lt_iff_toNat_lt]
    omega
  have ids : promptIds more = [] ∨ promptIds more = [conversation.nextId] := by
    cases exchanged with
    | unsent => exact .inl rfl
    | answered | refused => exact .inr rfl
  refine ⟨by rw [logged, numbered.logged, List.append_assoc], ?_, ?_, ?_⟩
  · rw [promptIds_append]
    cases ids with
    | inl none => simpa [none] using numbered.increasing
    | inr one =>
      rw [one, List.pairwise_append]
      refine ⟨numbered.increasing, List.pairwise_singleton _ _, ?_⟩
      intro id member last isLast
      exact List.mem_singleton.mp isLast ▸ numbered.used id member
  · intro id member
    rw [promptIds_append] at member
    cases List.mem_append.mp member with
    | inl earlier => exact UInt64.lt_trans (numbered.used id earlier) later
    | inr new =>
      cases ids with
      | inl none => simp [none] at new
      | inr one =>
        rw [one, List.mem_singleton] at new
        exact new ▸ later
  · rw [UInt64.le_iff_toNat_le, after]
    have top : (maxMessages + 1).toNat = 129 := rfl
    omega

theorem serveAll_numbered {old said : List Event} (messages : List (Option PamMessage)) (index : Nat)
    (callback : Callback) (numbered : Numbered old callback.conversation said) :
    ∃ said, Numbered old (callback.serveAll index messages).1.conversation said := by
  induction messages generalizing index callback said with
  | nil => exact ⟨said, numbered⟩
  | cons message messages inductionHypothesis =>
    simp only [Callback.serveAll, serve_eq]
    cases request message with
    | none => exact ⟨said, numbered⟩
    | some request =>
      cases request with
      | notice error text =>
        rcases send_cases callback.conversation.connection (noticeMessage error text) with
          ⟨_, isSent⟩ | ⟨_, _, isSent⟩
        · -- A notice is sent or it is lost, and in both cases it takes no identifier.
          refine inductionHypothesis (index + 1)
            { callback with conversation := callback.conversation.notice text error }
            (numbered.silent isSent rfl ?_)
          cases error <;> rfl
        · exact inductionHypothesis (index + 1)
            { callback with conversation := callback.conversation.notice text error }
            (numbered.silent (isSent.trans (List.append_nil _).symm) rfl rfl)
      | prompt secret text =>
        dsimp only
        by_cases exhausted : callback.conversation.nextId > maxMessages
        · rw [ask_exhausted exhausted]
          exact ⟨said, numbered⟩
        · have outcome := ask_outcome callback index text secret exhausted
          generalize callback.ask index text secret = next at outcome ⊢
          obtain ⟨next, ok⟩ := next
          obtain ⟨counted, more, answer, exchanged, logged, _⟩ := outcome
          have still := numbered.prompted exhausted exchanged logged counted
          cases ok with
          | true => exact inductionHypothesis (index + 1) next still
          | false => exact ⟨_, still⟩

/-! ## A whole call -/

/-- A call is refused before it looks at a message, or it serves the messages of its array. -/
theorem pamConversation_cases (arguments : Arguments) (conversation : PamConversation) (memory : Memory) :
    (∃ memory', memory'.buffers = memory.buffers ∧
      pamConversation arguments conversation memory =
        { conversation, memory := memory', responses := none, status := .convErr }) ∨
    ∃ memory' messages, memory'.buffers = memory.buffers ∧ arguments.messages = some messages ∧
      pamConversation arguments conversation memory =
        Callback.conclude (Callback.serveAll
          { conversation, memory := memory', pending := .replicate arguments.count.toNat .zeroed } 0
          (messages.take arguments.count.toNat)) := by
  simp only [pamConversation]
  cases arguments.messages with
  | none => exact .inl ⟨memory, rfl, rfl⟩
  | some messages =>
    dsimp only
    split
    next => exact .inl ⟨memory, rfl, rfl⟩
    next =>
      simp only [Memory.allocate]
      cases memory.allocations.headD true with
      | false => exact .inl ⟨{ memory with allocations := memory.allocations.tail }, rfl, rfl⟩
      | true => exact .inr ⟨{ memory with allocations := memory.allocations.tail }, messages, rfl, rfl, rfl⟩

theorem conclude_conversation (served : Callback × Bool) :
    (Callback.conclude served).conversation = served.1.conversation := by
  obtain ⟨callback, ok⟩ := served
  cases ok <;> rfl

theorem pamConversation_numbered {old said : List Event} (arguments : Arguments)
    (conversation : PamConversation) (memory : Memory) (numbered : Numbered old conversation said) :
    ∃ said, Numbered old (pamConversation arguments conversation memory).conversation said := by
  rcases pamConversation_cases arguments conversation memory with
    ⟨memory', _, refused⟩ | ⟨memory', messages, _, _, served⟩
  · rw [refused]
    exact ⟨said, numbered⟩
  · rw [served, conclude_conversation]
    exact serveAll_numbered _ 0 _ numbered

/-- The callbacks of one attempt, each with the memory it finds. -/
def attempt (connection : Connection) (calls : List (Arguments × Memory)) : PamConversation :=
  calls.foldl (fun conversation call => (pamConversation call.1 conversation call.2).conversation)
    { connection, nextId := 1, cancelled := false }

theorem attempt_numbered (connection : Connection) (calls : List (Arguments × Memory)) :
    ∃ said, Numbered connection.log (attempt connection calls) said := by
  induction calls using List.reverseRecOn with
  | nil =>
    have first : (1 : UInt64) ≤ maxMessages + 1 := by decide
    exact ⟨[], ⟨(List.append_nil _).symm, .nil, by simp [promptIds], first⟩⟩
  | append_singleton calls call inductionHypothesis =>
    obtain ⟨said, numbered⟩ := inductionHypothesis
    rw [attempt, List.foldl_concat]
    exact pamConversation_numbered call.1 _ call.2 numbered

/-! ## Response slots -/

/-- A slot that holds a response: a pointer to a live buffer with its bytes and a NUL. -/
def Holds (memory : Memory) (slot : PamResponse) (value : Secret) : Prop :=
  slot.respRetcode = 0 ∧ ∃ pointer, slot.resp = some pointer ∧
    memory.buffers[pointer]? = some (responseBuffer value)

/-- A slot is empty for a message without a response, and holds the response to a prompt. -/
def Matches (memory : Memory) (slot : PamResponse) : Option Secret → Prop
  | none => slot = .zeroed
  | some value => Holds memory slot value

theorem slotsFrom_holds (answers : List (Option Secret)) (old : List Buffer) (memory : Memory)
    (holds : memory.buffers = old ++ buffersOf answers) :
    List.Forall₂ (Matches memory) (slotsFrom old.length answers) answers := by
  induction answers generalizing old with
  | nil => exact .nil
  | cons answer answers inductionHypothesis =>
    cases answer with
    | none => exact .cons rfl (inductionHypothesis old holds)
    | some value =>
      have first : buffersOf (some value :: answers) = responseBuffer value :: buffersOf answers := rfl
      have later := inductionHypothesis (old ++ [responseBuffer value]) (by simp [holds, first])
      rw [List.length_append, List.length_singleton] at later
      exact .cons ⟨rfl, old.length, rfl, by simp [holds, first]⟩ later

/-! ## Good replies -/

/-- The bytes of the responses to prompts that are numbered from `id` on. -/
def responsesFrom : UInt64 → List Secret → List UInt8
  | _, [] => []
  | id, value :: values =>
    frameBytes Kind.response (toBigEndian 8 id.toNat ++ value.value) ++ responsesFrom (id + 1) values

/-- Every message can be served, the peer answers their prompts with the values, and no write and no
allocation fails. -/
structure Cooperates (messages : List (Option PamMessage)) (values : List Secret)
    (conversation : PamConversation) (memory : Memory) : Prop where
  served : ∀ message ∈ messages, (request message).isSome = true
  answered : (messages.filterMap asks).length = values.length
  numbered : conversation.nextId.toNat + values.length ≤ maxMessages.toNat + 1
  written : ∀ write ∈ conversation.connection.writes, write = none
  reliable : Reliable conversation.connection.incoming
  replied : ∃ rest, content conversation.connection.incoming =
    responsesFrom conversation.nextId values ++ rest
  granted : ∀ allocation ∈ memory.allocations, allocation = true

theorem request_fits {message : Option PamMessage} {secret : Bool} {text : String}
    (asked : request message = some (.prompt secret text)) :
    (intoBytes text).length ≤ maxMessageBytes := by
  cases message with
  | none => contradiction
  | some message =>
    simp only [request, Option.bind_eq_bind, Option.bind_eq_some_iff, Option.some.injEq,
      exists_eq_left'] at asked
    obtain ⟨msg, _, bounded, isBounded, style, _, isRequest⟩ := asked
    have isText : bounded = text := by cases style <;> cases isRequest <;> rfl
    simp only [boundedMessage] at isBounded
    split at isBounded
    next => contradiction
    next =>
      rw [← isText, ← Option.some.inj isBounded, length_intoBytes]
      exact popWhileLong_fits _ _

theorem send_written {connection : Connection} (written : ∀ write ∈ connection.writes, write = none)
    {message : Message} (bound : message.text.length ≤ maxMessageBytes) :
    connection.send message =
      ({ connection with writes := connection.writes.tail, log := connection.log ++ [.sent message] },
        .ok ()) := by
  have unbroken : connection.writes.headD none = none := by
    cases isWrites : connection.writes with
    | nil => rfl
    | cons write writes => exact written write (isWrites ▸ List.mem_cons_self)
  obtain ⟨kind, payload, sent, _, _⟩ := send_accepted bound
  rw [Connection.send, unbroken, sent]

theorem allocate_granted {memory : Memory} (granted : ∀ allocation ∈ memory.allocations, allocation = true) :
    memory.allocate = ({ memory with allocations := memory.allocations.tail }, true) := by
  have first : memory.allocations.headD true = true := by
    cases isAllocations : memory.allocations with
    | nil => rfl
    | cons allocation allocations => exact granted allocation (isAllocations ▸ List.mem_cons_self)
  rw [Memory.allocate, first]

theorem store_granted {memory : Memory} (granted : ∀ allocation ∈ memory.allocations, allocation = true)
    (value : Secret) :
    memory.store value.value =
      ({ buffers := memory.buffers ++ [responseBuffer value], allocations := memory.allocations.tail },
        some memory.buffers.length) := by
  simp only [Memory.store, allocate_granted granted, if_true, responseBuffer]

/-- A response arrives whole, and the ones after it stay. -/
theorem receive_response {stream : List Piece} (reliable : Reliable stream) {id : UInt64} {value : Secret}
    {rest : List UInt8}
    (holds : content stream =
      frameBytes Kind.response (toBigEndian 8 id.toNat ++ value.value) ++ rest) :
    (receive stream).1 = .ok (.response id value) ∧ content (receive stream).2 = rest ∧
      Reliable (receive stream).2 := by
  have short : (toBigEndian 8 id.toNat ++ value.value).length ≤ maxPayloadBytes := by
    have bounded := value.bounded
    simp only [List.length_append, toBigEndian_length, maxPayloadBytes, maxResponseBytes] at bounded ⊢
    omega
  obtain ⟨received, left, still⟩ := receive_frame reliable short holds
  refine ⟨?_, left, still⟩
  rw [received, decode_response, Message.received_eq_ok]
  exact List.not_mem_nil

namespace Cooperates

variable {message : Option PamMessage} {messages : List (Option PamMessage)} {text : String}

theorem notice {values : List Secret} {conversation : PamConversation} {memory : Memory} {error : Bool}
    (cooperates : Cooperates (message :: messages) values conversation memory)
    (asked : request message = some (.notice error text)) :
    Cooperates messages values (conversation.notice text error) memory := by
  obtain ⟨served, answered, numbered, written, reliable, replied, granted⟩ := cooperates
  have kept : (conversation.notice text error).connection.incoming = conversation.connection.incoming ∧
      (conversation.notice text error).connection.writes = conversation.connection.writes.tail := by
    simp only [PamConversation.notice, Connection.send]
    split <;> exact ⟨rfl, rfl⟩
  rw [List.filterMap_cons, asks_notice asked] at answered
  exact
    { served := fun message member => served message (List.mem_cons_of_mem _ member)
      answered
      numbered
      written := fun write member => written write (List.mem_of_mem_tail (kept.2 ▸ member))
      reliable := kept.1 ▸ reliable
      replied := kept.1 ▸ replied
      granted }

/-- A prompt takes the next value. -/
theorem prompt {values : List Secret} {callback : Callback} {secret : Bool}
    (cooperates : Cooperates (message :: messages) values callback.conversation callback.memory)
    (asked : request message = some (.prompt secret text)) (index : Nat) :
    ∃ value later next, values = value :: later ∧ callback.ask index text secret = (next, true) ∧
      next.memory.buffers = callback.memory.buffers ++ [responseBuffer value] ∧
      Cooperates messages later next.conversation next.memory := by
  obtain ⟨served, answered, numbered, written, reliable, ⟨rest, replied⟩, granted⟩ := cooperates
  rw [List.filterMap_cons, asks_prompt asked] at answered
  cases values with
  | nil => simp at answered
  | cons value later =>
    rw [List.length_cons] at numbered
    have limit : maxMessages.toNat = 128 := rfl
    have fresh : ¬ callback.conversation.nextId > maxMessages := by
      rw [gt_iff_lt, UInt64.lt_iff_toNat_lt]
      omega
    have counted : (callback.conversation.nextId + 1).toNat = callback.conversation.nextId.toNat + 1 := by
      rw [UInt64.toNat_add]
      simp
      omega
    rw [responsesFrom, List.append_assoc] at replied
    have sent : callback.conversation.connection.send (.prompt callback.conversation.nextId secret text) = _ :=
      send_written written (request_fits asked)
    obtain ⟨received, left, still⟩ := receive_response reliable replied
    let conversation : PamConversation :=
      { callback.conversation with
        connection :=
          { incoming := (receive callback.conversation.connection.incoming).2
            writes := callback.conversation.connection.writes.tail
            log := callback.conversation.connection.log ++
              [.sent (.prompt callback.conversation.nextId secret text)] ++
              [.received (.ok (.response callback.conversation.nextId value))] }
        nextId := callback.conversation.nextId + 1 }
    let memory : Memory :=
      { buffers := callback.memory.buffers ++ [responseBuffer value]
        allocations := callback.memory.allocations.tail }
    let pending : List PamResponse := callback.pending.set index ⟨some callback.memory.buffers.length, 0⟩
    refine ⟨value, later, ⟨conversation, memory, pending⟩, rfl, ?_, rfl, ?_⟩
    · simp only [Callback.ask, PamConversation.prompt, if_neg fresh, Connection.receive,
        sent, received, if_true, store_granted granted, conversation, memory, pending]
    · exact
        { served := fun message member => served message (List.mem_cons_of_mem _ member)
          answered := Nat.succ.inj answered
          numbered := by
            rw [counted]
            omega
          written := fun write member => written write (List.mem_of_mem_tail member)
          reliable := still
          replied := ⟨rest, left⟩
          granted := fun allocation member => granted allocation (List.mem_of_mem_tail member) }

/-- Every message is served, and the values are stored in their order. -/
theorem serveAll {values : List Secret} {callback : Callback}
    (cooperates : Cooperates messages values callback.conversation callback.memory) (index : Nat) :
    (callback.serveAll index messages).2 = true ∧
      (callback.serveAll index messages).1.memory.buffers =
        callback.memory.buffers ++ values.map responseBuffer := by
  induction messages generalizing values callback index with
  | nil =>
    have noValues : values = [] := List.length_eq_zero_iff.mp cooperates.answered.symm
    simp [Callback.serveAll, noValues]
  | cons message messages inductionHypothesis =>
    obtain ⟨request, asked⟩ := Option.isSome_iff_exists.mp (cooperates.served message List.mem_cons_self)
    simp only [Callback.serveAll, serve_eq, asked]
    cases request with
    | notice error text => exact inductionHypothesis (cooperates.notice asked) (index + 1)
    | prompt secret text =>
      obtain ⟨value, later, next, rfl, isNext, stored, rest⟩ := cooperates.prompt asked index
      simp only [isNext]
      obtain ⟨all, buffers⟩ := inductionHypothesis rest (index + 1)
      exact ⟨all, by rw [buffers, stored, List.append_assoc, List.map_cons, List.singleton_append]⟩

end Cooperates

/-! ## The arrays of a conversation -/

/-- The call for an array of messages. -/
def call (messages : List (Option PamMessage)) (conversation : PamConversation) (memory : Memory) : Returned :=
  pamConversation { count := messages.length, messages := some messages, responses := true, data := true }
    conversation memory

theorem resp_isSome_of_matches {memory : Memory} {slots : List PamResponse} {answers : List (Option Secret)}
    (pairs : List.Forall₂ (Matches memory) slots answers) :
    slots.map (fun slot => slot.resp.isSome) = answers.map Option.isSome := by
  induction pairs with
  | nil => rfl
  | @cons slot answer _ _ pair _ inductionHypothesis =>
    rw [List.map_cons, List.map_cons, inductionHypothesis]
    congr 1
    cases answer with
    | none => exact congrArg (fun slot : PamResponse => slot.resp.isSome) pair
    | some value =>
      obtain ⟨_, pointer, isPointer, _⟩ := pair
      rw [isPointer]
      rfl

/-- With good replies and memory a call succeeds, and hands over the values. -/
theorem Cooperates.call {messages : List (Option PamMessage)} {values : List Secret}
    {conversation : PamConversation} {memory : Memory} (nonempty : messages ≠ [])
    (within : (messages.length : Int) ≤ pamMaxNumMsg)
    (cooperates : Cooperates messages values conversation memory) :
    (call messages conversation memory).status = .success ∧
      (call messages conversation memory).memory.buffers =
        memory.buffers ++ values.map responseBuffer := by
  have positive := List.length_pos_iff.mpr nonempty
  have allowed : ¬ ((messages.length : Int) ≤ 0 ∨ (messages.length : Int) > pamMaxNumMsg ∨
      true = false ∨ true = false) := by
    simp only [Bool.true_eq_false, or_false]
    omega
  have whole : messages.take (messages.length : Int).toNat = messages := by simp
  let callback : Callback :=
    { conversation
      memory := { memory with allocations := memory.allocations.tail }
      pending := .replicate (messages.length : Int).toNat .zeroed }
  have later : Cooperates messages values callback.conversation callback.memory :=
    { cooperates with
      granted := fun allocation member => cooperates.granted allocation (List.mem_of_mem_tail member) }
  obtain ⟨all, buffers⟩ := later.serveAll 0
  have returned : LockAuth.call messages conversation memory =
      Callback.conclude (callback.serveAll 0 messages) := by
    simp only [LockAuth.call, pamConversation, if_neg allowed, allocate_granted cooperates.granted, whole,
      callback]
  rw [returned]
  generalize callback.serveAll 0 messages = served at all buffers ⊢
  obtain ⟨served, ok⟩ := served
  cases all
  exact ⟨rfl, buffers⟩

/-- What a call has done about its array when it returns. -/
structure Answered (messages : List (Option PamMessage)) (conversation : PamConversation) (memory : Memory)
    (returned : Returned) (said : List Event) : Prop where
  logged : returned.conversation.connection.log = conversation.connection.log ++ said
  ordered : prompted said <+: messages.filterMap asks
  unanswered : Unanswered said → returned.status = .convErr
  failed : returned.status = .convErr → returned.responses = none ∧
    ∃ cleared, returned.memory.buffers = memory.buffers ++ cleared ∧ ∀ buffer ∈ cleared, buffer.cleared
  succeeded : returned.status = .success → ∃ slots answers, returned.responses = some slots ∧
    slots.map (fun slot => slot.resp.isSome) = messages.map isPrompt ∧
    Transcript conversation.nextId messages answers said true ∧
    List.Forall₂ (Matches returned.memory) slots answers

theorem Answered.of_served {messages : List (Option PamMessage)} {conversation : PamConversation}
    {memory : Memory} {callback final : Callback} {ok : Bool} {answers : List (Option Secret)}
    {said : List Event} (isConversation : callback.conversation = conversation)
    (buffers : callback.memory.buffers = memory.buffers)
    (transcript : Transcript conversation.nextId messages answers said ok)
    (collected : Collected callback [] messages.length final answers said) :
    Answered messages conversation memory (Callback.conclude (final, ok)) said := by
  have logged := collected.logged
  have stored := collected.buffers
  have slots := collected.pending
  rw [isConversation] at logged
  rw [buffers] at stored slots
  rw [List.nil_append] at slots
  cases ok with
  | false =>
    -- A failure frees what was answered so far, and all of it has been overwritten.
    have cleared : (clearResponses final.pending final.memory).buffers =
        memory.buffers ++ (buffersOf answers).map Memory.zeroizeAndFree := by
      rw [slots]
      exact clearResponses_slotsFrom answers _ memory.buffers final.memory stored
    refine
      { logged
        ordered := transcript.prompted_prefix
        unanswered := fun _ => rfl
        failed := fun _ => ⟨rfl, _, cleared, ?_⟩
        succeeded := fun success => by cases success }
    intro buffer member
    simp only [buffersOf, List.mem_map, List.mem_filterMap, Option.map_eq_some_iff] at member
    obtain ⟨_, ⟨_, _, value, _, rfl⟩, rfl⟩ := member
    exact zeroizeAndFree_cleared value
  | true =>
    have whole : final.pending = slotsFrom memory.buffers.length answers := by
      rw [slots, transcript.answers_length, Nat.sub_self, List.replicate_zero, List.append_nil]
    have pairs : List.Forall₂ (Matches final.memory) final.pending answers := by
      rw [whole]
      exact slotsFrom_holds answers memory.buffers final.memory stored
    exact
      { logged
        ordered := transcript.prompted_prefix
        unanswered := fun wrong => absurd wrong transcript.answered
        failed := fun failure => by cases failure
        succeeded := fun _ => ⟨final.pending, answers, rfl,
          (resp_isSome_of_matches pairs).trans transcript.answered_iff, transcript, pairs⟩ }

/-- A call answers all prompts of its array or hands over nothing, whatever the peer replies, and the
prompts of an attempt have increasing numbers up to the limit. -/
theorem callback_answers_arrays :
    (∀ messages conversation memory,
      ∃ said, Answered messages conversation memory (call messages conversation memory) said) ∧
    (∀ connection calls, ∃ said, (attempt connection calls).connection.log = connection.log ++ said ∧
      (promptIds said).Pairwise (· < ·) ∧ ∀ id ∈ promptIds said, id ≤ maxMessages) ∧
    ∀ messages values conversation memory, messages ≠ [] → (messages.length : Int) ≤ pamMaxNumMsg →
      Cooperates messages values conversation memory →
        (call messages conversation memory).status = .success ∧
          (call messages conversation memory).memory.buffers =
            memory.buffers ++ values.map responseBuffer := by
  refine ⟨?_, ?_, ?_⟩
  · intro messages conversation memory
    rcases pamConversation_cases
        { count := messages.length, messages := some messages, responses := true, data := true }
        conversation memory with ⟨memory', buffers, refused⟩ | ⟨memory', array, buffers, isArray, served⟩
    · refine ⟨[], ?_⟩
      rw [call, refused]
      exact
        { logged := (List.append_nil _).symm
          ordered := List.nil_prefix
          unanswered := fun _ => rfl
          failed := fun _ => ⟨rfl, [], by simpa using buffers, by simp⟩
          succeeded := fun success => by cases success }
    · cases isArray
      have whole : messages.take (messages.length : Int).toNat = messages := by simp
      obtain ⟨answers, said, transcript, collected⟩ := serveAll_transcript messages
        { conversation, memory := memory', pending := .replicate (messages.length : Int).toNat .zeroed } []
        (by simp)
      refine ⟨said, ?_⟩
      rw [call, served, whole]
      exact .of_served rfl buffers transcript collected
  · intro connection calls
    obtain ⟨said, numbered⟩ := attempt_numbered connection calls
    refine ⟨said, numbered.logged, numbered.increasing, ?_⟩
    intro id member
    have used := UInt64.lt_iff_toNat_lt.mp (numbered.used id member)
    have bounded := UInt64.le_iff_toNat_le.mp numbered.bounded
    have top : (maxMessages + 1).toNat = 129 := rfl
    have limit : maxMessages.toNat = 128 := rfl
    rw [UInt64.le_iff_toNat_le]
    omega
  · intro messages values conversation memory nonempty within cooperates
    exact cooperates.call nonempty within

/-- A notice and two prompts, the first of them for a password. -/
def sampleMessages : List (Option PamMessage) :=
  [some ⟨4, some [72, 105, 0]⟩, some ⟨1, some [80, 105, 110, 0]⟩, some ⟨2, some [85, 115, 101, 114, 0]⟩]

theorem samplePassword_valid : [111, 107].length ≤ maxResponseBytes ∧ (0 : UInt8) ∉ [111, 107] := by decide

theorem sampleName_valid : [97].length ≤ maxResponseBytes ∧ (0 : UInt8) ∉ [97] := by decide

def sampleValues : List Secret :=
  [⟨[111, 107], samplePassword_valid.1, samplePassword_valid.2⟩, ⟨[97], sampleName_valid.1, sampleName_valid.2⟩]

/-- The peer has already written its responses, which arrive in two reads. -/
def sampleConversation : PamConversation where
  connection :=
    { incoming :=
        [.bytes ((responsesFrom 1 sampleValues).take 25), .interrupted,
          .bytes ((responsesFrom 1 sampleValues).drop 25)]
      writes := []
      log := [] }
  nextId := 1
  cancelled := false

theorem sampleConversation_cooperates :
    Cooperates sampleMessages sampleValues sampleConversation ⟨[], []⟩ where
  served := by decide +kernel
  answered := by decide +kernel
  numbered := by decide
  written := nofun
  reliable := by
    intro failure member
    simp [sampleConversation] at member
  replied := by
    refine ⟨[], ?_⟩
    simp [sampleConversation, content]
  granted := nofun

theorem callback_answers_arrays_sample :
    (call sampleMessages sampleConversation ⟨[], []⟩).status = .success ∧
      (call sampleMessages sampleConversation ⟨[], []⟩).memory.buffers =
        [⟨[111, 107, 0], false⟩, ⟨[97, 0], false⟩] :=
  callback_answers_arrays.2.2 sampleMessages sampleValues sampleConversation ⟨[], []⟩ (by decide) (by decide)
    sampleConversation_cooperates

example : (call sampleMessages sampleConversation ⟨[], []⟩).responses =
    some [.zeroed, ⟨some 0, 0⟩, ⟨some 1, 0⟩] := by
  decide +kernel

end Genkan.LockAuth
