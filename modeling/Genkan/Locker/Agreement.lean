import Mathlib.Data.List.Nodup
import Genkan.Locker.Steps

/-! # Prompts and responses

Between the lock screen and a live worker at most one thing is under way that ends the wait of one
of them, and nothing while the user is asked.  So a response meets the prompt it was typed for,
although the numbers of the prompts start again with every attempt.
-/

namespace Genkan.Locker

open Foundations LockAuth SessionLock

/-- The event ends what the user waits for. -/
def Event.settles : Event → Bool
  | .prompt .. | .success | .failure => true
  | .notice .. => false

def Reader.pending : Reader → List (Stamped Event)
  | .publishing event _ => [event]
  | .reading | .reaping _ | .done => []

def Stamped.event (stamped : Stamped Message) : Option (Stamped Event) :=
  (Client.eventOf stamped.value).map fun event => { value := event, origin := stamped.origin }

namespace Client

/-- The worker may still read or write. -/
def live (client : Client) : Bool :=
  client.worker.phase.waits || client.worker.phase == .authenticating

/-- The events on their way to the lock screen, the next one first. -/
def pending (client : Client) : List (Stamped Event) :=
  client.queue ++ client.reader.pending ++ client.outbox.filterMap Stamped.event

def working (client : Client) : Nat := if client.worker.phase = .authenticating then 1 else 0

/-- What is under way between the lock screen and the worker and ends the wait of one of them. -/
def tokens (client : Client) : Nat :=
  client.inbox.length + client.working + client.pending.countP (·.value.settles)

/-- The worker waits for the answer to this prompt. -/
def Asks (client : Client) (prompt : Stamped UInt64) : Prop :=
  client.worker.phase = .prompting prompt.value ∧ prompt.origin = client.origin

/-- The receiver of the events has not been dropped. -/
structure Attached (client : Client) : Prop where
  events : client.events = true
  shutdown : client.shutdown = false

end Client

/-- The lock screen and its live worker agree on what is asked and on who is to speak next. -/
structure LockerPresentation.Agrees (presentation : LockerPresentation) (client : Client) : Prop where
  turns : client.tokens + (if presentation.conversation.status = .submitting then 0 else 1) ≤ 1
  pristine : presentation.confirmed = false → client.tokens = 0
  prompts : ∀ event ∈ client.pending, ∀ id secret text, event.value = .prompt id secret text →
    client.Asks { value := id, origin := event.origin }
  displayed : ∀ prompt, presentation.promptId = some prompt → client.Asks prompt
  responses : ∀ posted ∈ client.inbox, ∀ id value, posted.message = .response id value →
    ∃ submission ∈ presentation.history.submissions, posted.submission = some submission ∧
      client.Asks submission.prompt ∧ id = submission.prompt.value ∧
      value.value = intoBytes submission.text

/-- The response is the text that was submitted to this very prompt. -/
def Acceptance.Answers (acceptance : Acceptance) (submissions : List Submission) : Prop :=
  ∃ submission ∈ submissions, acceptance.submission = some submission ∧
    submission.prompt = acceptance.prompt ∧ acceptance.value.value = intoBytes submission.text

theorem Acceptance.Answers.mono {acceptance : Acceptance} {submissions more : List Submission}
    (answers : acceptance.Answers submissions) (grows : submissions ⊆ more) :
    acceptance.Answers more := by
  obtain ⟨submission, known, answer⟩ := answers
  exact ⟨submission, grows known, answer⟩

namespace Client

/-! ## The worker and its reader -/

theorem Attached.moved {client after : Client} (attached : client.Attached)
    (move : client.Move after) : after.Attached := by
  obtain ⟨events, shutdown⟩ := attached
  cases move with
  | read reading isOutbox =>
    rename_i stamped rest
    rcases ({ client with outbox := rest } : Client).readMessage_cases stamped with
      ⟨_, _, reads⟩ | ⟨_, reads⟩ | reads <;> rw [reads] <;> exact ⟨events, shutdown⟩
  | _ => exact ⟨events, shutdown⟩

theorem Move.accepted {client after : Client} (move : client.Move after) :
    after.accepted = client.accepted ∨
      ∃ posted rest acceptance, client.worker.phase.waits = true ∧ client.inbox = posted :: rest ∧
        client.acceptance posted = some acceptance ∧ after.accepted = acceptance :: client.accepted := by
  cases move with
  | received waits isInbox =>
    rename_i posted rest
    cases accepts : client.acceptance posted with
    | none => exact .inl rfl
    | some acceptance => exact .inr ⟨posted, rest, acceptance, waits, isInbox, accepts, rfl⟩
  | read reading isOutbox =>
    rename_i stamped rest
    rcases ({ client with outbox := rest } : Client).readMessage_cases stamped with
      ⟨_, _, reads⟩ | ⟨_, reads⟩ | reads <;> rw [reads] <;> exact .inl rfl
  | _ => exact .inl rfl

theorem not_live_of_exited {client : Client} {clean : Bool}
    (exited : client.worker.phase = .exited clean) : client.live = false := by
  simp [live, exited, Phase.waits]

theorem breakOff_not_live (client : Client) : client.breakOff.live = false := by
  obtain ⟨clean, exited⟩ := client.worker.kill_exited
  exact not_live_of_exited exited

/-- The reader only carries events on. -/
theorem read_pending {client : Client} {stamped : Stamped Message} {rest : List (Stamped Message)}
    (reading : client.reader = .reading) (isOutbox : client.outbox = stamped :: rest)
    (live : (({ client with outbox := rest } : Client).readMessage stamped).live = true) :
    ∃ reader, ({ client with outbox := rest } : Client).readMessage stamped =
        { client with outbox := rest, reader := reader } ∧
      (({ client with outbox := rest } : Client).readMessage stamped).pending = client.pending := by
  obtain ⟨message, origin⟩ := stamped
  rcases ({ client with outbox := rest } : Client).readMessage_cases { value := message, origin } with
    ⟨event, isEvent, reads⟩ | ⟨isSuccess, reads⟩ | reads
  · refine ⟨_, reads, ?_⟩
    simp only at isEvent
    rw [reads]
    simp [pending, publish, reading, isOutbox, Reader.pending, Stamped.event, isEvent]
  · refine ⟨_, reads, ?_⟩
    simp only at isSuccess
    rw [reads]
    simp [pending, reading, isOutbox, Reader.pending, List.filterMap_cons, Stamped.event, isSuccess, eventOf]
  · rw [reads, breakOff_not_live] at live
    contradiction

theorem published_pending {client : Client} {event : Stamped Event} {last : Bool}
    (publishing : client.reader = .publishing event last) :
    ({ client with
        queue := client.queue ++ [event]
        reader := if last then .done else .reading } : Client).pending = client.pending := by
  cases last <;> simp [pending, publishing, Reader.pending]

/-- The events that the worker causes by writing this message. -/
def spoken (client : Client) (message : Option Message) : List (Stamped Event) :=
  (message.map fun message =>
    { value := message, origin := client.origin : Stamped Message }).toList.filterMap Stamped.event

/-- What the worker writes ends the wait of the lock screen exactly when the worker waits itself. -/
theorem spoken_balance {client : Client} {worker : Worker} {message : Option Message}
    (authenticating : client.worker.phase = .authenticating)
    (outcome : client.worker.Outcome worker message)
    (live : ({ client with worker := worker } : Client).live = true) :
    (if worker.phase = .authenticating then 1 else 0) +
      (client.spoken message).countP (·.value.settles) = 1 := by
  cases outcome with
  | silent _ phase => simp [spoken, phase, authenticating]
  | told text error =>
    cases error <;> simp [spoken, authenticating, Stamped.event, eventOf, Event.settles]
  | asked text secret => simp [spoken, Stamped.event, eventOf, Event.settles]
  | rejected => simp [spoken, Stamped.event, eventOf, Event.settles]
  | succeeded => simp [Client.live, Phase.waits] at live
  | lost => simp [Client.live, Phase.waits] at live

theorem spoken_prompt {client : Client} {worker : Worker} {message : Option Message}
    (outcome : client.worker.Outcome worker message) {event : Stamped Event} {id : UInt64}
    {secret : Bool} {text : String} (member : event ∈ client.spoken message)
    (isPrompt : event.value = .prompt id secret text) :
    worker.phase = .prompting id ∧ worker.iteration = client.worker.iteration ∧
      event.origin = client.origin := by
  cases outcome with
  | silent => simp [spoken] at member
  | told text error =>
    cases error <;> simp [spoken, Stamped.event, eventOf] at member <;> simp [member] at isPrompt
  | asked asked hidden =>
    obtain rfl : event = { value := .prompt client.worker.nextId hidden asked, origin := client.origin } := by
      simpa [spoken, Stamped.event, eventOf] using member
    simp only [Event.prompt.injEq] at isPrompt
    exact ⟨by simp [isPrompt], rfl, rfl⟩
  | rejected =>
    simp [spoken, Stamped.event, eventOf] at member
    simp [member] at isPrompt
  | succeeded => simp [spoken, Stamped.event, eventOf] at member
  | lost => simp [spoken] at member

end Client

namespace LockerPresentation

/-! ## Who speaks next -/

theorem Agrees.congr {presentation : LockerPresentation} {client after : Client}
    (agrees : presentation.Agrees client) (worker : after.worker = client.worker)
    (process : after.process = client.process) (inbox : after.inbox = client.inbox)
    (pending : after.pending = client.pending) : presentation.Agrees after := by
  have tokens : after.tokens = client.tokens := by
    simp only [Client.tokens, Client.working, worker, inbox, pending]
  have asks : ∀ prompt, client.Asks prompt → after.Asks prompt := by
    intro prompt
    simp only [Client.Asks, Client.origin, worker, process]
    exact id
  refine ⟨tokens ▸ agrees.turns, fun unconfirmed => tokens.trans (agrees.pristine unconfirmed), ?_,
    fun prompt displayed => asks prompt (agrees.displayed prompt displayed), ?_⟩
  · intro event member id secret text isPrompt
    exact asks _ (agrees.prompts event (pending ▸ member) id secret text isPrompt)
  · intro posted member id value isResponse
    obtain ⟨submission, known, isSubmission, asked, same, bytes⟩ :=
      agrees.responses posted (inbox ▸ member) id value isResponse
    exact ⟨submission, known, isSubmission, asks _ asked, same, bytes⟩

/-- While something is under way, the user is not asked. -/
theorem Agrees.submitting {presentation : LockerPresentation} {client : Client}
    (agrees : presentation.Agrees client) (busy : 0 < client.tokens) :
    presentation.conversation.status = .submitting ∧ presentation.confirmed = true := by
  have turns := agrees.turns
  refine ⟨?_, ?_⟩
  · by_contra other
    simp only [other, if_false] at turns
    omega
  · by_contra unconfirmed
    have nothing := agrees.pristine (by simpa using unconfirmed)
    omega

theorem Agrees.tokens_le {presentation : LockerPresentation} {client : Client}
    (agrees : presentation.Agrees client) : client.tokens ≤ 1 :=
  Nat.le_trans (Nat.le_add_right _ _) agrees.turns

/-- While the user is asked or may retry, nothing is under way. -/
theorem Agrees.quiet {presentation : LockerPresentation} {client : Client}
    (agrees : presentation.Agrees client)
    (rests : presentation.conversation.status ≠ .submitting ∨ presentation.confirmed = false) :
    client.tokens = 0 := by
  cases rests with
  | inl status =>
    have turns := agrees.turns
    simp only [status, if_false] at turns
    omega
  | inr unconfirmed => exact agrees.pristine unconfirmed

theorem agrees_of_submitting {presentation : LockerPresentation} {client : Client}
    (consistent : presentation.Consistent) (submitting : presentation.conversation.status = .submitting)
    (confirmed : presentation.confirmed = true) (inbox : client.inbox = []) (tokens : client.tokens ≤ 1)
    (prompts : ∀ event ∈ client.pending, ∀ id secret text, event.value = .prompt id secret text →
      client.Asks { value := id, origin := event.origin }) : presentation.Agrees client := by
  refine ⟨by simpa [submitting] using tokens, by simp [confirmed], prompts, ?_, by simp [inbox]⟩
  intro prompt displayed
  have waiting := consistent.prompt.mp (by simp [displayed])
  rw [submitting] at waiting
  contradiction

theorem no_prompt {events : List (Stamped Event)} (unsettled : events.countP (·.value.settles) = 0)
    {event : Stamped Event} (member : event ∈ events) {id : UInt64} {secret : Bool} {text : String} :
    event.value ≠ .prompt id secret text := by
  intro isPrompt
  exact List.countP_eq_zero.mp unsettled event member (by simp [isPrompt, Event.settles])

theorem Agrees.received {presentation : LockerPresentation} {client : Client}
    (agrees : presentation.Agrees client) (consistent : presentation.Consistent) {posted : Posted}
    {rest : List Posted} (waits : client.worker.phase.waits = true)
    (isInbox : client.inbox = posted :: rest) (accepted : List Acceptance)
    (live : ({ client with worker := client.worker.receive (.ok posted.message) } : Client).live = true) :
    presentation.Agrees { client with
      worker := client.worker.receive (.ok posted.message)
      inbox := rest
      accepted := accepted } := by
  have busy : 0 < client.tokens := by simp only [Client.tokens, isInbox, List.length_cons]; omega
  obtain ⟨submitting, confirmed⟩ := agrees.submitting busy
  have bound := agrees.tokens_le
  simp only [Client.tokens, isInbox, List.length_cons] at bound
  have unsettled : client.pending.countP (·.value.settles) = 0 := by omega
  have empty : rest = [] := List.length_eq_zero_iff.mp (by omega)
  have authenticating : (client.worker.receive (.ok posted.message)).phase = .authenticating := by
    rcases Worker.receive_phase waits (.ok posted.message) with authenticating | ⟨success, returning⟩
    · exact authenticating
    · simp [Client.live, returning, Phase.waits] at live
  refine agrees_of_submitting consistent submitting confirmed empty ?_ ?_
  · change rest.length + Client.working _ + client.pending.countP (·.value.settles) ≤ 1
    simp only [empty, unsettled, Client.working, List.length_nil, authenticating, if_true]
    exact Nat.le_refl 1
  · intro event member id secret text isPrompt
    exact absurd isPrompt (no_prompt unsettled member)

theorem Agrees.acted {presentation : LockerPresentation} {client : Client}
    (agrees : presentation.Agrees client) (consistent : presentation.Consistent) {worker : Worker}
    {message : Option Message} (authenticating : client.worker.phase = .authenticating)
    (outcome : client.worker.Outcome worker message) (sent : List Message)
    (live : ({ client with worker := worker } : Client).live = true) :
    presentation.Agrees { client with
      worker := worker
      outbox := client.outbox ++ (message.map fun message =>
        { value := message, origin := client.origin : Stamped Message }).toList
      sent := sent } := by
  have busy : 0 < client.tokens := by
    simp only [Client.tokens, Client.working, authenticating, if_true]; omega
  obtain ⟨submitting, confirmed⟩ := agrees.submitting busy
  have bound := agrees.tokens_le
  simp only [Client.tokens, Client.working, authenticating, if_true] at bound
  have unsettled : client.pending.countP (·.value.settles) = 0 := by omega
  have empty : client.inbox = [] := List.length_eq_zero_iff.mp (by omega)
  have pending : Client.pending { client with
      worker := worker
      outbox := client.outbox ++ (message.map fun message =>
        { value := message, origin := client.origin : Stamped Message }).toList
      sent := sent } = client.pending ++ client.spoken message := by
    simp [Client.pending, Client.spoken]
  have balance := Client.spoken_balance authenticating outcome live
  refine agrees_of_submitting consistent submitting confirmed empty ?_ ?_
  · rw [Client.tokens, pending, List.countP_append]
    simp only [Client.working, empty, List.length_nil]
    omega
  · intro event member id secret text isPrompt
    rw [pending] at member
    cases List.mem_append.mp member with
    | inl old => exact absurd isPrompt (no_prompt unsettled old)
    | inr isNew =>
      obtain ⟨asks, iteration, origin⟩ := Client.spoken_prompt outcome isNew isPrompt
      exact ⟨asks, by simp [origin, Client.origin, iteration]⟩

theorem Agrees.moved {presentation : LockerPresentation} {client after : Client}
    (agrees : client.live = true → presentation.Agrees client) (consistent : presentation.Consistent)
    (attached : client.Attached) (move : client.Move after) (live : after.live = true) :
    presentation.Agrees after := by
  cases move with
  | received waits isInbox =>
    exact (agrees (by simp [Client.live, waits])).received consistent waits isInbox _ live
  | closed waits shutdown => exact absurd (attached.shutdown.symm.trans shutdown) (by simp)
  | acted authenticating outcome =>
    exact (agrees (by simp [Client.live, authenticating])).acted consistent authenticating outcome _ live
  | exited returning => simp [Client.live, Phase.waits] at live
  | died alive =>
    obtain ⟨clean, exited⟩ := client.worker.kill_exited
    rw [Client.not_live_of_exited exited] at live
    contradiction
  | broke busy =>
    rw [Client.breakOff_not_live] at live
    contradiction
  | read reading isOutbox =>
    obtain ⟨reader, reads, pending⟩ := Client.read_pending reading isOutbox live
    rw [reads] at live pending ⊢
    exact (agrees live).congr rfl rfl rfl pending
  | published publishing events =>
    exact (agrees live).congr rfl rfl rfl (Client.published_pending publishing)
  | dropped publishing events => exact absurd (attached.events.symm.trans events) (by simp)
  | reaped reaping exited =>
    have ended : client.live = false := Client.not_live_of_exited exited
    exact absurd (ended.symm.trans live) (by simp)

/-! ## The lock screen -/

theorem Agrees.posted {next : LockerPresentation} {client : Client} {posted : Posted} {wrote : Bool}
    (quiet : client.tokens = 0) (unsettled : client.pending.countP (·.value.settles) = 0)
    (submitting : next.conversation.status = .submitting) (confirmed : next.confirmed = true)
    (hidden : next.promptId = none)
    (response : ∀ id value, posted.message = .response id value →
      ∃ submission ∈ next.history.submissions, posted.submission = some submission ∧
        client.Asks submission.prompt ∧ id = submission.prompt.value ∧
        value.value = intoBytes submission.text) : next.Agrees (client.posted posted wrote) := by
  have empty : client.inbox = [] := by
    simp only [Client.tokens] at quiet
    exact List.length_eq_zero_iff.mp (by omega)
  refine ⟨?_, by simp [confirmed], ?_, by simp [hidden], ?_⟩
  · simp only [submitting, if_true]
    simp only [Client.tokens, empty, List.length_nil] at quiet
    simp only [Client.tokens, Client.posted, empty, List.nil_append, List.length_singleton]
    change 1 + client.working + client.pending.countP (·.value.settles) + 0 ≤ 1
    omega
  · intro event member id secret text isPrompt
    exact absurd isPrompt (no_prompt unsettled member)
  · intro other member id value isResponse
    obtain rfl : other = posted := by simpa [Client.posted, empty] using member
    exact response id value isResponse

theorem unsettled_of_quiet {client : Client} (quiet : client.tokens = 0) :
    client.pending.countP (·.value.settles) = 0 := by
  simp only [Client.tokens] at quiet
  omega

/-- A response is what the submission says, to the prompt that was displayed. -/
theorem Agrees.input {presentation next : LockerPresentation} (consistent : presentation.Consistent)
    (agrees : ∀ attempt client, presentation.auth = some (attempt, client) → client.live = true →
      presentation.Agrees client)
    (change : presentation.Change next) :
    ∀ attempt client, next.auth = some (attempt, client) → client.live = true → next.Agrees client := by
  cases change with
  | edited conversation page status attempt =>
    intro attempt client active live
    obtain ⟨turns, pristine, prompts, displayed, responses⟩ := agrees attempt client active live
    exact ⟨status ▸ turns, pristine, prompts, displayed, responses⟩
  | began unconfirmed active alive =>
    rintro attempt client ⟨⟩ live
    have before := agrees _ _ active live
    have quiet := before.quiet (.inr unconfirmed)
    have submitting := consistent.pristine unconfirmed
    have hidden : presentation.promptId = none := by
      simpa [submitting] using consistent.prompt
    exact Agrees.posted quiet (unsettled_of_quiet quiet) submitting rfl hidden nofun
  | responded confirmed active alive displayed waiting status same bytes =>
    rintro attempt client ⟨⟩ live
    have before := agrees _ _ active live
    have quiet := before.quiet (.inl (by simp [waiting]))
    refine Agrees.posted quiet (unsettled_of_quiet quiet) status confirmed rfl ?_
    rintro id value ⟨⟩
    exact ⟨_, List.mem_cons_self, rfl, before.displayed _ displayed, rfl, bytes⟩
  | retried confirmed failed active alive status =>
    rintro attempt client ⟨⟩ live
    have quiet := (agrees _ _ active live).quiet (.inl (by simp [failed]))
    exact Agrees.posted quiet (unsettled_of_quiet quiet) status confirmed rfl nofun
  | failed _ confirmed status prompt worker continues =>
    intro attempt client active live
    rcases worker with absent | ⟨same, _, rests⟩
    · simp [absent] at active
    · have before := agrees attempt client (same ▸ active) live
      have quiet : client.tokens = 0 := by
        refine before.quiet ?_
        cases isConfirmed : presentation.confirmed with
        | true => exact .inl (rests isConfirmed)
        | false => exact .inr rfl
      have empty : client.inbox = [] := by
        simp only [Client.tokens] at quiet
        exact List.length_eq_zero_iff.mp (by omega)
      exact ⟨by simp [quiet, status], fun _ => quiet, before.prompts, by simp [prompt], by simp [empty]⟩
  | replaced _ confirmed stays status prompt worker continues =>
    intro attempt client active live
    rw [worker] at active
    cases active
    exact Agrees.posted rfl rfl status stays prompt nofun

theorem Agrees.event {presentation : LockerPresentation} {attempt : Attempt} {client : Client}
    {event : Stamped Event} {rest : List (Stamped Event)} (agrees : presentation.Agrees client)
    (confirmed : presentation.confirmed = true)
    (current : attempt = presentation.conversation.attempt) (isQueue : client.queue = event :: rest) :
    ((presentation.withClient attempt { client with queue := rest }).handleEvent attempt event).Agrees
      { client with queue := rest } := by
  let taken := presentation.withClient attempt { client with queue := rest }
  have handled := taken.handleEvent_handled attempt event
  have pending : client.pending = event :: ({ client with queue := rest } : Client).pending := by
    simp [Client.pending, isQueue]
  have tokens : client.tokens = ({ client with queue := rest } : Client).tokens +
      (if event.value.settles = true then 1 else 0) := by
    simp only [Client.tokens, pending, List.countP_cons]
    simp only [Client.working]
    omega
  have prompts := fun other member => agrees.prompts other (pending ▸ List.mem_cons_of_mem event member)
  have asked := agrees.prompts event (pending ▸ List.mem_cons_self)
  have responses : ∀ posted ∈ client.inbox, ∀ id value, posted.message = .response id value →
      ∃ submission ∈ (taken.handleEvent attempt event).history.submissions,
        posted.submission = some submission ∧ client.Asks submission.prompt ∧
        id = submission.prompt.value ∧ value.value = intoBytes submission.text := by
    rw [handled.submissions]
    exact agrees.responses
  have isConfirmed : (taken.handleEvent attempt event).confirmed = true :=
    handled.confirmed.trans confirmed
  have bound := agrees.tokens_le
  change (taken.handleEvent attempt event).Agrees { client with queue := rest }
  obtain ⟨value, origin⟩ := event
  cases value with
  | prompt id secret text =>
    have shown := taken.handleEvent_prompt id secret text origin current
    simp only [Event.settles, if_true] at tokens
    refine ⟨by simp [shown.1]; omega, by simp [isConfirmed], prompts, ?_, responses⟩
    intro prompt displayed
    rw [shown.2.1] at displayed
    cases displayed
    exact asked id secret text rfl
  | notice error text =>
    have told := taken.handleEvent_notice attempt error text origin
    have same : client.tokens = ({ client with queue := rest } : Client).tokens := by
      simpa [Event.settles] using tokens
    refine ⟨?_, by simp [isConfirmed], prompts, ?_, responses⟩
    · rw [told.1, ← same]
      exact agrees.turns
    · rw [told.2.1]
      exact agrees.displayed
  | success =>
    have ended := taken.handleEvent_success origin current
    simp only [Event.settles, if_true] at tokens
    exact ⟨by simp [ended.1]; omega, by simp [isConfirmed], prompts, by simp [ended.2.1], responses⟩
  | failure =>
    have ended := taken.handleEvent_failure origin current
    simp only [Event.settles, if_true] at tokens
    exact ⟨by simp [ended.1]; omega, by simp [isConfirmed], prompts, by simp [ended.2.1], responses⟩

theorem attached_input {presentation next : LockerPresentation}
    (attached : ∀ attempt client, presentation.auth = some (attempt, client) → client.Attached)
    (change : presentation.Change next) :
    ∀ attempt client, next.auth = some (attempt, client) → client.Attached := by
  have posted : ∀ {attempt : Attempt} {client : Client} {posted : Posted} {wrote : Bool},
      presentation.auth = some (attempt, client) → (client.posted posted wrote).Attached := by
    intro attempt client posted wrote active
    obtain ⟨events, shutdown⟩ := attached attempt client active
    exact ⟨events, shutdown⟩
  cases change with
  | edited => exact attached
  | began unconfirmed active =>
    rintro attempt client ⟨⟩
    exact posted active
  | responded confirmed active =>
    rintro attempt client ⟨⟩
    exact posted active
  | retried confirmed failed active =>
    rintro attempt client ⟨⟩
    exact posted active
  | failed _ confirmed status prompt worker continues =>
    intro attempt client active
    rcases worker with absent | ⟨same, _⟩
    · simp [absent] at active
    · exact attached attempt client (same ▸ active)
  | replaced _ confirmed stays status prompt worker continues =>
    intro attempt client active
    rw [worker] at active
    cases active
    exact ⟨rfl, rfl⟩

/-! ## Accepted responses -/

/-- The current and all retired workers. -/
def clients (presentation : LockerPresentation) : List Client :=
  (presentation.auth.map (·.2)).toList ++ presentation.history.retired

theorem mem_clients_of_active {presentation : LockerPresentation} {attempt : Attempt} {client : Client}
    (active : presentation.auth = some (attempt, client)) : client ∈ presentation.clients := by
  simp [clients, active]

/-- Input accepts no responses. -/
theorem Change.accepted {presentation next : LockerPresentation} (change : presentation.Change next) :
    ∀ client ∈ next.clients, client.accepted = [] ∨
      ∃ old ∈ presentation.clients, client.accepted = old.accepted := by
  have posted : ∀ {attempt : Attempt} {client : Client} {posted : Posted} {wrote : Bool}
      {retired : List Client}, presentation.auth = some (attempt, client) →
      retired = presentation.history.retired → ∀ other ∈ client.posted posted wrote :: retired,
        other.accepted = [] ∨ ∃ old ∈ presentation.clients, other.accepted = old.accepted := by
    rintro attempt client posted wrote retired active rfl other member
    rcases List.mem_cons.mp member with rfl | old
    · exact .inr ⟨client, mem_clients_of_active active, rfl⟩
    · exact .inr ⟨other, List.mem_append_right _ old, rfl⟩
  have continued : presentation.Continues next → ∀ client ∈ next.history.retired,
      client.accepted = [] ∨ ∃ old ∈ presentation.clients, client.accepted = old.accepted := by
    intro continues client member
    rcases continues.retired client member with old | none | ⟨attempt, current, active, same⟩
    · exact .inr ⟨client, List.mem_append_right _ old, rfl⟩
    · exact .inl none
    · exact .inr ⟨current, mem_clients_of_active active, same⟩
  cases change with
  | edited => exact fun client member => .inr ⟨client, member, rfl⟩
  | began unconfirmed active alive => exact posted active rfl
  | responded confirmed active => exact posted active rfl
  | retried confirmed failed active => exact posted active rfl
  | failed _ confirmed status prompt worker continues =>
    intro client member
    cases List.mem_append.mp member with
    | inl current =>
      rcases worker with absent | ⟨same, _⟩
      · simp [absent] at current
      · exact .inr ⟨client, List.mem_append_left _ (same ▸ current), rfl⟩
    | inr retired => exact continued continues client retired
  | replaced _ confirmed stays status prompt worker continues =>
    intro client member
    cases List.mem_append.mp member with
    | inl current =>
      obtain rfl : client = presentation.replacement := by simpa [worker] using current
      exact .inl rfl
    | inr retired => exact continued continues client retired

/-- A submission is made of the displayed prompt and the text typed so far. -/
theorem Change.submissions {presentation next : LockerPresentation} (change : presentation.Change next) :
    next.history.submissions = presentation.history.submissions ∨
      ∃ prompt, presentation.promptId = some prompt ∧ next.history.submissions =
        presentation.submission prompt presentation.conversation.input ::
          presentation.history.submissions := by
  cases change with
  | edited => exact .inl rfl
  | began => exact .inl rfl
  | responded confirmed active alive displayed => exact .inr ⟨_, displayed, rfl⟩
  | retried => exact .inl rfl
  | failed _ confirmed status prompt worker continues => exact continues.submissions
  | replaced _ confirmed stays status prompt worker continues => exact continues.submissions

/-- The response that a prompt accepts is the answer to it. -/
theorem Agrees.answers {presentation : LockerPresentation} {client : Client}
    (agrees : presentation.Agrees client) {posted : Posted} {rest : List Posted}
    (isInbox : client.inbox = posted :: rest) {acceptance : Acceptance}
    (accepts : client.acceptance posted = some acceptance) :
    acceptance.Answers presentation.history.submissions := by
  obtain ⟨⟨id, value⟩, isAccepted, rfl⟩ := Option.map_eq_some_iff.mp accepts
  simp only [Worker.accepts] at isAccepted
  split at isAccepted
  next prompting responseId response phase isResponse =>
    split at isAccepted
    next same =>
      cases isAccepted
      obtain ⟨submission, known, isSubmission, ⟨asked, origin⟩, number, bytes⟩ :=
        agrees.responses posted (isInbox ▸ List.mem_cons_self) responseId value isResponse
      refine ⟨submission, known, isSubmission, ?_, bytes⟩
      cases hasPrompt : submission.prompt with
      | mk promptId promptOrigin =>
        rw [hasPrompt] at number origin
        simp only at number origin
        rw [origin, ← number, same]
    next => contradiction
  next => contradiction

/-- Submissions are numbered in the order in which they are made. -/
def Serial (presentation : LockerPresentation) : Prop :=
  presentation.history.submissions.map (·.serial) =
    (List.range presentation.history.submissions.length).reverse

theorem Serial.changed {presentation next : LockerPresentation} (serial : presentation.Serial)
    (submissions : next.history.submissions = presentation.history.submissions ∨
      ∃ prompt, presentation.promptId = some prompt ∧ next.history.submissions =
        presentation.submission prompt presentation.conversation.input ::
          presentation.history.submissions) : next.Serial := by
  rcases submissions with same | ⟨prompt, _, more⟩
  · simpa [Serial, same] using serial
  · rw [Serial, more, List.map_cons, List.length_cons, List.range_succ, List.reverse_append]
    exact congrArg _ serial

end LockerPresentation

namespace World

structure Agrees (world : World) : Prop where
  attached : ∀ attempt client, world.presentation.auth = some (attempt, client) → client.Attached
  client : ∀ attempt client, world.presentation.auth = some (attempt, client) → client.live = true →
    world.presentation.Agrees client
  accepted : ∀ client ∈ world.presentation.clients, ∀ acceptance ∈ client.accepted,
    acceptance.Answers world.presentation.history.submissions
  serial : world.presentation.Serial

/-- Steps add to the submissions, and only what is displayed and typed. -/
theorem Change.submissions {world next : World} (change : world.Change next) :
    next.presentation.history.submissions = world.presentation.history.submissions ∨
      ∃ prompt, world.presentation.promptId = some prompt ∧ next.presentation.history.submissions =
        world.presentation.submission prompt world.presentation.conversation.input ::
          world.presentation.history.submissions := by
  cases change with
  | input idle change => exact change.submissions
  | event receiving active isQueue => exact .inl (LockerPresentation.handleEvent_handled ..).submissions
  | _ => exact .inl rfl

theorem Agrees.changed {world next : World} (consistent : world.Consistent) (agrees : world.Agrees)
    (change : world.Change next) : next.Agrees := by
  -- Nothing that was submitted is forgotten, so what was accepted before stays justified.
  have grows : world.presentation.history.submissions ⊆ next.presentation.history.submissions := by
    rcases change.submissions with same | ⟨prompt, _, more⟩
    · exact same ▸ List.Subset.refl _
    · exact more ▸ List.subset_cons_self ..
  have serial := agrees.serial.changed change.submissions
  obtain ⟨attached, clients, accepted, _⟩ := agrees
  cases change with
  | input idle change =>
    refine ⟨LockerPresentation.attached_input attached change,
      LockerPresentation.Agrees.input consistent.presentation clients change, ?_, serial⟩
    intro other member acceptance isAccepted
    rcases change.accepted other member with none | ⟨old, known, same⟩
    · simp [none] at isAccepted
    · exact (accepted old known acceptance (same ▸ isAccepted)).mono grows
  | event receiving active isQueue =>
    rename_i remaining attempt client event rest
    let taken := world.presentation.withClient attempt { client with queue := rest }
    have handled := taken.handleEvent_handled attempt event
    have isAuth : (taken.handleEvent attempt event).auth =
        some (attempt, { client with queue := rest }) := handled.auth
    refine ⟨?_, ?_, ?_, serial⟩
    · intro other otherClient isOther
      obtain ⟨rfl, rfl⟩ := Prod.mk.inj (Option.some.inj (isAuth.symm.trans isOther))
      obtain ⟨events, shutdown⟩ := attached attempt client active
      exact ⟨events, shutdown⟩
    · intro other otherClient isOther live
      obtain ⟨rfl, rfl⟩ := Prod.mk.inj (Option.some.inj (isAuth.symm.trans isOther))
      exact (clients attempt client active live).event (consistent.receiving _ receiving)
        (consistent.presentation.attempt attempt client active) isQueue
    · intro other member acceptance isAccepted
      change other ∈ (taken.handleEvent attempt event).clients at member
      simp only [LockerPresentation.clients, isAuth, handled.retired] at member
      cases List.mem_append.mp member with
      | inl current =>
        obtain rfl : other = { client with queue := rest } := by simpa using current
        exact (accepted client (LockerPresentation.mem_clients_of_active active) acceptance
          isAccepted).mono grows
      | inr retired => exact (accepted other (List.mem_append_right _ retired) acceptance isAccepted).mono grows
  | turned polls notIdle => exact ⟨attached, clients, accepted, serial⟩
  | taken received =>
    refine ⟨attached, ?_, accepted, serial⟩
    intro attempt client active live
    obtain ⟨turns, pristine, prompts, displayed, responses⟩ := clients attempt client active live
    exact ⟨turns, pristine, prompts, displayed, responses⟩
  | moved active move =>
    rename_i attempt client after
    refine ⟨?_, ?_, ?_, serial⟩
    · rintro other otherClient ⟨⟩
      exact (attached attempt client active).moved move
    · rintro other otherClient ⟨⟩ live
      obtain ⟨turns, pristine, prompts, displayed, responses⟩ := LockerPresentation.Agrees.moved
        (clients attempt client active) consistent.presentation (attached attempt client active) move live
      exact ⟨turns, pristine, prompts, displayed, responses⟩
    · intro other member acceptance isAccepted
      rcases List.mem_cons.mp member with rfl | retired
      · -- What the worker has accepted is old, or the response that it just received.
        have before := accepted client (LockerPresentation.mem_clients_of_active active)
        rcases move.accepted with same | ⟨posted, rest, isNew, waits, isInbox, accepts, more⟩
        · exact before acceptance (same ▸ isAccepted)
        · rw [more] at isAccepted
          rcases List.mem_cons.mp isAccepted with rfl | old
          · exact (clients attempt client active (by simp [Client.live, waits])).answers isInbox accepts
          · exact before acceptance old
      · exact accepted other (List.mem_append_right _ retired) acceptance isAccepted

theorem start_agrees : start.Agrees where
  attached := by
    rintro attempt client ⟨⟩
    exact ⟨rfl, rfl⟩
  client := by
    rintro attempt client ⟨⟩ _
    exact ⟨Nat.zero_le 1, fun _ => rfl, nofun, nofun, nofun⟩
  accepted := by
    intro client member acceptance isAccepted
    obtain rfl : client = .new 0 := List.mem_singleton.mp member
    contradiction
  serial := rfl

end World

theorem locker_agrees {world : World} (reachable : locker.Reachable world) : world.Agrees :=
  locker_invariant World.start_agrees
    (fun _ _ reached agrees change => agrees.changed (locker_consistent reached) change) reachable

/-- Every submission was made while its prompt was displayed, of the text that was typed. -/
theorem submitted_before (run : locker.Run) (index : Nat) (bound : index ≤ run.length) :
    ∀ submission ∈ (run.state index).presentation.history.submissions, ∃ earlier, earlier < index ∧
      (run.state earlier).presentation.promptId = some submission.prompt ∧
      (run.state earlier).presentation.conversation.input = submission.text ∧
      (run.state (earlier + 1)).presentation.history.submissions =
        submission :: (run.state earlier).presentation.history.submissions := by
  refine run.indexed_invariant (fun index =>
    ∀ submission ∈ (run.state index).presentation.history.submissions, ∃ earlier, earlier < index ∧
      (run.state earlier).presentation.promptId = some submission.prompt ∧
      (run.state earlier).presentation.conversation.input = submission.text ∧
      (run.state (earlier + 1)).presentation.history.submissions =
        submission :: (run.state earlier).presentation.history.submissions) ?_ ?_ index bound
  · intro submission member
    have starts : run.state 0 = World.start := run.starts
    rw [starts] at member
    contradiction
  · intro index bound before submission member
    have earlier : submission ∈ (run.state index).presentation.history.submissions →
        ∃ earlier, earlier < index + 1 ∧
          (run.state earlier).presentation.promptId = some submission.prompt ∧
          (run.state earlier).presentation.conversation.input = submission.text ∧
          (run.state (earlier + 1)).presentation.history.submissions =
            submission :: (run.state earlier).presentation.history.submissions := by
      intro old
      obtain ⟨earlier, order, displayed⟩ := before submission old
      exact ⟨earlier, Nat.lt_succ_of_lt order, displayed⟩
    have consistent := locker_consistent (run.reachable index (Nat.le_of_lt bound))
    cases World.next_change consistent (run.steps index bound) with
    | inl change =>
      rcases change.submissions with kept | ⟨prompt, displayed, more⟩
      · exact earlier (kept ▸ member)
      · have added := more
        rw [more] at member
        rcases List.mem_cons.mp member with rfl | old
        · exact ⟨index, Nat.lt_succ_self index, displayed, rfl, added⟩
        · exact earlier old
    | inr same => exact earlier (same ▸ member)

/-- A response that a prompt accepts is the text that was submitted while this prompt of this attempt
of this worker was displayed, and no other prompt accepts the submission. -/
theorem prompt_agreement (run : locker.Run) {index : Nat} (bound : index ≤ run.length)
    {client : Client} (known : client ∈ (run.state index).presentation.clients)
    {acceptance : Acceptance} (accepted : acceptance ∈ client.accepted) :
    ∃ submission, acceptance.submission = some submission ∧
      acceptance.value.value = intoBytes submission.text ∧
      (∃ earlier, earlier < index ∧
        (run.state earlier).presentation.promptId = some acceptance.prompt ∧
        (run.state earlier).presentation.conversation.input = submission.text ∧
        (run.state (earlier + 1)).presentation.history.submissions =
          submission :: (run.state earlier).presentation.history.submissions) ∧
      ∀ other ∈ (run.state index).presentation.clients, ∀ again ∈ other.accepted,
        ∀ resubmission, again.submission = some resubmission →
          resubmission.serial = submission.serial → again.prompt = acceptance.prompt := by
  have agrees := locker_agrees (run.reachable index bound)
  obtain ⟨submission, member, isSubmission, isPrompt, bytes⟩ :=
    agrees.accepted client known acceptance accepted
  have displayed := submitted_before run index bound submission member
  rw [isPrompt] at displayed
  refine ⟨submission, isSubmission, bytes, displayed, ?_⟩
  intro other isOther again isAccepted resubmission isResubmission same
  obtain ⟨answered, answeredMember, isAnswered, answeredPrompt, _⟩ :=
    agrees.accepted other isOther again isAccepted
  obtain rfl : answered = resubmission := Option.some.inj (isAnswered.symm.trans isResubmission)
  have distinct : ((run.state index).presentation.history.submissions.map (·.serial)).Nodup := by
    rw [agrees.serial]
    exact List.nodup_reverse.mpr List.nodup_range
  have equal : answered = submission := List.inj_on_of_nodup_map distinct answeredMember member same
  rw [← answeredPrompt, equal, isPrompt]

/-- The worker asks, the user types an answer and submits it, and the worker accepts it. -/
def answerLabels : List Label :=
  [.lockConfirmed {}, .workerReceive, .workerAct (.prompt "" true true), .readerStep false,
    .readerStep false, .receiveLatest, .receiveEvent, .receiveEvent, .takeAuthorization,
    .input (.text "pin") {}, .input .submit {}, .workerReceive]

instance : Inhabited Label := ⟨.takeAuthorization⟩

def answerRun : locker.Run :=
  TransitionSystem.runOfLabels World.start rfl answerLabels (by decide +kernel)

theorem prompt_agreement_sample :
    ∃ client ∈ (answerRun.state 12).presentation.clients, ∃ acceptance ∈ client.accepted,
    ∃ submission, acceptance.submission = some submission ∧ submission.text = "pin" ∧
      acceptance.value.value = intoBytes submission.text ∧
      (∃ earlier, earlier < 12 ∧
        (answerRun.state earlier).presentation.promptId = some acceptance.prompt ∧
        (answerRun.state earlier).presentation.conversation.input = submission.text ∧
        (answerRun.state (earlier + 1)).presentation.history.submissions =
          submission :: (answerRun.state earlier).presentation.history.submissions) ∧
      ∀ other ∈ (answerRun.state 12).presentation.clients, ∀ again ∈ other.accepted,
        ∀ resubmission, again.submission = some resubmission →
          resubmission.serial = submission.serial → again.prompt = acceptance.prompt := by
  have isAccepted : ((answerRun.state 12).presentation.clients.flatMap Client.accepted).map
      (fun acceptance => acceptance.submission.map (·.text)) = [some "pin"] := by decide +kernel
  obtain ⟨acceptance, member, isText⟩ := List.mem_map.mp (isAccepted ▸ List.mem_singleton_self _)
  obtain ⟨client, known, accepted⟩ := List.mem_flatMap.mp member
  obtain ⟨submission, isSubmission, agrees⟩ :=
    prompt_agreement answerRun (show 12 ≤ answerRun.length from Nat.le_refl 12) known accepted
  have isPin : submission.text = "pin" := by simpa [isSubmission] using isText
  exact ⟨client, known, acceptance, accepted, submission, isSubmission, isPin, agrees⟩

end Genkan.Locker
