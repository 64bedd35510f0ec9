import Genkan.Foundations.Traces
import Genkan.LockAuth.Process
import Genkan.LockAuth.Worker

/-! # The process takes the steps of the worker

Whatever the system and the library answer, what a process sends and receives is a trace of the worker, and
the worker is done with a success only where PAM vouches for the user.
-/

namespace Genkan.LockAuth

open Foundations

/-! ## What PAM has to say -/

/-- Some calls of the conversation let the function return this. -/
def Yields {Result : Type} (program : Library Result) (result : Result) : Prop :=
  ∃ conversation, (program.run PamConversation.answer conversation).2 = result

/-- The transaction starts, authenticates a user that the database looks up as this one, and ends. -/
structure Transaction.Vouches (transaction : Transaction) (username : String) (uid : UInt32) : Prop where
  started : transaction.start service username = (pamSuccess, true)
  authenticated : Yields (transaction.authenticate pamDisallowNullAuthtok) pamSuccess
  named : ∃ memory name, Yields transaction.getUser (pamSuccess, some memory) ∧
    boundedUsername memory = some name ∧ usernameUid transaction.getpwnam name = some uid
  ended : Yields (transaction.finish pamSuccess) pamSuccess

theorem pamUid_named {transaction : Transaction} {conversation : PamConversation} {uid : UInt32}
    (found : (transaction.pamUid conversation).2 = some uid) :
    ∃ memory name, Yields transaction.getUser (pamSuccess, some memory) ∧
      boundedUsername memory = some name ∧ usernameUid transaction.getpwnam name = some uid := by
  rw [Transaction.pamUid] at found
  cases asked : transaction.getUser.run PamConversation.answer conversation with
  | mk conversation' answer =>
    obtain ⟨status, username⟩ := answer
    rw [asked] at found
    cases username with
    | none => cases found
    | some memory =>
      dsimp only at found
      split at found
      next => cases found
      next succeeds =>
        obtain ⟨name, isName, isUser⟩ := Option.bind_eq_some_iff.mp found
        rw [Decidable.not_not.mp succeeds] at asked
        exact ⟨memory, name, ⟨conversation, by rw [asked]⟩, isName, isUser⟩

theorem Transaction.run_vouches {transaction : Transaction} {username : String} {uid : UInt32}
    {conversation : PamConversation} (authenticates : (transaction.run username uid conversation).2 = true) :
    transaction.Vouches username uid := by
  simp only [Transaction.run] at authenticates
  split at authenticates
  next => contradiction
  next =>
    split at authenticates
    next => contradiction
    next started =>
      simp only [not_or, Decidable.not_not, Bool.not_eq_false] at started
      simp only [Transaction.sameUser, Bool.and_eq_true, beq_iff_eq] at authenticates
      obtain ⟨isUser, ended⟩ := authenticates
      split at isUser
      next succeeds =>
        simp only [beq_iff_eq] at isUser
        rw [succeeds] at ended
        exact
          { started := Prod.ext started.1 started.2
            authenticated := ⟨_, succeeds⟩
            named := pamUid_named isUser
            ended := ⟨_, ended⟩ }
      next => contradiction

/-! ## Steps of the worker -/

/-- A step with what is sent or received in it. -/
inductive Worker.Step (vouched : Nat → Prop) : Worker → List Event → Worker → Prop
  | act {worker : Worker} (act : Act) (inside : worker.phase = .authenticating)
      (justified : ∀ delivered, act = .finish true delivered → vouched worker.iteration) :
      Step vouched worker ((worker.act act).2.toList.map .sent) (worker.act act).1
  | receive {worker : Worker} (result : Except ProtocolError Message) (waits : worker.phase.waits = true) :
      Step vouched worker [.received result] (worker.receive result)
  | exit {worker : Worker} {success : Bool} (returning : worker.phase = .returning success) :
      Step vouched worker [] worker.exit

variable {vouched : Nat → Prop}

/-- The worker is inside `pam_authenticate` with this conversation. -/
structure Worker.Follows (worker : Worker) (conversation : PamConversation) : Prop where
  authenticating : worker.phase = .authenticating
  numbered : worker.nextId = conversation.nextId
  cancelled : worker.cancelled = conversation.cancelled

/-- The worker goes along with what a conversation becomes, within one attempt. -/
def Simulated (vouched : Nat → Prop) (before after : PamConversation) : Prop :=
  ∀ worker : Worker, worker.Follows before → ∃ said next, Trace (Worker.Step vouched) worker said next ∧
    next.Follows after ∧ next.iteration = worker.iteration ∧ after.connection.log = before.connection.log ++ said

theorem Simulated.trans {first second third : PamConversation} (before : Simulated vouched first second)
    (after : Simulated vouched second third) : Simulated vouched first third := by
  intro worker follows
  obtain ⟨said, next, trace, follows, same, logged⟩ := before worker follows
  obtain ⟨rest, last, later, follows, still, added⟩ := after next follows
  refine ⟨said ++ rest, last, trace.trans later, follows, still.trans same, ?_⟩
  rw [added, logged, List.append_assoc]

theorem simulated_notice (conversation : PamConversation) (text : String) (error : Bool) :
    Simulated vouched conversation (conversation.notice text error) := by
  intro worker follows
  have sends := send_cases conversation.connection (noticeMessage error text)
  have step (delivered : Bool) : Trace (Worker.Step vouched) worker _ _ :=
    .single (.act (.notice text error delivered) follows.authenticating (by simp))
  rcases sends with ⟨_, logged⟩ | ⟨_, _, logged⟩
  · exact ⟨_, _, step true, ⟨follows.authenticating, follows.numbered, follows.cancelled⟩, rfl, logged⟩
  · exact ⟨_, _, step false, ⟨follows.authenticating, follows.numbered, follows.cancelled⟩, rfl,
      logged.trans (List.append_nil _).symm⟩

theorem simulated_prompt (conversation : PamConversation) (text : String) (secret : Bool) :
    Simulated vouched conversation (conversation.prompt text secret).1 := by
  intro worker follows
  obtain ⟨phase, nextId, cancelled, iteration⟩ := worker
  obtain ⟨rfl, rfl, rfl⟩ := follows
  by_cases exhausted : conversation.nextId > maxMessages
  · rw [PamConversation.prompt, if_pos exhausted]
    exact ⟨[], _, .refl _, ⟨rfl, rfl, rfl⟩, rfl, (List.append_nil _).symm⟩
  · have step (delivered : Bool) : Trace (Worker.Step vouched)
        ⟨.authenticating, conversation.nextId, conversation.cancelled, iteration⟩ _ _ :=
      .single (.act (.prompt text secret delivered) rfl (by simp))
    simp only [Worker.act, Worker.prompt, if_neg exhausted] at step
    simp only [PamConversation.prompt, if_neg exhausted]
    have sends := send_cases conversation.connection (.prompt conversation.nextId secret text)
    generalize conversation.connection.send (.prompt conversation.nextId secret text) = outcome at sends ⊢
    obtain ⟨connection, result⟩ := outcome
    rcases sends with ⟨rfl, logged⟩ | ⟨error, rfl, logged⟩
    · -- One step for the message that is sent, and one for its answer.
      dsimp only at logged ⊢
      have receives : connection.receive.1.log = connection.log ++ [.received connection.receive.2] := rfl
      generalize connection.receive = reply at receives ⊢
      obtain ⟨connection', reply⟩ := reply
      have goesOn := (step true).trans (Trace.single (Worker.Step.receive reply rfl))
      have both : connection'.log = conversation.connection.log ++
          ([.sent (.prompt conversation.nextId secret text)] ++ [.received reply]) := by
        rw [receives, logged, List.append_assoc]
      cases reply with
      | error error => exact ⟨_, _, goesOn, ⟨rfl, rfl, rfl⟩, rfl, both⟩
      | ok message => cases message <;> exact ⟨_, _, goesOn, ⟨rfl, rfl, rfl⟩, rfl, both⟩
    · exact ⟨_, _, step false, ⟨rfl, rfl, rfl⟩, rfl, logged.trans (List.append_nil _).symm⟩

theorem kept_simulated : Kept (Simulated vouched) where
  refl _ worker follows := ⟨[], worker, .refl worker, follows, rfl, (List.append_nil _).symm⟩
  trans _ _ _ before after := before.trans after
  prompt conversation _ text secret _ := simulated_prompt conversation text secret
  notice conversation _ text error _ := simulated_notice conversation text error

/-! ## Passes -/

/-- The worker at the start of a pass. -/
def Worker.starting (iteration : Nat) : Worker where
  phase := .authenticating
  nextId := 1
  cancelled := false
  iteration := iteration

/-- Where the worker is after a pass. -/
def Worker.After (iteration : Nat) (worker : Worker) : PassResult → Prop
  | .again => worker = .starting (iteration + 1)
  | .ended clean => worker.phase = .exited clean

/-- The end of the attempt is one more step, in which the outcome is sent or cannot be. -/
theorem trace_finish {worker : Worker} (inside : worker.phase = .authenticating) (authenticated delivered : Bool)
    (justified : authenticated = true → vouched worker.iteration) :
    Trace (Worker.Step vouched) worker ((worker.finish authenticated delivered).2.toList.map .sent)
      (worker.finish authenticated delivered).1 := by
  refine Trace.single (Worker.Step.act (.finish authenticated delivered) inside ?_)
  intro _ isFinish
  cases isFinish
  exact justified rfl

/-- A worker that returns has nothing more to say. -/
theorem trace_exit {first worker : Worker} {said : List Event} {success : Bool}
    (trace : Trace (Worker.Step vouched) first said worker) (returning : worker.phase = .returning success) :
    ∃ next, Trace (Worker.Step vouched) first said next ∧ next.phase = .exited success := by
  have exits := trace.trans (.single (.exit returning))
  rw [List.append_nil] at exits
  refine ⟨_, exits, ?_⟩
  rw [Worker.exit, returning]

theorem pass_simulated (transaction : Transaction) (username : String) (uid : UInt32) (connection : Connection)
    (iteration : Nat) (vouches : transaction.Vouches username uid → vouched iteration) :
    ∃ said next, Trace (Worker.Step vouched) (.starting iteration) said next ∧
      (pass transaction username uid connection).1.log = connection.log ++ said ∧
      next.After iteration (pass transaction username uid connection).2 := by
  obtain ⟨said, worker, trace, follows, isIteration, logged⟩ := (kept_simulated : Kept (Simulated vouched)).transaction
    transaction username uid { connection, nextId := 1, cancelled := false } (.starting iteration) ⟨rfl, rfl, rfl⟩
  have justified : (transaction.run username uid { connection, nextId := 1, cancelled := false }).2 = true →
      vouched iteration := fun authenticates => vouches (Transaction.run_vouches authenticates)
  rw [pass]
  generalize transaction.run username uid { connection, nextId := 1, cancelled := false } = outcome
    at follows logged justified
  obtain ⟨conversation, authenticated⟩ := outcome
  dsimp only at follows logged justified ⊢
  change worker.iteration = iteration at isIteration
  subst isIteration
  have finishes (delivered : Bool) := trace.trans
    (trace_finish follows.authenticating authenticated delivered justified)
  simp only [Worker.finish, follows.cancelled] at finishes
  split
  next succeeds =>
    simp only [succeeds, if_true] at finishes
    have sends := send_cases conversation.connection .success
    generalize conversation.connection.send .success = outcome at sends ⊢
    obtain ⟨sent, result⟩ := outcome
    rcases sends with ⟨rfl, added⟩ | ⟨error, rfl, added⟩
    · obtain ⟨next, exits, exited⟩ := trace_exit (finishes true) rfl
      exact ⟨_, next, exits, by rw [added, logged]; exact List.append_assoc _ _ _, exited⟩
    · obtain ⟨next, exits, exited⟩ := trace_exit (finishes false) rfl
      exact ⟨_, next, exits, by rw [added, logged]; exact (congrArg _ (List.append_nil _)).symm, exited⟩
  next fails =>
    simp only [fails, Bool.false_eq_true, if_false] at finishes
    have sends := send_cases conversation.connection .failure
    generalize conversation.connection.send .failure = outcome at sends ⊢
    obtain ⟨sent, result⟩ := outcome
    rcases sends with ⟨rfl, added⟩ | ⟨error, rfl, added⟩
    · dsimp only at added ⊢
      have receives : sent.receive.1.log = sent.log ++ [.received sent.receive.2] := rfl
      generalize sent.receive = reply at receives ⊢
      obtain ⟨received, reply⟩ := reply
      have goesOn := (finishes true).trans (Trace.single (Worker.Step.receive reply rfl))
      have whole : received.log = connection.log ++ (said ++ [.sent .failure] ++ [.received reply]) := by
        rw [receives, added, logged]
        simp only [List.append_assoc]
      cases reply with
      | error error =>
        obtain ⟨next, exits, exited⟩ := trace_exit goesOn rfl
        exact ⟨_, next, exits, whole, exited⟩
      | ok message =>
        cases message with
        | retry => exact ⟨_, _, goesOn, whole, rfl⟩
        | _ =>
          obtain ⟨next, exits, exited⟩ := trace_exit goesOn rfl
          exact ⟨_, next, exits, whole, exited⟩
    · obtain ⟨next, exits, exited⟩ := trace_exit (finishes false) rfl
      exact ⟨_, next, exits, by rw [added, logged]; exact (congrArg _ (List.append_nil _)).symm, exited⟩

/-! ## The whole run -/

theorem attempts_simulated (transactions : Nat → Transaction) (username : String) (uid : UInt32) (index : Nat)
    (connection : Connection)
    (vouches : ∀ index, (transactions index).Vouches username uid → vouched (index + 1)) :
    ∃ said next, Trace (Worker.Step vouched) (.starting (index + 1)) said next ∧
      (attempts transactions username uid index connection).1.log = connection.log ++ said ∧
      next.phase = .exited (attempts transactions username uid index connection).2 := by
  induction index, connection using attempts.induct transactions username uid with
  | case1 index connection final clean passes =>
    obtain ⟨said, next, trace, logged, ended⟩ :=
      pass_simulated (transactions index) username uid connection (index + 1) (vouches index)
    rw [passes] at logged ended
    rw [attempts, passes]
    exact ⟨said, next, trace, logged, ended⟩
  | case2 index connection again passes inductionHypothesis =>
    obtain ⟨said, next, trace, logged, goesOn⟩ :=
      pass_simulated (transactions index) username uid connection (index + 1) (vouches index)
    rw [passes] at logged goesOn
    obtain ⟨rest, last, later, added, ended⟩ := inductionHypothesis
    subst goesOn
    rw [attempts, passes]
    refine ⟨said ++ rest, last, trace.trans later, ?_, ended⟩
    rw [added, logged, List.append_assoc]

/-! ## What a success stands for -/

def Event.isFailure : Event → Bool
  | .sent .failure => true
  | _ => false

/-- The attempts that were given up before. -/
def failures (said : List Event) : Nat := said.countP Event.isFailure

theorem failures_append (said more : List Event) : failures (said ++ more) = failures said + failures more :=
  List.countP_append

/-- An attempt that was started by a message and is not decided yet, with what came before and after it. -/
structure Attempt (before : List Event) (starter : Message) (since : List Event) (iteration : Nat)
    (cancelled : Bool) : Prop where
  starts : starter = .begin ∨ starter = .retry
  numbered : iteration = failures before + 1
  undecided : .sent .success ∉ before ++ since
  unfailed : failures since = 0
  uncancelled : cancelled = false → .received (.ok .cancel) ∉ since

def Attempting (said : List Event) (iteration : Nat) (cancelled : Bool) : Prop :=
  ∃ before starter since, said = before ++ .received (.ok starter) :: since ∧
    Attempt before starter since iteration cancelled

/-- A success is the last thing that is said, about an attempt that was vouched for and not cancelled. -/
structure Granted (vouched : Nat → Prop) (said : List Event) (clean : Bool) : Prop where
  clean : clean = true
  attempt : ∃ before iteration, said = before ++ [.sent .success] ∧ Attempting before iteration false ∧
    vouched iteration

/-- The worker knows about its attempt what was said. -/
def Worker.Knows (vouched : Nat → Prop) (said : List Event) (worker : Worker) : Prop :=
  match worker.phase with
  | .awaitingBegin => said = [] ∧ worker.iteration = 0
  | .authenticating | .prompting _ => Attempting said worker.iteration worker.cancelled
  | .awaitingRetry => worker.iteration = failures said ∧ .sent .success ∉ said
  | .returning clean | .exited clean => .sent .success ∈ said → Granted vouched said clean

theorem Attempting.undecided {said : List Event} {iteration : Nat} {cancelled : Bool}
    (attempting : Attempting said iteration cancelled) : .sent .success ∉ said := by
  obtain ⟨before, starter, since, rfl, attempt⟩ := attempting
  have undecided := attempt.undecided
  simp only [List.mem_append, List.mem_cons, reduceCtorEq, false_or, not_or] at undecided ⊢
  exact undecided

theorem Attempting.numbered {said : List Event} {iteration : Nat} {cancelled : Bool}
    (attempting : Attempting said iteration cancelled) : iteration = failures said + 1 := by
  obtain ⟨before, starter, since, rfl, attempt⟩ := attempting
  have rest : failures (.received (.ok starter) :: since) = 0 := attempt.unfailed
  rw [failures_append, rest, attempt.numbered]

/-- Within an attempt nothing is decided, and a message that cancels it is known. -/
theorem Attempting.snoc {said : List Event} {iteration : Nat} {cancelled known : Bool}
    (attempting : Attempting said iteration cancelled) {event : Event} (undecided : event ≠ .sent .success)
    (unfailed : event.isFailure = false) (keeps : known = false → cancelled = false)
    (uncancelled : known = false → event ≠ .received (.ok .cancel)) :
    Attempting (said ++ [event]) iteration known := by
  obtain ⟨before, starter, since, rfl, attempt⟩ := attempting
  refine ⟨before, starter, since ++ [event], by simp, ?_⟩
  exact
    { starts := attempt.starts
      numbered := attempt.numbered
      undecided := by
        rw [← List.append_assoc, List.mem_append, List.mem_singleton, not_or]
        exact ⟨attempt.undecided, undecided.symm⟩
      unfailed := by
        rw [failures_append, attempt.unfailed, failures, List.countP_singleton, unfailed]
        rfl
      uncancelled := by
        intro isKnown
        rw [List.mem_append, List.mem_singleton, not_or]
        exact ⟨attempt.uncancelled (keeps isKnown), (uncancelled isKnown).symm⟩ }

theorem Attempting.start {said : List Event} {starter : Message} (undecided : .sent .success ∉ said)
    (starts : starter = .begin ∨ starter = .retry) :
    Attempting (said ++ [.received (.ok starter)]) (failures said + 1) false :=
  ⟨said, starter, [], rfl,
    { starts
      numbered := rfl
      undecided := by rwa [List.append_nil]
      unfailed := rfl
      uncancelled := fun _ => List.not_mem_nil }⟩

/-- The worker is inside an attempt, and what it does there is known to it. -/
theorem Worker.Knows.act {said : List Event} {worker : Worker} (knows : worker.Knows vouched said)
    (act : Act) (inside : worker.phase = .authenticating)
    (justified : ∀ delivered, act = .finish true delivered → vouched worker.iteration) :
    (worker.act act).1.Knows vouched (said ++ (worker.act act).2.toList.map .sent) := by
  simp only [Worker.Knows, inside] at knows
  cases act with
  | prompt text secret delivered =>
    simp only [Worker.act, Worker.prompt]
    by_cases exhausted : worker.nextId > maxMessages
    · rw [if_pos exhausted]
      simpa [Worker.Knows, inside] using knows
    · rw [if_neg exhausted]
      cases delivered with
      | false => simpa [Worker.Knows, inside] using knows
      | true => exact knows.snoc (by simp) rfl id (by simp)
  | notice text error delivered =>
    cases delivered with
    | false => simpa [Worker.act, Worker.notice, Worker.Knows, inside] using knows
    | true =>
      have extended : Attempting (said ++ [.sent (if error then .error text else .info text)]) worker.iteration
          worker.cancelled :=
        knows.snoc (by cases error <;> simp) (by cases error <;> rfl) id (by simp)
      simpa [Worker.act, Worker.notice, Worker.Knows, inside] using extended
  | finish authenticated delivered =>
    simp only [Worker.act, Worker.finish]
    have undecided := knows.undecided
    split
    next succeeds =>
      cases delivered with
      | false => simp [Worker.Knows, undecided]
      | true =>
        simp only [Bool.and_eq_true, Bool.not_eq_true'] at succeeds
        rw [succeeds.2] at knows
        intro _
        exact ⟨rfl, said, worker.iteration, rfl, knows, justified true (by rw [succeeds.1])⟩
    next fails =>
      cases delivered with
      | false => simp [Worker.Knows, undecided]
      | true =>
        have counted : failures [.sent .failure] = 1 := rfl
        simp [Worker.Knows, undecided, failures_append, counted, knows.numbered]

theorem Worker.Knows.receive {said : List Event} {worker : Worker} (knows : worker.Knows vouched said)
    (result : Except ProtocolError Message) (waits : worker.phase.waits = true) :
    (worker.receive result).Knows vouched (said ++ [.received result]) := by
  obtain ⟨phase, nextId, cancelled, iteration⟩ := worker
  cases phase with
  | awaitingBegin =>
    obtain ⟨rfl, rfl⟩ := knows
    cases result with
    | error error => simp [Worker.receive, Worker.Knows]
    | ok message =>
      cases message with
      | begin =>
        have started : Attempting ([] ++ [.received (.ok .begin)]) (failures [] + 1) false :=
          .start List.not_mem_nil (.inl rfl)
        exact started
      | _ => simp [Worker.receive, Worker.Knows]
  | prompting asked =>
    cases result with
    | error error => exact Attempting.snoc knows (by simp) rfl id (by simp)
    | ok message =>
      cases message with
      | cancel => exact Attempting.snoc knows (by simp) rfl (by simp [Worker.receive]) (by simp [Worker.receive])
      | _ => exact Attempting.snoc knows (by simp) rfl id (by simp)
  | awaitingRetry =>
    obtain ⟨rfl, undecided⟩ := knows
    cases result with
    | error error => simp [Worker.receive, Worker.Knows, undecided]
    | ok message =>
      cases message with
      | retry => exact Attempting.start undecided (.inr rfl)
      | _ => simp [Worker.receive, Worker.Knows, undecided]
  | authenticating | returning clean | exited clean => contradiction

theorem Worker.Knows.step {said more : List Event} {worker next : Worker} (knows : worker.Knows vouched said)
    (step : Worker.Step vouched worker more next) : next.Knows vouched (said ++ more) := by
  cases step with
  | act act inside justified => exact knows.act act inside justified
  | receive result waits => exact knows.receive result waits
  | exit returning =>
    simp only [Worker.Knows, returning] at knows
    simpa [Worker.exit, returning, Worker.Knows] using knows

theorem trace_knows {said : List Event} {worker : Worker} (trace : Trace (Worker.Step vouched) .new said worker) :
    worker.Knows vouched said :=
  trace.invariant (fun said worker => worker.Knows vouched said) ⟨rfl, rfl⟩
    fun _ _ _ _ knows step => knows.step step

/-! ## The process -/

/-- The transaction of this attempt vouches for the user. -/
def Host.Vouched (host : Host) (username : String) (iteration : Nat) : Prop :=
  (host.transactions (iteration - 1)).Vouches username host.uid

/-- What a process leaves: nothing at all, or its name and what a worker says until it exits with the same
status. -/
inductive Host.Leaves (host : Host) : List Event → Bool → Prop
  | nothing : Leaves host [] false
  | said {username : String} {said : List Event} {worker : Worker} {clean : Bool}
      (identified : host.identify = some username)
      (trace : Trace (Worker.Step (host.Vouched username)) .new said worker)
      (exits : worker.phase = .exited clean)
      (granted : .sent .success ∈ said → Granted (host.Vouched username) said clean) :
      Leaves host (.sent (.ready host.uid username) :: said) clean

theorem Host.Leaves.of_trace {host : Host} {username : String} {said : List Event} {worker : Worker}
    {clean : Bool} (identified : host.identify = some username)
    (trace : Trace (Worker.Step (host.Vouched username)) .new said worker)
    (exits : worker.phase = .exited clean) : host.Leaves (.sent (.ready host.uid username) :: said) clean := by
  have knows := trace_knows trace
  simp only [Worker.Knows, exits] at knows
  exact .said identified trace exits knows

theorem Host.run_leaves (host : Host) (incoming : List ByteStream.Piece) (writes : List (Option String)) :
    host.Leaves (host.run ⟨incoming, writes, []⟩).1.log (host.run ⟨incoming, writes, []⟩).2 := by
  rw [Host.run]
  cases identified : host.identify with
  | none => exact .nothing
  | some username =>
    dsimp only
    have sends := send_cases ⟨incoming, writes, []⟩ (.ready host.uid username)
    generalize Connection.send ⟨incoming, writes, []⟩ (.ready host.uid username) = outcome at sends ⊢
    obtain ⟨ready, result⟩ := outcome
    rcases sends with ⟨rfl, logged⟩ | ⟨error, rfl, logged⟩
    · have receives : ready.receive.1.log = ready.log ++ [.received ready.receive.2] := rfl
      dsimp only at logged ⊢
      rw [logged, List.nil_append] at receives
      rw [awaitBegin]
      generalize ready.receive = reply at receives ⊢
      obtain ⟨begun, reply⟩ := reply
      dsimp only at receives
      have first : Trace (Worker.Step (host.Vouched username)) .new [.received reply] _ :=
        .single (.receive reply rfl)
      cases reply with
      | error error =>
        obtain ⟨next, exits, exited⟩ := trace_exit first rfl
        dsimp only
        rw [receives]
        exact .of_trace identified exits exited
      | ok message =>
        cases message with
        | begin =>
          obtain ⟨said, next, trace, added, exited⟩ := attempts_simulated host.transactions username host.uid 0 begun
            fun index => (fun vouches => vouches : _ → host.Vouched username (index + 1))
          dsimp only
          rw [added, receives]
          exact .of_trace identified (first.trans trace) exited
        | _ =>
          obtain ⟨next, exits, exited⟩ := trace_exit first rfl
          dsimp only
          rw [receives]
          exact .of_trace identified exits exited
    · dsimp only at logged ⊢
      rw [logged]
      exact .nothing

/-- A library that asks for the password and takes what it gets. -/
def sampleTransaction : Transaction where
  start _ _ := (0, true)
  authenticate _ :=
    .ask (⟨1, some [some ⟨1, some [80, 105, 110, 0]⟩], true, true⟩, ⟨[], []⟩)
      fun reply => .done (if reply.status = .success then 0 else 7)
  getUser := .done (0, some [97, 0])
  finish _ := .done 0
  getpwnam _ _ := ⟨0, some 1000⟩

def sampleHost : Host where
  arguments := ["worker", "--fd", "3", "--parent-pid", "7"].map intoBytes
  prctl := 0
  getppid := 7
  getFlags := 0
  setFlags _ := 0
  closeRange := 0
  uid := 1000
  effectiveUid := 1000
  gid := 100
  effectiveGid := 100
  getpwuid _ size := if size < 4096 then ⟨erange, none⟩ else ⟨0, some [97, 0]⟩
  transactions _ := sampleTransaction

/-- The first attempt is cancelled, and the second is answered. -/
def sampleIncoming : List ByteStream.Piece :=
  [.bytes (frameBytes Kind.begin [] ++ frameBytes Kind.cancel [] ++ frameBytes Kind.retry []),
    .bytes (frameBytes Kind.response [0, 0, 0, 0, 0, 0, 0, 1, 111, 107])]

example : (sampleHost.run ⟨sampleIncoming, [], []⟩).2 = true ∧
    (sampleHost.run ⟨sampleIncoming, [], []⟩).1.log.length = 9 := by decide +kernel

end Genkan.LockAuth
