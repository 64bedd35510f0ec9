import Genkan.DynamicWallpaper.Structure
import Genkan.Foundations.Lists

/-! # Stale decodes of many playbacks

The playbacks of a process draw their generations from one counter of 64 bits, which wraps.  A
`Ticket` is a decode request as it was handed out once: `serial` counts the draws of the process,
so it tells requests apart that carry the same generation after a wrap.
-/

namespace Genkan.DynamicWallpaper

open Foundations
open Foundations.Lists

/-! ## What a call does to the pending decode -/

namespace Playback

/-- `handed` is the request that the call hands out. -/
inductive Draws (playback : Playback) (counter : UInt64) :
    Option DecodeRequest → Playback × UInt64 → Prop
  | kept (next : Playback) (same : next.pending = playback.pending) :
      Draws playback counter none (next, counter)
  | cleared (next : Playback) (idle : next.pending = none) :
      Draws playback counter none (next, counter)
  | dispatched (next : Playback) {pending : PendingDecode}
      (isPending : playback.pending = some pending) (waits : pending.dispatched = false)
      (isNext : next.pending = some { pending with dispatched := true }) :
      Draws playback counter (some pending.request) (next, counter)
  | drew (next : Playback) (image : ImageReference) (startedAt : Option Nat)
      (isNext : next.pending = some (undispatched counter image startedAt)) :
      Draws playback counter none (next, counter + 1)

theorem settle_pending (playback : Playback) : playback.settle.1.pending = playback.pending := by
  simp only [settle]
  split <;> rfl

theorem advanceTransition_pending (playback : Playback) (monotonic : Nat) :
    (playback.advanceTransition monotonic).1.pending = playback.pending := by
  simp only [advanceTransition]
  split
  next => rfl
  next =>
    split
    next => exact settle_pending playback
    next => rfl

theorem adopt_pending (playback : Playback) (pending : PendingDecode) (frame : RgbaFrame)
    (monotonic maxBlendBytes : Nat) (storage : Option Nat) :
    (playback.adopt pending frame monotonic maxBlendBytes storage).1.pending = playback.pending := by
  simp only [adopt]
  split
  next =>
    split
    next => rfl
    next =>
      split
      next => rfl
      next => exact advanceTransition_pending _ monotonic
  next => rfl

theorem takeDecodeRequest_draws (playback : Playback) (counter : UInt64) :
    playback.Draws counter playback.takeDecodeRequest.2 (playback.takeDecodeRequest.1, counter) := by
  simp only [takeDecodeRequest]
  split
  next => exact .kept _ rfl
  next pending isPending =>
    split
    next => exact .kept _ rfl
    next waits => exact .dispatched _ isPending (by simpa using waits) rfl

theorem synchronizeInner_draws (playback reference : Playback)
    (same : reference.pending = playback.pending) (counter : UInt64) (clock : ClockSnapshot)
    (monotonic : Nat) (forceDiscontinuity : Bool) :
    playback.Draws counter none
      ((reference.synchronizeInner counter clock monotonic forceDiscontinuity).1,
        (reference.synchronizeInner counter clock monotonic forceDiscontinuity).2.1) := by
  simp only [synchronizeInner]
  split
  next => exact .drew _ _ _ rfl
  next =>
    split
    next =>
      simp only [recover]
      split
      next => exact .drew _ _ _ rfl
      next =>
        split
        next => exact .drew _ _ _ rfl
        next => exact .kept _ ((settle_pending reference).trans same)
    next =>
      simp only [retry]
      split
      next => exact .drew _ _ _ rfl
      next => exact .kept _ same

/-- Nothing is pending any more, or a decode with a new generation is. -/
def Replaced (counter : UInt64) (next : Playback) (after : UInt64) : Prop :=
  (next.pending = none ∧ after = counter) ∨
    ∃ image startedAt, next.pending = some (undispatched counter image startedAt) ∧
      after = counter + 1

theorem queuePrimaryFallback_replaced {playback : Playback} (idle : playback.pending = none)
    (counter : UInt64) (image : ImageReference) :
    Replaced counter (playback.queuePrimaryFallback image counter).1
      (playback.queuePrimaryFallback image counter).2 := by
  simp only [queuePrimaryFallback]
  split
  next => exact .inl ⟨idle, rfl⟩
  next => exact .inr ⟨_, _, rfl, rfl⟩

theorem fail_replaced {playback : Playback} (idle : playback.pending = none) (counter : UInt64)
    (image : ImageReference) (monotonic : Nat) :
    Replaced counter (playback.fail counter image monotonic).1
      (playback.fail counter image monotonic).2 := by
  rw [fail]
  exact queuePrimaryFallback_replaced (by exact idle) counter image

theorem Replaced.draws {playback next : Playback} {counter after : UInt64}
    (replaced : Replaced counter next after) : playback.Draws counter none (next, after) := by
  cases replaced with
  | inl cleared =>
    obtain ⟨idle, rfl⟩ := cleared
    exact .cleared next idle
  | inr drew =>
    obtain ⟨image, startedAt, isNext, rfl⟩ := drew
    exact .drew next image startedAt isNext

/-- A completion is ignored, or it is the one the playback waits for. -/
inductive Completes (playback : Playback) (counter : UInt64) (request : DecodeRequest) :
    Playback × UInt64 × DecodeOutcome → Prop
  | ignored : Completes playback counter request (playback, counter, .ignored)
  | acted {next : Playback} {after : UInt64} {outcome : DecodeOutcome} {pending : PendingDecode}
      (acts : outcome ≠ .ignored) (isPending : playback.pending = some pending)
      (isRequest : pending.request = request) (isDispatched : pending.dispatched = true)
      (replaced : Replaced counter next after) :
      Completes playback counter request (next, after, outcome)

theorem adopt_acts (playback : Playback) (pending : PendingDecode) (frame : RgbaFrame)
    (monotonic maxBlendBytes : Nat) (storage : Option Nat) :
    (playback.adopt pending frame monotonic maxBlendBytes storage).2 ≠ .ignored := by
  simp only [adopt]
  split
  next =>
    split
    next => simp
    next =>
      split
      next => simp
      next =>
        split
        next => simp
        next => simp
  next => simp

theorem completeDecode_completes (playback : Playback) (counter : UInt64) (request : DecodeRequest)
    (result : Option RgbaFrame) (monotonic : Nat) (storage : Option Nat) :
    playback.Completes counter request
      (playback.completeDecode counter request result monotonic storage) := by
  simp only [completeDecode, completeDecodeWithLimit]
  split
  next => exact .ignored
  next pending isPending =>
    split
    next => exact .ignored
    next matching =>
      simp only [ne_eq, decide_not, Bool.or_eq_true, Bool.not_eq_true', decide_eq_false_iff_not,
        not_or, Decidable.not_not, Bool.not_eq_false] at matching
      split
      next => exact .acted (by simp) isPending matching.1 matching.2 (fail_replaced rfl ..)
      next frame =>
        split
        next => exact .acted (by simp) isPending matching.1 matching.2 (fail_replaced rfl ..)
        next =>
          refine .acted (adopt_acts _ _ _ _ _ _) isPending matching.1 matching.2 (.inl ⟨?_, rfl⟩)
          rw [adopt_pending]
          split <;> rfl

theorem Completes.draws {playback : Playback} {counter : UInt64} {request : DecodeRequest}
    {result : Playback × UInt64 × DecodeOutcome} (completes : playback.Completes counter request result) :
    playback.Draws counter none (result.1, result.2.1) := by
  cases completes with
  | ignored => exact .kept playback rfl
  | acted acts isPending isRequest isDispatched replaced => exact replaced.draws

/-- The request that a call hands out. -/
def handedRequest (playback : Playback) : PlaybackCall → Option DecodeRequest
  | .takeDecodeRequest => playback.takeDecodeRequest.2
  | _ => none

theorem handle_draws (playback : Playback) (counter : UInt64) (call : PlaybackCall) :
    playback.Draws counter (playback.handedRequest call) (playback.handle counter call) := by
  cases call with
  | takeDecodeRequest => exact playback.takeDecodeRequest_draws counter
  | synchronize clock monotonic =>
    exact synchronizeInner_draws playback playback rfl counter clock monotonic false
  | resynchronizeAfterDiscontinuity clock monotonic =>
    exact synchronizeInner_draws playback playback rfl counter clock monotonic true
  | setSolarSchedule points clock monotonic =>
    exact synchronizeInner_draws playback { playback with mode := .time (sortedTimePoints points) }
      rfl counter clock monotonic false
  | completeDecode request result monotonic storage =>
    exact (playback.completeDecode_completes counter request result monotonic storage).draws
  | advanceTransition monotonic => exact .kept _ (playback.advanceTransition_pending monotonic)

end Playback

/-! ## Many playbacks and their tickets -/

/-- A playback and the number of the draw from which its generation comes. -/
structure Instance where
  playback : Playback
  serial : Nat

structure Ticket where
  owner : Nat
  serial : Nat
  request : DecodeRequest

structure Playbacks where
  counter : UInt64
  drawn : Nat
  instances : List Instance
  tickets : List Ticket

inductive PlaybacksLabel where
  | construct (metadata : Metadata) (primary : ImageReference) (appearance : AppearancePreference)
      (clock : ClockSnapshot) (monotonic : Nat) (reducedMotion : Bool) (solar : Option TimePoints)
  | call (index : Nat) (call : PlaybackCall)
  | complete (index : Nat) (ticket : Nat) (result : Option RgbaFrame) (monotonic : Nat)
      (storage : Option Nat)

namespace Playbacks

/-- The source starts the counter at one. -/
def start : Playbacks where
  counter := 1
  drawn := 0
  instances := []
  tickets := []

def construct (state : Playbacks) (metadata : Metadata) (primary : ImageReference)
    (appearance : AppearancePreference) (clock : ClockSnapshot) (monotonic : Nat)
    (reducedMotion : Bool) (solar : Option TimePoints) : Playbacks :=
  let (playback, counter) := Playback.withSolar metadata primary appearance clock monotonic
    reducedMotion solar state.counter
  { state with
    counter := counter
    drawn := state.drawn + 1
    instances := state.instances ++ [{ playback := playback, serial := state.drawn }] }

def call (state : Playbacks) (index : Nat) (call : PlaybackCall) : Playbacks :=
  match state.instances[index]? with
  | none => state
  | some current =>
    let (next, counter) := current.playback.handle state.counter call
    let drew := counter != state.counter
    { counter := counter
      drawn := if drew then state.drawn + 1 else state.drawn
      instances := state.instances.set index
        { playback := next, serial := if drew then state.drawn else current.serial }
      tickets := state.tickets ++ (current.playback.handedRequest call).toList.map fun request =>
        { owner := index, serial := current.serial, request := request } }

/-- A completion carries the request of some ticket, and may reach any playback. -/
def complete (state : Playbacks) (index ticket : Nat) (result : Option RgbaFrame) (monotonic : Nat)
    (storage : Option Nat) : Playbacks × DecodeOutcome :=
  match state.tickets[ticket]?, state.instances[index]? with
  | some ticket, some current =>
    (state.call index (.completeDecode ticket.request result monotonic storage),
      (current.playback.completeDecode state.counter ticket.request result monotonic storage).2.2)
  | _, _ => (state, .ignored)

def next (state : Playbacks) : PlaybacksLabel → Playbacks
  | .construct metadata primary appearance clock monotonic reducedMotion solar =>
    state.construct metadata primary appearance clock monotonic reducedMotion solar
  | .call index call => state.call index call
  | .complete index ticket result monotonic storage =>
    (state.complete index ticket result monotonic storage).1

/-- The ticket is the one that this playback waits for. -/
def Current (state : Playbacks) (index ticket : Nat) : Prop :=
  ∃ current pending handed, state.instances[index]? = some current ∧
    current.playback.pending = some pending ∧ pending.dispatched = true ∧
    state.tickets[ticket]? = some handed ∧ handed.owner = index ∧ handed.serial = current.serial

end Playbacks

def playbacksSystem : TransitionSystem Playbacks PlaybacksLabel :=
  .ofTotal (· = Playbacks.start) Playbacks.next

/-! ## Generations are fresh until the counter wraps -/

def generationOf (serial : Nat) : UInt64 := UInt64.ofNat (1 + serial)

theorem generationOf_succ (serial : Nat) : generationOf (serial + 1) = generationOf serial + 1 := by
  rw [generationOf, ← Nat.add_assoc, UInt64.ofNat_add]
  rfl

theorem generationOf_inj {first second : Nat} (firstBound : first < 2 ^ 64)
    (secondBound : second < 2 ^ 64) (same : generationOf first = generationOf second) :
    first = second := by
  have residues := congrArg UInt64.toNat same
  simp only [generationOf, UInt64.toNat_ofNat'] at residues
  omega

namespace Playbacks

structure Issued (state : Playbacks) : Prop where
  counter : state.counter = generationOf state.drawn
  serial : ∀ (index : Nat) (current : Instance), state.instances[index]? = some current →
    current.serial < state.drawn
  generation : ∀ (index : Nat) (current : Instance) (pending : PendingDecode),
    state.instances[index]? = some current → current.playback.pending = some pending →
    pending.request.generation = generationOf current.serial
  distinct : ∀ (first second : Nat) (left right : Instance), state.instances[first]? = some left →
    state.instances[second]? = some right → left.serial = right.serial → first = second
  ticketSerial : ∀ ticket ∈ state.tickets, ticket.serial < state.drawn
  ticketGeneration : ∀ ticket ∈ state.tickets,
    ticket.request.generation = generationOf ticket.serial
  owner : ∀ (index : Nat) (current : Instance), state.instances[index]? = some current →
    ∀ ticket ∈ state.tickets, ticket.serial = current.serial → ticket.owner = index
  waiting : ∀ (index : Nat) (current : Instance) (pending : PendingDecode),
    state.instances[index]? = some current → current.playback.pending = some pending →
    pending.dispatched = false → ∀ ticket ∈ state.tickets, ticket.serial ≠ current.serial

theorem start_issued : start.Issued := by
  constructor <;> simp [start, generationOf]

/-- The entries of a table in which one was replaced or added. -/
def Replaces (instances before : List Instance) (index : Nat) (next : Instance) : Prop :=
  ∀ (other : Nat) (current : Instance), instances[other]? = some current →
    (other = index ∧ current = next) ∨ (other ≠ index ∧ before[other]? = some current)

theorem Issued.drew {state : Playbacks} (issued : state.Issued) {index : Nat}
    {instances : List Instance} {next : Playback} {image : ImageReference} {startedAt : Option Nat}
    (isPending : next.pending = some (undispatched state.counter image startedAt))
    (each : Replaces instances state.instances index { playback := next, serial := state.drawn }) :
    Issued
      { counter := state.counter + 1
        drawn := state.drawn + 1
        instances := instances
        tickets := state.tickets } where
  counter := by rw [issued.counter, generationOf_succ]
  serial other current isCurrent := by
    cases each other current isCurrent with
    | inl drawn => simp [drawn.2]
    | inr old => exact Nat.lt_succ_of_lt (issued.serial other current old.2)
  generation other current pending isCurrent waiting := by
    cases each other current isCurrent with
    | inl drawn =>
      rw [drawn.2] at waiting ⊢
      cases isPending.symm.trans waiting
      exact issued.counter
    | inr old => exact issued.generation other current pending old.2 waiting
  distinct first second left right isLeft isRight same := by
    cases each first left isLeft with
    | inl leftDrawn =>
      cases each second right isRight with
      | inl rightDrawn => exact leftDrawn.1.trans rightDrawn.1.symm
      | inr rightOld =>
        have older := issued.serial second right rightOld.2
        rw [leftDrawn.2] at same
        exact absurd same (Nat.ne_of_gt older)
    | inr leftOld =>
      cases each second right isRight with
      | inl rightDrawn =>
        have older := issued.serial first left leftOld.2
        rw [rightDrawn.2] at same
        exact absurd same (Nat.ne_of_lt older)
      | inr rightOld => exact issued.distinct first second left right leftOld.2 rightOld.2 same
  ticketSerial ticket member := Nat.lt_succ_of_lt (issued.ticketSerial ticket member)
  ticketGeneration := issued.ticketGeneration
  owner other current isCurrent ticket member same := by
    cases each other current isCurrent with
    | inl drawn =>
      rw [drawn.2] at same
      exact absurd same (Nat.ne_of_lt (issued.ticketSerial ticket member))
    | inr old => exact issued.owner other current old.2 ticket member same
  waiting other current pending isCurrent waits undispatched ticket member := by
    cases each other current isCurrent with
    | inl drawn =>
      rw [drawn.2]
      exact Nat.ne_of_lt (issued.ticketSerial ticket member)
    | inr old => exact issued.waiting other current pending old.2 waits undispatched ticket member

/-- A call that draws nothing keeps the request that is pending, or clears it; the ticket it hands
out is the first one of that request. -/
theorem Issued.kept {state : Playbacks} (issued : state.Issued) {index : Nat} {current : Instance}
    {next : Playback} {instances : List Instance} {handed : List Ticket}
    (isCurrent : state.instances[index]? = some current)
    (each : Replaces instances state.instances index { playback := next, serial := current.serial })
    (keeps : ∀ pending, next.pending = some pending → ∃ before,
      current.playback.pending = some before ∧ pending.request = before.request ∧
      (pending.dispatched = false → before.dispatched = false ∧ handed = []))
    (hands : ∀ ticket ∈ handed, ticket.owner = index ∧ ticket.serial = current.serial ∧
      ∃ before, current.playback.pending = some before ∧ ticket.request = before.request) :
    Issued
      { state with
        instances := instances
        tickets := state.tickets ++ handed } where
  counter := issued.counter
  serial other found isFound := by
    cases each other found isFound with
    | inl replaced =>
      rw [replaced.2]
      exact issued.serial index current isCurrent
    | inr old => exact issued.serial other found old.2
  generation other found pending isFound isPending := by
    cases each other found isFound with
    | inl replaced =>
      rw [replaced.2] at isPending ⊢
      obtain ⟨before, isBefore, same, _⟩ := keeps pending isPending
      rw [same]
      exact issued.generation index current before isCurrent isBefore
    | inr old => exact issued.generation other found pending old.2 isPending
  distinct first second left right isLeft isRight same := by
    cases each first left isLeft with
    | inl leftReplaced =>
      cases each second right isRight with
      | inl rightReplaced => exact leftReplaced.1.trans rightReplaced.1.symm
      | inr rightOld =>
        rw [leftReplaced.2] at same
        exact leftReplaced.1.trans
          (issued.distinct index second current right isCurrent rightOld.2 same)
    | inr leftOld =>
      cases each second right isRight with
      | inl rightReplaced =>
        rw [rightReplaced.2] at same
        exact (issued.distinct first index left current leftOld.2 isCurrent same).trans
          rightReplaced.1.symm
      | inr rightOld => exact issued.distinct first second left right leftOld.2 rightOld.2 same
  ticketSerial ticket member := by
    cases List.mem_append.mp member with
    | inl old => exact issued.ticketSerial ticket old
    | inr isNew =>
      rw [(hands ticket isNew).2.1]
      exact issued.serial index current isCurrent
  ticketGeneration ticket member := by
    cases List.mem_append.mp member with
    | inl old => exact issued.ticketGeneration ticket old
    | inr isNew =>
      obtain ⟨_, same, before, isBefore, isRequest⟩ := hands ticket isNew
      rw [same, isRequest]
      exact issued.generation index current before isCurrent isBefore
  owner other found isFound ticket member same := by
    have among : ∃ holder, state.instances[other]? = some holder ∧ holder.serial = found.serial := by
      cases each other found isFound with
      | inl replaced => exact ⟨current, replaced.1 ▸ isCurrent, by rw [replaced.2]⟩
      | inr old => exact ⟨found, old.2, rfl⟩
    obtain ⟨holder, isHolder, sameSerial⟩ := among
    cases List.mem_append.mp member with
    | inl old => exact issued.owner other holder isHolder ticket old (same.trans sameSerial.symm)
    | inr isNew =>
      obtain ⟨isOwner, own, _⟩ := hands ticket isNew
      rw [isOwner]
      exact issued.distinct index other current holder isCurrent isHolder
        (own.symm.trans (same.trans sameSerial.symm))
  waiting other found pending isFound isPending waits ticket member := by
    cases each other found isFound with
    | inl replaced =>
      rw [replaced.2] at isPending ⊢
      obtain ⟨before, isBefore, _, undispatched⟩ := keeps pending isPending
      obtain ⟨waited, silent⟩ := undispatched waits
      rw [silent, List.append_nil] at member
      exact issued.waiting index current before isCurrent isBefore waited ticket member
    | inr old =>
      cases List.mem_append.mp member with
      | inl isOld => exact issued.waiting other found pending old.2 isPending waits ticket isOld
      | inr isNew =>
        intro same
        have here := issued.distinct index other current found isCurrent old.2
          ((hands ticket isNew).2.1.symm.trans same)
        exact old.1 here.symm

theorem replaces_set (instances : List Instance) (index : Nat) (next : Instance) :
    Replaces (instances.set index next) instances index next :=
  fun _ _ found => getElem?_set_cases found

theorem counter_succ_ne (counter : UInt64) : (counter + 1 != counter) = true := by
  simp

theorem Issued.constructed {state : Playbacks} (issued : state.Issued) (metadata : Metadata)
    (primary : ImageReference) (appearance : AppearancePreference) (clock : ClockSnapshot)
    (monotonic : Nat) (reducedMotion : Bool) (solar : Option TimePoints) :
    (state.construct metadata primary appearance clock monotonic reducedMotion solar).Issued := by
  have each : Replaces (state.instances ++ [{ playback := (Playback.withSolar metadata primary
      appearance clock monotonic reducedMotion solar state.counter).1, serial := state.drawn }])
      state.instances state.instances.length _ := fun _ _ found => getElem?_append_cases found
  exact issued.drew rfl each

theorem Issued.called {state : Playbacks} (issued : state.Issued) (index : Nat)
    (call : PlaybackCall) : (state.call index call).Issued := by
  simp only [Playbacks.call]
  cases isCurrent : state.instances[index]? with
  | none => exact issued
  | some current =>
    have draws := current.playback.handle_draws state.counter call
    simp only []
    generalize current.playback.handedRequest call = handed at draws ⊢
    generalize current.playback.handle state.counter call = result at draws ⊢
    cases draws with
    | kept next same =>
      simp only [bne_self_eq_false, Bool.false_eq_true, if_false, Option.toList_none, List.map_nil]
      refine issued.kept isCurrent (replaces_set _ _ _) ?_ (by simp)
      intro pending isPending
      exact ⟨pending, same ▸ isPending, rfl, fun waits => ⟨waits, rfl⟩⟩
    | cleared next idle =>
      simp only [bne_self_eq_false, Bool.false_eq_true, if_false, Option.toList_none, List.map_nil]
      exact issued.kept isCurrent (replaces_set _ _ _) (by simp [idle]) (by simp)
    | dispatched next isPending waits isNext =>
      simp only [bne_self_eq_false, Bool.false_eq_true, if_false, Option.toList_some, List.map_cons,
        List.map_nil]
      refine issued.kept isCurrent (replaces_set _ _ _) ?_ ?_
      · intro pending isDispatched
        cases isNext.symm.trans isDispatched
        exact ⟨_, isPending, rfl, by simp⟩
      · intro ticket isTicket
        rw [List.mem_singleton.mp isTicket]
        exact ⟨rfl, rfl, _, isPending, rfl⟩
    | drew next image startedAt isNext =>
      simp only [counter_succ_ne, if_true, Option.toList_none, List.map_nil, List.append_nil]
      exact issued.drew isNext (replaces_set _ _ _)

theorem Issued.completed {state : Playbacks} (issued : state.Issued) (index ticket : Nat)
    (result : Option RgbaFrame) (monotonic : Nat) (storage : Option Nat) :
    (state.complete index ticket result monotonic storage).1.Issued := by
  simp only [complete]
  split
  next handed current isTicket isCurrent =>
    exact issued.called index (.completeDecode handed.request result monotonic storage)
  next => exact issued

theorem Issued.stepped {state : Playbacks} (issued : state.Issued) (label : PlaybacksLabel) :
    (state.next label).Issued := by
  cases label with
  | construct metadata primary appearance clock monotonic reducedMotion solar =>
    exact issued.constructed metadata primary appearance clock monotonic reducedMotion solar
  | call index call => exact issued.called index call
  | complete index ticket result monotonic storage =>
    exact issued.completed index ticket result monotonic storage

/-! ## A ticket that nothing waits for -/

/-- No playback waits for a decode with the draw of this ticket. -/
def Spent (state : Playbacks) (ticket : Nat) : Prop :=
  ∃ handed, state.tickets[ticket]? = some handed ∧
    ∀ (index : Nat) (current : Instance), state.instances[index]? = some current →
      current.playback.pending.isSome = true → handed.serial ≠ current.serial

theorem Spent.not_current {state : Playbacks} {ticket : Nat} (spent : state.Spent ticket)
    (index : Nat) : ¬ state.Current index ticket := by
  intro holds
  obtain ⟨current, pending, handed, isCurrent, isPending, _, isTicket, _, same⟩ := holds
  obtain ⟨other, isOther, idle⟩ := spent
  cases isTicket.symm.trans isOther
  exact idle index current isCurrent (by simp [isPending]) same

/-- A playback that waits does so for the decode it waited for before, or for one it just drew. -/
theorem Spent.replaced {state : Playbacks} (issued : state.Issued) {ticket : Nat}
    (spent : state.Spent ticket) {index : Nat} {next : Instance} {instances : List Instance}
    (each : Replaces instances state.instances index next)
    (waits : next.playback.pending.isSome = true → next.serial = state.drawn ∨
      ∃ before, state.instances[index]? = some before ∧ before.playback.pending.isSome = true ∧
        before.serial = next.serial)
    (counter : UInt64) (drawn : Nat) (handed : List Ticket) :
    Spent
      { counter := counter
        drawn := drawn
        instances := instances
        tickets := state.tickets ++ handed } ticket := by
  obtain ⟨held, isHeld, idle⟩ := spent
  refine ⟨held, ?_, ?_⟩
  · rw [List.getElem?_append_left (List.getElem?_eq_some_iff.mp isHeld).1]
    exact isHeld
  · intro other current isCurrent isWaiting
    cases each other current isCurrent with
    | inl replaced =>
      rw [replaced.2] at isWaiting ⊢
      cases waits isWaiting with
      | inl drew =>
        have older := issued.ticketSerial held (List.mem_of_getElem? isHeld)
        omega
      | inr waited =>
        obtain ⟨before, isBefore, wasWaiting, same⟩ := waited
        rw [← same]
        exact idle index before isBefore wasWaiting
    | inr old => exact idle other current old.2 isWaiting

theorem Spent.constructed {state : Playbacks} (issued : state.Issued) {ticket : Nat}
    (spent : state.Spent ticket) (metadata : Metadata) (primary : ImageReference)
    (appearance : AppearancePreference) (clock : ClockSnapshot) (monotonic : Nat)
    (reducedMotion : Bool) (solar : Option TimePoints) :
    (state.construct metadata primary appearance clock monotonic reducedMotion solar).Spent
      ticket := by
  have each : Replaces (state.instances ++ [{ playback := (Playback.withSolar metadata primary
      appearance clock monotonic reducedMotion solar state.counter).1, serial := state.drawn }])
      state.instances state.instances.length _ := fun _ _ found => getElem?_append_cases found
  have holds := spent.replaced issued each (fun _ => .inl rfl) (state.counter + 1)
    (state.drawn + 1) []
  rw [List.append_nil] at holds
  exact holds

theorem Spent.called {state : Playbacks} (issued : state.Issued) {ticket : Nat}
    (spent : state.Spent ticket) (index : Nat) (call : PlaybackCall) :
    (state.call index call).Spent ticket := by
  simp only [Playbacks.call]
  cases isCurrent : state.instances[index]? with
  | none => exact spent
  | some current =>
    have draws := current.playback.handle_draws state.counter call
    apply spent.replaced issued (replaces_set _ _ _)
    intro isWaiting
    simp only at isWaiting ⊢
    generalize current.playback.handedRequest call = handed at draws
    generalize current.playback.handle state.counter call = result at draws isWaiting ⊢
    cases draws with
    | kept next same => exact .inr ⟨current, isCurrent, same ▸ isWaiting, by simp⟩
    | cleared next idle => simp [idle] at isWaiting
    | dispatched next isPending waits isNext =>
      exact .inr ⟨current, isCurrent, by simp [isPending], by simp⟩
    | drew next image startedAt isNext => exact .inl (by simp)

theorem Spent.stepped {state : Playbacks} (issued : state.Issued) {ticket : Nat}
    (spent : state.Spent ticket) (label : PlaybacksLabel) : (state.next label).Spent ticket := by
  cases label with
  | construct metadata primary appearance clock monotonic reducedMotion solar =>
    exact spent.constructed issued metadata primary appearance clock monotonic reducedMotion solar
  | call index call => exact spent.called issued index call
  | complete index other result monotonic storage =>
    simp only [next, complete]
    split
    next handed current isTicket isCurrent =>
      exact spent.called issued index (.completeDecode handed.request result monotonic storage)
    next => exact spent

/-! ## Completing a ticket -/

/-- A completion that is not ignored is the current one, as long as no generation came twice. -/
theorem Issued.current_of_acts {state : Playbacks} (issued : state.Issued)
    (fresh : state.drawn ≤ 2 ^ 64) {index ticket : Nat} {result : Option RgbaFrame} {monotonic : Nat}
    {storage : Option Nat} (acts : (state.complete index ticket result monotonic storage).2 ≠ .ignored) :
    state.Current index ticket := by
  simp only [complete] at acts
  split at acts
  next handed current isTicket isCurrent =>
    have completes := current.playback.completeDecode_completes state.counter handed.request result
      monotonic storage
    generalize current.playback.completeDecode state.counter handed.request result monotonic storage =
      completed at completes acts
    cases completes with
    | ignored => exact absurd rfl acts
    | acted _ isPending isRequest isDispatched replaced =>
      have member := List.mem_of_getElem? isTicket
      have generations := issued.generation index current _ isCurrent isPending
      rw [isRequest, issued.ticketGeneration handed member] at generations
      have same : handed.serial = current.serial :=
        generationOf_inj (Nat.lt_of_lt_of_le (issued.ticketSerial handed member) fresh)
          (Nat.lt_of_lt_of_le (issued.serial index current isCurrent) fresh) generations
      exact ⟨current, _, handed, isCurrent, isPending, isDispatched, isTicket,
        issued.owner index current isCurrent handed member same, same⟩
  next => exact absurd rfl acts

/-- A completion that is ignored changes no playback and draws nothing. -/
theorem complete_ignored {state : Playbacks} {index ticket : Nat} {result : Option RgbaFrame}
    {monotonic : Nat} {storage : Option Nat}
    (ignored : (state.complete index ticket result monotonic storage).2 = .ignored) :
    (state.complete index ticket result monotonic storage).1 = state := by
  simp only [complete] at ignored ⊢
  split at ignored
  next handed current isTicket isCurrent =>
    have completes := current.playback.completeDecode_completes state.counter handed.request result
      monotonic storage
    have unchanged : current.playback.completeDecode state.counter handed.request result monotonic
        storage = (current.playback, state.counter, .ignored) := by
      generalize current.playback.completeDecode state.counter handed.request result monotonic
        storage = completed at completes ignored ⊢
      cases completes with
      | ignored => rfl
      | acted acts => exact absurd ignored acts
    have itself : state.instances.set index current = state.instances := by
      obtain ⟨bound, isEntry⟩ := List.getElem?_eq_some_iff.mp isCurrent
      rw [← isEntry, List.set_getElem_self]
    simp [Playbacks.call, isCurrent, Playback.handle, unchanged, Playback.handedRequest, itself]
  next => rfl

theorem Issued.spent_of_acts {state : Playbacks} (issued : state.Issued) {index ticket : Nat}
    {result : Option RgbaFrame} {monotonic : Nat} {storage : Option Nat}
    (current : state.Current index ticket)
    (acts : (state.complete index ticket result monotonic storage).2 ≠ .ignored) :
    (state.complete index ticket result monotonic storage).1.Spent ticket := by
  obtain ⟨current, pending, handed, isCurrent, isPending, isDispatched, isTicket, isOwner, same⟩ :=
    current
  simp only [complete, isTicket, isCurrent] at acts ⊢
  have completes := current.playback.completeDecode_completes state.counter handed.request result
    monotonic storage
  simp only [call, isCurrent, Playback.handle, Playback.handedRequest, Option.toList_none,
    List.map_nil, List.append_nil]
  obtain ⟨completed, isCompleted⟩ : ∃ completed, current.playback.completeDecode state.counter
    handed.request result monotonic storage = completed := ⟨_, rfl⟩
  simp only [isCompleted] at completes acts ⊢
  refine ⟨handed, isTicket, ?_⟩
  intro other found isFound isWaiting
  cases getElem?_set_cases isFound with
  | inr old =>
    intro shared
    exact old.1 (issued.distinct other index found current old.2 isCurrent (shared.symm.trans same))
  | inl replacement =>
    rw [replacement.2] at isWaiting ⊢
    cases completes with
    | ignored => exact absurd rfl acts
    | acted _ _ _ _ replaced =>
      cases replaced with
      | inl cleared => simp [cleared.1] at isWaiting
      | inr drew =>
        obtain ⟨image, startedAt, _, isSuccessor⟩ := drew
        have older := issued.ticketSerial handed (List.mem_of_getElem? isTicket)
        simp only [isSuccessor, counter_succ_ne, if_true]
        omega

theorem drawn_le_next (state : Playbacks) (label : PlaybacksLabel) :
    state.drawn ≤ (state.next label).drawn := by
  have called : ∀ index call, state.drawn ≤ (state.call index call).drawn := by
    intro index call
    simp only [Playbacks.call]
    split
    next => exact Nat.le_refl _
    next =>
      simp only
      split <;> omega
  cases label with
  | construct metadata primary appearance clock monotonic reducedMotion solar =>
    exact Nat.le_succ _
  | call index call => exact called index call
  | complete index ticket result monotonic storage =>
    simp only [next, complete]
    split
    next => exact called _ _
    next => exact Nat.le_refl _

end Playbacks

/-! ## Runs -/

theorem playbacks_issued {state : Playbacks} (reachable : playbacksSystem.Reachable state) :
    state.Issued := by
  refine reachable.invariant Playbacks.Issued ?_ ?_
  · intro start isStart
    exact isStart ▸ Playbacks.start_issued
  · intro before label next issued isNext
    exact isNext ▸ issued.stepped label

/-- Unless more than `2 ^ 64` generations were drawn, a completion with a ticket that its playback
does not wait for is ignored and changes nothing, and a ticket is acted on once at most. -/
theorem stale_decodes_ignored (run : playbacksSystem.Run) {position : Nat}
    (bound : position ≤ run.length) (fresh : (run.state position).drawn ≤ 2 ^ 64) :
    (∀ index ticket result monotonic storage, ¬ (run.state position).Current index ticket →
      (run.state position).complete index ticket result monotonic storage =
        (run.state position, .ignored)) ∧
    ∀ earlier < position, ∀ index ticket result monotonic storage,
      run.label earlier = .complete index ticket result monotonic storage →
      ((run.state earlier).complete index ticket result monotonic storage).2 ≠ .ignored →
      ∀ other result monotonic storage,
        ((run.state position).complete other ticket result monotonic storage).2 = .ignored := by
  have issued : ∀ time ≤ run.length, (run.state time).Issued := fun time within =>
    playbacks_issued (run.reachable time within)
  constructor
  · intro index ticket result monotonic storage stale
    have ignored : ((run.state position).complete index ticket result monotonic storage).2 =
        .ignored := by
      by_contra acts
      exact stale ((issued position bound).current_of_acts fresh acts)
    exact Prod.ext (Playbacks.complete_ignored ignored) ignored
  · intro earlier before index ticket result monotonic storage isLabel acts other
    have drawnBefore : (run.state earlier).drawn ≤ (run.state position).drawn := by
      refine run.stays (fun state => (run.state earlier).drawn ≤ state.drawn) (Nat.le_of_lt before)
        bound ?_ (Nat.le_refl _)
      intro time _ within holds
      have steps := run.steps time (by omega)
      rw [show run.state (time + 1) = (run.state time).next (run.label time) from steps]
      exact Nat.le_trans holds (Playbacks.drawn_le_next _ _)
    have current := (issued earlier (by omega)).current_of_acts (Nat.le_trans drawnBefore fresh) acts
    -- Once a ticket has acted it is spent, and a spent ticket is never current again.
    have spent : (run.state (earlier + 1)).Spent ticket := by
      have steps : run.state (earlier + 1) = (run.state earlier).next (run.label earlier) :=
        run.steps earlier (by omega)
      rw [steps, isLabel]
      exact (issued earlier (by omega)).spent_of_acts current acts
    have stillSpent : (run.state position).Spent ticket := by
      refine run.stays (fun state => state.Spent ticket) before bound ?_ spent
      intro time _ within holds
      have steps : run.state (time + 1) = (run.state time).next (run.label time) :=
        run.steps time (by omega)
      rw [steps]
      exact holds.stepped (issued time (by omega)) _
    intro result monotonic storage
    by_contra again
    exact stillSpent.not_current other ((issued position bound).current_of_acts fresh again)

/-! ## Two playbacks -/

/-- The first playback is asked to complete the request of the second, then its own one twice. -/
def relayLabels : List PlaybacksLabel :=
  [.construct {} ⟨0⟩ .automatic (sampleClock 12 0 noon_valid) 0 false none,
    .construct {} ⟨0⟩ .automatic (sampleClock 12 0 noon_valid) 0 false none,
    .call 0 .takeDecodeRequest, .call 1 .takeDecodeRequest,
    .complete 0 1 (some (sampleFrame 10)) 0 none, .complete 0 0 (some (sampleFrame 20)) 0 none,
    .complete 0 0 (some (sampleFrame 30)) 0 none]

instance : Inhabited PlaybacksLabel := ⟨.call 0 .takeDecodeRequest⟩

def relayRun : playbacksSystem.Run :=
  TransitionSystem.totalRun (· = Playbacks.start) Playbacks.next Playbacks.start rfl relayLabels

theorem stale_decodes_ignored_sample :
    (∀ index ticket result monotonic storage, ¬ (relayRun.state 6).Current index ticket →
      (relayRun.state 6).complete index ticket result monotonic storage =
        (relayRun.state 6, .ignored)) ∧
    ∀ earlier < 6, ∀ index ticket result monotonic storage,
      relayRun.label earlier = .complete index ticket result monotonic storage →
      ((relayRun.state earlier).complete index ticket result monotonic storage).2 ≠ .ignored →
      ∀ other result monotonic storage,
        ((relayRun.state 6).complete other ticket result monotonic storage).2 = .ignored :=
  stale_decodes_ignored relayRun (show 6 ≤ relayRun.length by decide) (by decide +kernel)

/-! ## When the counter wraps -/

theorem generationOf_wraps (serial : Nat) : generationOf (serial + 2 ^ 64) = generationOf serial := by
  apply UInt64.toNat.inj
  simp only [generationOf, UInt64.toNat_ofNat']
  omega

/-- A playback of one fixed image waits for the decode of this draw. -/
def waitingPlayback (serial : Nat) (dispatched : Bool) : Playback where
  mode := .static
  primary := ⟨0⟩
  reducedMotion := false
  selected := ⟨0⟩
  generation := generationOf serial
  pending := some
    { request := { generation := generationOf serial, image := ⟨0⟩ }
      transitionStartedAt := none
      dispatched := dispatched }
  presented := none
  presentedImage := none
  transition := none
  retryNotBefore := none
  lastClock := sampleClock 12 0 noon_valid
  lastMonotonic := 0

def wrappingPlaybacks (serial : Nat) (dispatched : Bool) (tickets : List Ticket) : Playbacks where
  counter := generationOf (serial + 1)
  drawn := serial + 1
  instances := [{ playback := waitingPlayback serial dispatched, serial := serial }]
  tickets := tickets

def ticketOf (serial : Nat) : Ticket where
  owner := 0
  serial := serial
  request := { generation := generationOf serial, image := ⟨0⟩ }

theorem wrappingPlaybacks_taken (serial : Nat) (tickets : List Ticket) :
    (wrappingPlaybacks serial false tickets).call 0 .takeDecodeRequest =
      wrappingPlaybacks serial true (tickets ++ [ticketOf serial]) := by
  simp [Playbacks.call, wrappingPlaybacks, Playback.handle, Playback.handedRequest,
    Playback.takeDecodeRequest, waitingPlayback, ticketOf]

/-- After a discontinuity the decode that is pending is asked for again, with a new generation. -/
theorem waitingPlayback_restarted (serial : Nat) (dispatched : Bool) :
    (waitingPlayback serial dispatched).handle (generationOf (serial + 1))
        (.resynchronizeAfterDiscontinuity (sampleClock 12 0 (by decide)) 0) =
      (waitingPlayback (serial + 1) false, generationOf (serial + 2)) := by
  simp [Playback.handle, Playback.resynchronizeAfterDiscontinuity, Playback.synchronizeInner,
    Playback.selection, Playback.recover, Playback.settle, Playback.queueDecode, waitingPlayback,
    undispatched, generationOf_succ]

theorem wrappingPlaybacks_drew (serial : Nat) (dispatched : Bool) (tickets : List Ticket) :
    (wrappingPlaybacks serial dispatched tickets).call 0
        (.resynchronizeAfterDiscontinuity (sampleClock 12 0 (by decide)) 0) =
      wrappingPlaybacks (serial + 1) false tickets := by
  simp [Playbacks.call, wrappingPlaybacks, waitingPlayback_restarted, Playback.handedRequest,
    generationOf_succ (serial + 1)]

theorem wrappingPlaybacks_drew_reachable {serial : Nat} {dispatched : Bool} {tickets : List Ticket}
    (reachable : playbacksSystem.Reachable (wrappingPlaybacks serial dispatched tickets)) :
    playbacksSystem.Reachable (wrappingPlaybacks (serial + 1) false tickets) := by
  rw [← wrappingPlaybacks_drew serial dispatched tickets]
  exact TransitionSystem.reachable_foldl reachable
    [.call 0 (.resynchronizeAfterDiscontinuity (sampleClock 12 0 (by decide)) 0)]

theorem wrappingPlaybacks_taken_reachable {serial : Nat} {tickets : List Ticket}
    (reachable : playbacksSystem.Reachable (wrappingPlaybacks serial false tickets)) :
    playbacksSystem.Reachable (wrappingPlaybacks serial true (tickets ++ [ticketOf serial])) := by
  rw [← wrappingPlaybacks_taken serial tickets]
  exact TransitionSystem.reachable_foldl reachable [.call 0 .takeDecodeRequest]

theorem wrappingPlaybacks_reachable (serial : Nat) :
    playbacksSystem.Reachable (wrappingPlaybacks (serial + 1) false [ticketOf 0]) := by
  induction serial with
  | zero =>
    have started : playbacksSystem.Reachable Playbacks.start := .initial rfl
    have constructed : playbacksSystem.Reachable (wrappingPlaybacks 0 false []) :=
      TransitionSystem.reachable_foldl started
        [.construct {} ⟨0⟩ .automatic (sampleClock 12 0 (by decide)) 0 false none]
    exact wrappingPlaybacks_drew_reachable (wrappingPlaybacks_taken_reachable constructed)
  | succ serial inductionHypothesis => exact wrappingPlaybacks_drew_reachable inductionHypothesis

/-- After `2 ^ 64` draws the first request has the generation of the one that is pending, and the
playback accepts the old decode. -/
theorem stale_decode_accepted_after_wrap : ∃ state, playbacksSystem.Reachable state ∧
    ¬ state.Current 0 0 ∧ state.complete 0 0 none 0 none ≠ (state, .ignored) := by
  refine ⟨wrappingPlaybacks (2 ^ 64) true ([ticketOf 0] ++ [ticketOf (2 ^ 64)]),
    wrappingPlaybacks_taken_reachable (wrappingPlaybacks_reachable (2 ^ 64 - 1)), ?_, ?_⟩
  · intro holds
    obtain ⟨current, pending, handed, isCurrent, _, _, isTicket, _, same⟩ := holds
    cases isCurrent
    cases isTicket
    exact absurd same (by simp [ticketOf])
  · intro ignored
    have wraps : generationOf 18446744073709551616 = generationOf 0 := generationOf_wraps 0
    have outcome := congrArg Prod.snd ignored
    simp [Playbacks.complete, wrappingPlaybacks, ticketOf, waitingPlayback, Playback.completeDecode,
      Playback.completeDecodeWithLimit, wraps] at outcome

end Genkan.DynamicWallpaper
