import Genkan.Greeter.Flights
import Genkan.Wallpaper.State

/-! # The wallpaper updates of the greeter

Threads publish updates, the greeter hears of them by a signal and by a message, and the renderer answers
with another message what it was asked to allocate; all of this may be interleaved, with each other and with
what else the greeter does.  A message that comes while an allocation is waited for takes no update, and
none is lost by that.
-/

namespace Genkan.Greeter

open App

/-! ## The gates -/

theorem Move.closing_stays {core next : Core} {input : Input} {actions : List Action}
    (move : Move core input next actions) (closing : core.closing ≠ none) : next.closing ≠ none := by
  cases move with
  | kept => exact closing
  | abandons | closesSelection | closesSession | expires => exact Option.some_ne_none _
  | selects unclosed | fails unclosed | lists unclosed | begins unclosed | discovers unclosed | restarts unclosed
  | changes unclosed | deselects unclosed | resists unclosed | retries unclosed | submits unclosed
  | answered unclosed | breaks unclosed | closes unclosed | awaitsSelection unclosed | awaitsClient unclosed
  | cancels unclosed => exact absurd unclosed closing

theorem World.closing_stays {world next : World} {label : Label} {actions : List Action}
    (acts : world.act label = some (next, actions)) (unclosed : next.app.closing = none) :
    world.app.closing = none := by
  obtain ⟨_, _, _, _, move, _⟩ := World.act_moves acts
  by_contra closing
  exact move.closing_stays closing unclosed

/-- The messages about the wallpaper. -/
def Message.isWallpaper : Message → Bool
  | .wallpaperFrameReady | .wallpaperAllocated | .rendererInformation => true
  | _ => false

/-- Only a window that is closing holds them back, and nothing else of the greeter depends on them. -/
theorem allows_wallpaper (app : App) {message : Message} (isWallpaper : message.isWallpaper = true) :
    app.allows (.message message) = app.closing.isNone := by
  cases message with
  | wallpaperFrameReady | wallpaperAllocated | rendererInformation =>
    cases isClosing : app.closing with
    | none => cases isPower : app.powerState <;> simp [allows, closingAllows, powerAllows, isClosing, isPower]
    | some closing => cases closing <;> simp [allows, closingAllows, isClosing]
  | _ => contradiction

def Label.isWallpaper : Label → Bool
  | .input (.message message) _ => message.isWallpaper
  | _ => false

end Genkan.Greeter

namespace Genkan.Wallpaper

open Foundations

namespace Updates

/-! ## The greeter and its wallpaper -/

inductive Message where
  | wallpaperFrameReady
  | wallpaperAllocated (result : Except String Allocation)

def Message.sent : Message → Greeter.Message
  | .wallpaperFrameReady => .wallpaperFrameReady
  | .wallpaperAllocated _ => .wallpaperAllocated

/-- `messages` have not been handled yet, and `allocations` are what the renderer was asked for. -/
structure World where
  greeter : Greeter.World
  wallpaper : State
  pendingHeic : Option Settings
  messages : List Message
  allocations : List Handle

inductive Label where
  | greeter (label : Greeter.Label)
  /-- A thread of the movie player, or the supervisor of the helper, takes a step. -/
  | player (label : Threads.Label Movie.Operation Nat)
  | heic (answer : Helper.Answer)
  /-- The subscription hears of a change. -/
  | signal
  /-- A subscription that is about to be ended sends once more. -/
  | stray
  /-- The renderer has done one of the allocations, or failed. -/
  | allocate (index : Nat) (failure : Option String)
  | handle (index : Nat)
  | rendererInformation (backend : String) (started : Bool)

namespace World

def prepareWallpaperFrame (world : World) : World :=
  let (handle, wallpaper) := world.wallpaper.prepareLatest
  { world with wallpaper, allocations := world.allocations ++ handle.toList }

/-- `App::update` for the messages about the wallpaper. -/
def update (world : World) (message : Message) : World :=
  if !world.greeter.app.allows (.message message.sent) then world
  else
    match message with
    | .wallpaperFrameReady => world.prepareWallpaperFrame
    | .wallpaperAllocated result =>
      { world with wallpaper := (world.wallpaper.finishAllocation result).2 }.prepareWallpaperFrame

def applyRendererInformation (world : World) (backend : String) (started : Bool) : World :=
  match world.pendingHeic with
  | none => world
  | some settings =>
    if rendererSupportsDynamicHeic backend then
      { world with pendingHeic := none, wallpaper := world.wallpaper.startHeicSource settings started }
    else { world with pendingHeic := none }

/-- The subscription to the one source hears of a change. -/
def signal (world : World) : Option World :=
  match world.wallpaper.player, world.wallpaper.heic with
  | some player, _ =>
    player.hear.map fun player =>
      { world with
        wallpaper := { world.wallpaper with player := some player }
        messages := world.messages ++ [.wallpaperFrameReady] }
  | none, some heic =>
    heic.hear.map fun heic =>
      { world with
        wallpaper := { world.wallpaper with heic := some heic }
        messages := world.messages ++ [.wallpaperFrameReady] }
  | none, none => none

def next (world : World) : Label → Option World
  | .greeter label =>
    if label.isWallpaper then none
    else (world.greeter.act label).map fun (greeter, _) => { world with greeter }
  | .player label =>
    world.wallpaper.player.bind fun player => (Movie.slot.advance player label).map fun player =>
      { world with wallpaper := { world.wallpaper with player := some player } }
  | .heic answer =>
    world.wallpaper.heic.bind fun heic => (Helper.slot.advance heic answer).map fun heic =>
      { world with wallpaper := { world.wallpaper with heic := some heic } }
  | .signal => world.signal
  | .stray =>
    if world.wallpaper.decoderIsStopped then
      some { world with messages := world.messages ++ [.wallpaperFrameReady] }
    else none
  | .allocate index failure =>
    world.allocations[index]?.map fun handle =>
      { world with
        allocations := world.allocations.eraseIdx index
        messages := world.messages ++ [.wallpaperAllocated (failure.elim (.ok ⟨handle⟩) .error)] }
  | .handle index =>
    world.messages[index]?.map fun message =>
      { world with messages := world.messages.eraseIdx index }.update message
  | .rendererInformation backend started =>
    some (if world.greeter.app.allows (.message .rendererInformation) then
      world.applyRendererInformation backend started
    else world)

/-- The greeter as it starts: a dynamic wallpaper waits until the renderer is known. -/
def Starts (world : World) : Prop :=
  world.greeter.Starts ∧ world.messages = [] ∧ world.allocations = [] ∧
    ∃ settings poster started, world.wallpaper = .startDeferred settings poster started ∧
      world.pendingHeic = if selectsDynamicHeic settings then some settings else none

end World

def system : TransitionSystem World Label := .ofPartial World.Starts World.next

/-! ## What a step does -/

inductive Step (world : World) : World → Prop where
  | greeter {label : Greeter.Label} {greeter : Greeter.World} {actions : List Greeter.Action}
      (acts : world.greeter.act label = some (greeter, actions)) : Step world { world with greeter }
  | player {before player} {label : Threads.Label Movie.Operation Nat}
      (isPlayer : world.wallpaper.player = some before) (advances : Movie.slot.advance before label = some player) :
      Step world { world with wallpaper := { world.wallpaper with player := some player } }
  | heic {before heic} {answer : Helper.Answer} (isHeic : world.wallpaper.heic = some before)
      (advances : Helper.slot.advance before answer = some heic) :
      Step world { world with wallpaper := { world.wallpaper with heic := some heic } }
  | playerHeard {before player} (isPlayer : world.wallpaper.player = some before) (hears : before.hear = some player) :
      Step world
        { world with
          wallpaper := { world.wallpaper with player := some player }
          messages := world.messages ++ [.wallpaperFrameReady] }
  | heicHeard {before heic} (isHeic : world.wallpaper.heic = some before) (hears : before.hear = some heic) :
      Step world
        { world with
          wallpaper := { world.wallpaper with heic := some heic }
          messages := world.messages ++ [.wallpaperFrameReady] }
  | strays (isStopped : world.wallpaper.decoderIsStopped = true) :
      Step world { world with messages := world.messages ++ [.wallpaperFrameReady] }
  | allocates {index : Nat} {handle : Handle} {failure : Option String}
      (found : world.allocations[index]? = some handle) :
      Step world
        { world with
          allocations := world.allocations.eraseIdx index
          messages := world.messages ++ [.wallpaperAllocated (failure.elim (.ok ⟨handle⟩) .error)] }
  | handles {index : Nat} {message : Message} (found : world.messages[index]? = some message) :
      Step world ({ world with messages := world.messages.eraseIdx index }.update message)
  | informed {backend : String} {started : Bool} : Step world (world.applyRendererInformation backend started)
  | ignored : Step world world

theorem step_of_signal {world after : World} (signals : world.signal = some after) : Step world after := by
  simp only [World.signal] at signals
  split at signals
  next isPlayer =>
    obtain ⟨player, hears, isAfter⟩ := Option.map_eq_some_iff.mp signals
    exact isAfter ▸ .playerHeard isPlayer hears
  next _ isHeic =>
    obtain ⟨heic, hears, isAfter⟩ := Option.map_eq_some_iff.mp signals
    exact isAfter ▸ .heicHeard isHeic hears
  next => contradiction

theorem step_of_next {world after : World} {label : Label} (steps : world.next label = some after) :
    Step world after := by
  cases label with
  | greeter label =>
    simp only [World.next, Option.ite_none_left_eq_some] at steps
    obtain ⟨⟨greeter, actions⟩, acts, isAfter⟩ := Option.map_eq_some_iff.mp steps.2
    exact isAfter ▸ .greeter acts
  | player label =>
    obtain ⟨before, isPlayer, steps⟩ := Option.bind_eq_some_iff.mp steps
    obtain ⟨player, advances, isAfter⟩ := Option.map_eq_some_iff.mp steps
    exact isAfter ▸ .player isPlayer advances
  | heic answer =>
    obtain ⟨before, isHeic, steps⟩ := Option.bind_eq_some_iff.mp steps
    obtain ⟨heic, advances, isAfter⟩ := Option.map_eq_some_iff.mp steps
    exact isAfter ▸ .heic isHeic advances
  | signal => exact step_of_signal steps
  | stray =>
    simp only [World.next, Option.ite_none_right_eq_some, Option.some.injEq] at steps
    exact steps.2 ▸ .strays steps.1
  | allocate index failure =>
    obtain ⟨handle, found, isAfter⟩ := Option.map_eq_some_iff.mp steps
    exact isAfter ▸ .allocates found
  | handle index =>
    obtain ⟨message, found, isAfter⟩ := Option.map_eq_some_iff.mp steps
    exact isAfter ▸ .handles found
  | rendererInformation backend started =>
    simp only [World.next, Option.some.injEq] at steps
    subst steps
    split
    next => exact .informed
    next => exact .ignored

/-! ## No update is lost -/

namespace World

/-- The renderer is still to answer, or its answer is still to be handled. -/
def Outstanding (world : World) : Prop :=
  world.allocations ≠ [] ∨ ∃ result, .wallpaperAllocated result ∈ world.messages

/-- The greeter is going to look for an update without another signal. -/
def Owes (world : World) : Prop :=
  world.wallpaper.allocationPending = true ∨ .wallpaperFrameReady ∈ world.messages

structure Consistent (world : World) : Prop where
  single : world.wallpaper.Single
  /-- What is held back would be the first source. -/
  deferred : ∀ {settings}, world.pendingHeic = some settings → world.wallpaper.decoderIsStopped = true
  outstanding : world.greeter.app.closing = none → world.wallpaper.allocationPending = true → world.Outstanding
  covered : world.greeter.app.closing = none → world.wallpaper.Covered world.Owes

variable {world after : World}

/-- Without a source no message about the wallpaper does anything. -/
theorem update_of_stopped (single : world.wallpaper.Single) (isStopped : world.wallpaper.decoderIsStopped = true)
    (message : Message) : world.update message = world := by
  have prepares : world.prepareWallpaperFrame = world := by
    simp [prepareWallpaperFrame, State.prepareLatest_of_stopped single isStopped]
  simp only [update]
  split
  next => rfl
  next =>
    cases message with
    | wallpaperFrameReady => exact prepares
    | wallpaperAllocated result =>
      dsimp only
      rw [State.finishAllocation_of_stopped single isStopped result]
      exact prepares

theorem update_of_closing (closing : world.greeter.app.closing ≠ none) (message : Message) :
    world.update message = world := by
  have isWallpaper : message.sent.isWallpaper = true := by cases message <;> rfl
  simp [update, Greeter.allows_wallpaper _ isWallpaper, Option.isNone_iff_eq_none, closing]

theorem update_of_open (unclosed : world.greeter.app.closing = none) (message : Message) :
    world.update message =
      match message with
      | .wallpaperFrameReady => world.prepareWallpaperFrame
      | .wallpaperAllocated result =>
        { world with wallpaper := (world.wallpaper.finishAllocation result).2 }.prepareWallpaperFrame := by
  have isWallpaper : message.sent.isWallpaper = true := by cases message <;> rfl
  simp [update, Greeter.allows_wallpaper _ isWallpaper, unclosed]

/-- The greeter looks while it does not wait for an allocation. -/
theorem Consistent.prepare {owed : Prop} (single : world.wallpaper.Single) (covered : world.wallpaper.Covered owed)
    (unawaited : world.wallpaper.allocationPending = false)
    (deferred : ∀ {settings}, world.pendingHeic = some settings → world.wallpaper.decoderIsStopped = true) :
    world.prepareWallpaperFrame.Consistent := by
  have prepared := State.prepareLatest_prepared single.exclusive covered unawaited
  refine ⟨prepared.single, ?_, ?_, fun _ => prepared.covered.mono False.elim⟩
  · intro settings isSettings
    have isStopped := deferred isSettings
    have same := State.prepareLatest_of_stopped single isStopped
    simp only [prepareWallpaperFrame, same]
    exact isStopped
  · intro _ awaited
    obtain ⟨handle, isHandle⟩ := Option.isSome_iff_exists.mp (prepared.launches awaited)
    refine .inl ?_
    simp [prepareWallpaperFrame, isHandle]

theorem finish_covered {owed : Prop} (single : world.wallpaper.Single) (covered : world.wallpaper.Covered owed)
    (result : Except String Allocation) :
    (world.wallpaper.finishAllocation result).2.Single ∧ (world.wallpaper.finishAllocation result).2.Covered owed := by
  have finished := world.wallpaper.finishAllocation_finished result
  cases finished.sources with
  | inl kept =>
    refine ⟨⟨?_, fun _ => finished.unawaited⟩, covered.same kept.1 kept.2⟩
    rw [kept.1, kept.2]
    exact single.exclusive
  | inr dropped => exact ⟨⟨.inl dropped.1, fun _ => finished.unawaited⟩, .of_stopped dropped.1 dropped.2⟩

/-- A message that is dropped, or that leaves the greeter waiting as before. -/
theorem Consistent.erase (consistent : world.Consistent) {index : Nat} {message : Message}
    (found : world.messages[index]? = some message)
    (still : world.greeter.app.closing = none →
      world.wallpaper.allocationPending = true ∧ message = .wallpaperFrameReady) :
    { world with messages := world.messages.eraseIdx index }.Consistent where
  single := consistent.single
  deferred := consistent.deferred
  outstanding unclosed awaited := by
    cases consistent.outstanding unclosed awaited with
    | inl asked => exact .inl asked
    | inr answered =>
      obtain ⟨result, member⟩ := answered
      refine .inr ⟨result, Lists.mem_eraseIdx_of_ne found member ?_⟩
      rw [(still unclosed).2]
      simp
  covered unclosed := (consistent.covered unclosed).mono fun _ => .inl (still unclosed).1

theorem Consistent.handle (consistent : world.Consistent) {index : Nat} {message : Message}
    (found : world.messages[index]? = some message) :
    ({ world with messages := world.messages.eraseIdx index }.update message).Consistent := by
  by_cases unclosed : world.greeter.app.closing = none
  · have isOpen : { world with messages := world.messages.eraseIdx index }.greeter.app.closing = none := unclosed
    rw [update_of_open isOpen]
    have covered := consistent.covered unclosed
    cases message with
    | wallpaperFrameReady =>
      by_cases awaited : world.wallpaper.allocationPending = true
      · -- The message is gone without a look, but the answer of the renderer is still to come.
        have same : world.wallpaper.prepareLatest = (none, world.wallpaper) := by
          simp [State.prepareLatest, awaited]
        simp only [prepareWallpaperFrame, same, Option.toList_none, List.append_nil]
        exact consistent.erase found fun _ => ⟨awaited, rfl⟩
      · exact .prepare consistent.single covered (by simpa using awaited) consistent.deferred
    | wallpaperAllocated result =>
      obtain ⟨single, stillCovered⟩ := finish_covered consistent.single covered result
      refine .prepare single stillCovered (world.wallpaper.finishAllocation_finished result).unawaited ?_
      intro settings isSettings
      have isStopped := consistent.deferred isSettings
      have same := State.finishAllocation_of_stopped consistent.single isStopped result
      simp only [same]
      exact isStopped
  · have closing : { world with messages := world.messages.eraseIdx index }.greeter.app.closing ≠ none := unclosed
    rw [update_of_closing closing]
    exact consistent.erase found fun isOpen => absurd isOpen unclosed

/-- With a source none is held back. -/
theorem Consistent.undeferred (consistent : world.Consistent) (playing : world.wallpaper.decoderIsStopped = false)
    {settings : Settings} : world.pendingHeic ≠ some settings := by
  intro isSettings
  rw [consistent.deferred isSettings] at playing
  contradiction

theorem Consistent.set_player (consistent : world.Consistent) {before player}
    (isPlayer : world.wallpaper.player = some before)
    (covered : world.greeter.app.closing = none → Movie.slot.Covered world.Owes player) :
    { world with wallpaper := { world.wallpaper with player := some player } }.Consistent where
  single := consistent.single.advance_player isPlayer
  deferred isSettings := absurd isSettings (consistent.undeferred (by simp [State.decoderIsStopped, isPlayer]))
  outstanding := consistent.outstanding
  covered unclosed := (consistent.covered unclosed).advance_player (covered unclosed)

theorem Consistent.set_heic (consistent : world.Consistent) {before heic}
    (isHeic : world.wallpaper.heic = some before)
    (covered : world.greeter.app.closing = none → Helper.slot.Covered world.Owes heic) :
    { world with wallpaper := { world.wallpaper with heic := some heic } }.Consistent where
  single := consistent.single.advance_heic isHeic
  deferred isSettings := absurd isSettings (consistent.undeferred (by simp [State.decoderIsStopped, isHeic]))
  outstanding := consistent.outstanding
  covered unclosed := (consistent.covered unclosed).advance_heic (covered unclosed)

/-- Another message hides none of those that are waited for. -/
theorem Consistent.send (consistent : world.Consistent) (message : Message) :
    { world with messages := world.messages ++ [message] }.Consistent where
  single := consistent.single
  deferred := consistent.deferred
  outstanding unclosed awaited := by
    refine (consistent.outstanding unclosed awaited).imp_right ?_
    intro answered
    obtain ⟨result, member⟩ := answered
    exact ⟨result, List.mem_append_left _ member⟩
  covered unclosed := (consistent.covered unclosed).mono fun owes => owes.imp_right (List.mem_append_left _)

theorem Consistent.allocate (consistent : world.Consistent) (index : Nat) (result : Except String Allocation) :
    { world with
      allocations := world.allocations.eraseIdx index
      messages := world.messages ++ [Message.wallpaperAllocated result] }.Consistent where
  single := consistent.single
  deferred := consistent.deferred
  outstanding _ _ := .inr ⟨result, by simp⟩
  covered := (consistent.send (.wallpaperAllocated result)).covered

theorem Consistent.applyRendererInformation (consistent : world.Consistent) (backend : String) (started : Bool) :
    (world.applyRendererInformation backend started).Consistent := by
  simp only [World.applyRendererInformation]
  split
  next => exact consistent
  next settings isSettings =>
    split
    next =>
      have fresh := State.startHeicSource_fresh consistent.single (consistent.deferred isSettings) settings started
      refine ⟨fresh.single, fun pending => by contradiction, ?_, fun _ => fresh.covered.mono False.elim⟩
      intro _ awaited
      have unawaited := fresh.unawaited
      simp only at awaited
      rw [unawaited] at awaited
      contradiction
    next =>
      exact ⟨consistent.single, fun pending => by contradiction, consistent.outstanding, consistent.covered⟩

theorem Consistent.step (consistent : world.Consistent) (steps : Step world after) : after.Consistent := by
  cases steps with
  | greeter acts =>
    have stays := Greeter.World.closing_stays acts
    exact ⟨consistent.single, consistent.deferred, fun unclosed => consistent.outstanding (stays unclosed),
      fun unclosed => consistent.covered (stays unclosed)⟩
  | player isPlayer advances =>
    exact consistent.set_player isPlayer fun unclosed =>
      ((consistent.covered unclosed).player isPlayer).advance Movie.slot_lawful advances
  | heic isHeic advances =>
    exact consistent.set_heic isHeic fun unclosed =>
      ((consistent.covered unclosed).heic isHeic).advance Helper.slot_lawful advances
  | playerHeard isPlayer hears =>
    exact (consistent.send .wallpaperFrameReady).set_player isPlayer fun _ =>
      .of_owed (Slot.hear_heard hears) (.inr (by simp))
  | heicHeard isHeic hears =>
    exact (consistent.send .wallpaperFrameReady).set_heic isHeic fun _ =>
      .of_owed (Slot.hear_heard hears) (.inr (by simp))
  | strays => exact consistent.send .wallpaperFrameReady
  | allocates => exact consistent.allocate _ _
  | handles found => exact consistent.handle found
  | informed => exact consistent.applyRendererInformation _ _
  | ignored => exact consistent

theorem Starts.consistent (starts : world.Starts) : world.Consistent := by
  obtain ⟨_, _, _, settings, poster, started, isWallpaper, isPending⟩ := starts
  obtain ⟨fresh, deferred⟩ := State.startDeferred_fresh settings poster started
  rw [← isWallpaper] at fresh deferred
  refine ⟨fresh.single, ?_, ?_, fun _ => fresh.covered.mono False.elim⟩
  · intro held isHeld
    rw [isPending, Option.ite_none_right_eq_some] at isHeld
    exact deferred isHeld.1
  · intro _ awaited
    rw [fresh.unawaited] at awaited
    contradiction

end World

theorem consistent_of_reachable {world : World} (reachable : system.Reachable world) : world.Consistent :=
  reachable.invariant World.Consistent (fun _ => World.Starts.consistent)
    fun _ _ _ consistent steps => consistent.step (step_of_next steps)

/-! ## The frame that is shown -/

namespace World

variable {world after : World}

theorem prepareWallpaperFrame_hasFrame (isShown : world.wallpaper.hasFrame = true) :
    world.prepareWallpaperFrame.wallpaper.hasFrame = true :=
  State.prepareLatest_hasFrame isShown

theorem update_hasFrame (isShown : world.wallpaper.hasFrame = true) (message : Message) :
    (world.update message).wallpaper.hasFrame = true := by
  by_cases unclosed : world.greeter.app.closing = none
  · rw [update_of_open unclosed]
    cases message with
    | wallpaperFrameReady => exact prepareWallpaperFrame_hasFrame isShown
    | wallpaperAllocated result =>
      exact prepareWallpaperFrame_hasFrame ((world.wallpaper.finishAllocation_finished result).hasFrame isShown)
  · rw [update_of_closing unclosed]
    exact isShown

theorem applyRendererInformation_hasFrame (isShown : world.wallpaper.hasFrame = true) (backend : String)
    (started : Bool) : (world.applyRendererInformation backend started).wallpaper.hasFrame = true := by
  simp only [applyRendererInformation]
  split
  next => exact isShown
  next settings _ =>
    split
    next =>
      have same := world.wallpaper.startHeicSource_frame settings started
      simp only [State.hasFrame, same]
      exact isShown
    next => exact isShown

theorem step_hasFrame (isShown : world.wallpaper.hasFrame = true) (steps : Step world after) :
    after.wallpaper.hasFrame = true := by
  cases steps with
  | handles =>
    apply update_hasFrame
    exact isShown
  | informed => exact applyRendererInformation_hasFrame isShown _ _
  | greeter | player | heic | playerHeard | heicHeard | strays | allocates | ignored => exact isShown

/-! ## Runs -/

/-- The answer of the renderer makes the greeter look again, and a frame that it finds is asked for. -/
theorem Consistent.polls (consistent : world.Consistent) (unclosed : world.greeter.app.closing = none)
    (result : Except String Allocation) :
    (world.update (.wallpaperAllocated result)).wallpaper.pending = none ∧
      ∀ frame, world.wallpaper.pending = some (.frame frame) →
        (world.update (.wallpaperAllocated result)).wallpaper.decoderIsStopped = false →
        (world.update (.wallpaperAllocated result)).allocations = world.allocations ++ [.fromRgba frame] := by
  obtain ⟨single, covered⟩ := finish_covered consistent.single (consistent.covered unclosed) result
  have finished := world.wallpaper.finishAllocation_finished result
  have prepared := State.prepareLatest_prepared single.exclusive covered finished.unawaited
  rw [update_of_open unclosed]
  refine ⟨prepared.empty, ?_⟩
  intro frame isPending playing
  cases finished.sources with
  | inl kept =>
    have hands := prepared.hands frame ((State.pending_same kept.1 kept.2).trans isPending)
    simp [prepareWallpaperFrame, hands]
  | inr dropped =>
    have isStopped := State.stopped_iff.mpr dropped
    simp only [prepareWallpaperFrame, State.prepareLatest_of_stopped single isStopped, isStopped] at playing
    contradiction

end World

/-- Outside the closing of the window, an update that is pending has an allocation or a message on its way
that makes the greeter look for it, or a change that has not been heard of; what the renderer answers after
playback has stopped changes nothing; and a frame once shown is only ever replaced by another. -/
theorem no_update_lost (run : system.Run) {index : Nat} (bound : index ≤ run.length) :
    let world := run.state index
    (world.greeter.app.closing = none → world.wallpaper.pending ≠ none →
      (world.wallpaper.allocationPending = true ∧ world.Outstanding) ∨ .wallpaperFrameReady ∈ world.messages ∨
        world.wallpaper.Changing) ∧
    (world.greeter.app.closing = none → ∀ result,
      let after := world.update (.wallpaperAllocated result)
      after.wallpaper.pending = none ∧
        ∀ frame, world.wallpaper.pending = some (.frame frame) → after.wallpaper.decoderIsStopped = false →
          after.allocations = world.allocations ++ [.fromRgba frame]) ∧
    (world.wallpaper.decoderIsStopped = true → ∀ result, world.update (.wallpaperAllocated result) = world) ∧
    ∀ last, index ≤ last → last ≤ run.length → world.wallpaper.hasFrame = true →
      (run.state last).wallpaper.hasFrame = true := by
  have consistent := consistent_of_reachable (run.reachable index bound)
  refine ⟨?_, consistent.polls, ?_, ?_⟩
  · intro unclosed pending
    have covered := consistent.covered unclosed
    cases covered.of_pending consistent.single.exclusive pending with
    | inl changing => exact .inr (.inr changing)
    | inr owes =>
      cases owes with
      | inl awaited => exact .inl ⟨awaited, consistent.outstanding unclosed awaited⟩
      | inr ready => exact .inr (.inl ready)
  · intro isStopped result
    exact World.update_of_stopped consistent.single isStopped _
  · intro last order within isShown
    exact run.stable (fun world => world.wallpaper.hasFrame = true)
      (fun _ _ _ isShown steps => World.step_hasFrame isShown (step_of_next steps)) order within isShown

/-- A greeter that plays a movie, and is not configured for an account. -/
def sampleStart : World where
  greeter :=
    { app := (Greeter.App.new none []).1
      flights := Greeter.World.numbered 0 (Greeter.World.tasks (Greeter.App.new none []).2)
      issued := (Greeter.World.tasks (Greeter.App.new none []).2).length }
  wallpaper := .startDeferred { animate := true, heicPath := none } none true
  pendingHeic := none
  messages := []
  allocations := []

theorem sampleStart_starts : sampleStart.Starts :=
  ⟨⟨none, [], rfl⟩, rfl, rfl, { animate := true, heicPath := none }, none, true, rfl, rfl⟩

instance : Inhabited Label := ⟨.signal⟩

/-- A thread publishes a frame, and the greeter hears of it and looks for it. -/
def publishes (thread : Nat) : List Label :=
  let frame : Frame := { width := 1, height := 1, pixels := [1, 2, 3, 4], pts := none }
  .player (.start (.publishFrame frame)) :: List.replicate 5 (.player (.advance thread 0)) ++ [.signal, .handle 0]

/-- The second frame is published while the allocation of the first is waited for. -/
def sampleRun : system.Run :=
  TransitionSystem.runOfLabels sampleStart sampleStart_starts (publishes 0 ++ publishes 1) (by decide +kernel)

theorem no_update_lost_sample :
    (sampleRun.state 16).wallpaper.pending ≠ none ∧ sampleRun.length = 16 ∧
      (((sampleRun.state 16).wallpaper.allocationPending = true ∧ (sampleRun.state 16).Outstanding) ∨
        .wallpaperFrameReady ∈ (sampleRun.state 16).messages ∨ (sampleRun.state 16).wallpaper.Changing) :=
  have pending : (sampleRun.state 16).wallpaper.pending ≠ none := by decide +kernel
  ⟨pending, rfl, (no_update_lost sampleRun (Nat.le_refl 16)).1 (by decide +kernel) pending⟩

end Updates

end Genkan.Wallpaper
