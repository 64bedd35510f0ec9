import Genkan.Wallpaper.LoopRequests
import Genkan.DynamicWallpaper.Frames

/-! # The loop crossfade of the movie player

The published frames lie between the held and the decoded ones, and a crossfade that ended does not come
back before the next loop.
-/

namespace Genkan.Wallpaper

open Foundations Foundations.Lists

namespace Movie

/-! ## Between the held and the decoded frame -/

/-- Channel by channel; without a held frame, the decoded frame itself. -/
def Between (held : Option Frame) (shown decoded : Frame) : Prop :=
  match held with
  | none => shown = decoded
  | some held =>
    shown = { decoded with pixels := shown.pixels } ∧ shown.pixels.length = decoded.pixels.length ∧
      sameDimensions held decoded = true ∧
      ∀ position, DynamicWallpaper.Toward (held.pixels.getD position 0) (shown.pixels.getD position 0)
        (shown.pixels.getD position 0) (decoded.pixels.getD position 0)

theorem blend_between {held decoded : Frame} (same : sameDimensions held decoded = true) {weight : Nat}
    (bound : weight ≤ 256) : Between (some held) (blend held decoded weight) decoded := by
  have lengths : held.pixels.length = decoded.pixels.length := by
    simp only [sameDimensions, Bool.and_eq_true, beq_iff_eq] at same
    exact same.2
  refine ⟨rfl, ?_, same, ?_⟩
  · simp [blend, lengths]
  · exact DynamicWallpaper.zipWith_mix_toward lengths (Nat.le_refl weight) bound

theorem transitionProgress_le (transition : LoopTransition) (pts : Option Nat) (now : Nat) :
    transitionProgress transition pts now ≤ 256 := Nat.min_le_right _ _

theorem blended_between (decoded : Frame) (transition : Option LoopTransition) (now : Nat) :
    Between ((blended decoded transition now).2.map (·.held)) (blended decoded transition now).1 decoded := by
  cases transition with
  | none => rfl
  | some transition =>
    simp only [blended]
    split
    next mixes =>
      simp only [Bool.and_eq_true] at mixes
      exact blend_between mixes.2 (transitionProgress_le _ _ _)
    next => rfl

/-- The frame that the callback carries through `publish_frame`. -/
structure Player.Carries (player : Player) : Prop where
  opening : ∀ decoded requests overlapped frame,
    player.callback = .publishing decoded requests overlapped (.publishFrame frame) → frame = decoded.frame
  blending : ∀ decoded requests overlapped frame transition,
    player.callback = .publishing decoded requests overlapped (.blending frame transition) →
      frame = decoded.frame
  publishing : ∀ decoded requests overlapped shown transition,
    player.callback = .publishing decoded requests overlapped (.publishing shown transition) →
      Between (transition.map (·.held)) shown decoded.frame

theorem Player.Carries.of_overlap {player next : Player} (carries : player.Carries)
    (isNext : next.callback = player.callback.overlap) : next.Carries := by
  refine ⟨?_, ?_, ?_⟩
  · intro decoded requests overlapped frame isCallback
    obtain ⟨_, isBefore⟩ := Callback.overlap_eq_publishing (isNext ▸ isCallback)
    exact carries.opening _ _ _ _ isBefore
  · intro decoded requests overlapped frame transition isCallback
    obtain ⟨_, isBefore⟩ := Callback.overlap_eq_publishing (isNext ▸ isCallback)
    exact carries.blending _ _ _ _ _ isBefore
  · intro decoded requests overlapped shown transition isCallback
    obtain ⟨_, isBefore⟩ := Callback.overlap_eq_publishing (isNext ▸ isCallback)
    exact carries.publishing _ _ _ _ _ isBefore

theorem Player.Carries.moves {settings : Settings} {player next : Player} (carries : player.Carries)
    (moves : player.Moves settings next) : next.Carries := by
  cases moves with
  | pulls | drops | posts =>
    exact ⟨by rintro _ _ _ _ ⟨⟩, by rintro _ _ _ _ _ ⟨⟩, by rintro _ _ _ _ _ ⟨⟩⟩
  | returns decoded requests =>
    cases requests <;>
      exact ⟨by rintro _ _ _ _ ⟨⟩, by rintro _ _ _ _ _ ⟨⟩, by rintro _ _ _ _ _ ⟨⟩⟩
  | shows | reaches =>
    refine ⟨?_, by rintro _ _ _ _ _ ⟨⟩, by rintro _ _ _ _ _ ⟨⟩⟩
    rintro _ _ _ _ ⟨⟩
    rfl
  | opens decoded requests overlapped frame isCallback =>
    refine ⟨by rintro _ _ _ _ ⟨⟩, ?_, by rintro _ _ _ _ _ ⟨⟩⟩
    rintro _ _ _ _ _ ⟨⟩
    exact carries.opening _ _ _ _ isCallback
  | blends decoded requests overlapped frame transition now isCallback =>
    refine ⟨by rintro _ _ _ _ ⟨⟩, by rintro _ _ _ _ _ ⟨⟩, ?_⟩
    rintro _ _ _ _ _ ⟨⟩
    rw [carries.blending _ _ _ _ _ isCallback]
    exact blended_between decoded.frame transition now
  | publishes =>
    exact ⟨by rintro _ _ _ _ ⟨⟩, by rintro _ _ _ _ _ ⟨⟩, by rintro _ _ _ _ _ ⟨⟩⟩
  | notifies decoded requests overlapped operation following shared isCallback before after =>
    refine ⟨?_, ?_, ?_⟩
    · rintro _ _ _ _ ⟨⟩
      exact after.elim
    · rintro _ _ _ _ _ ⟨⟩
      exact after.elim
    · rintro _ _ _ _ _ ⟨⟩
      exact after.elim
  | pops | seeks => exact ⟨carries.opening, carries.blending, carries.publishing⟩
  | begins => exact carries.of_overlap rfl

/-! ## An ended crossfade -/

/-- A frame was published as it was decoded since the last loop began, in sections that both came after
that. -/
def Ended (history : List Event) : Prop :=
  ∃ before first middle, history = before ++ .published first :: middle ∧ first.held = none ∧
    first.overlapped = false ∧ .began ∉ middle

theorem Ended.of_append {history : List Event} {event : Event} (ended : Ended (history ++ [event])) :
    (∃ first, event = .published first ∧ first.held = none ∧ first.overlapped = false) ∨
      (event ≠ .began ∧ Ended history) := by
  obtain ⟨before, first, middle, split, unheld, apart, unbegun⟩ := ended
  obtain ⟨_, isEvent, _⟩ | ⟨rest, rfl, same⟩ := append_singleton_split split
  · exact .inl ⟨first, isEvent, unheld, apart⟩
  · refine .inr ⟨?_, before, first, rest, same, unheld, apart, ?_⟩
    · rintro rfl
      exact unbegun (by simp)
    · exact fun member => unbegun (List.mem_append_left _ member)

theorem Ended.of_append_other {history : List Event} {event : Event} (ended : Ended (history ++ [event]))
    (other : ∀ publication, event ≠ .published publication) : Ended history := by
  obtain ⟨first, isEvent, _⟩ | ⟨_, earlier⟩ := ended.of_append
  · exact absurd isEvent (other first)
  · exact earlier

/-- The transition that the callback holds between its two sections. -/
def Callback.Holds (callback : Callback) (overlapped : Bool) (transition : Option LoopTransition) : Prop :=
  ∃ decoded requests frame, callback = .publishing decoded requests overlapped (.blending frame transition) ∨
    callback = .publishing decoded requests overlapped (.publishing frame transition)

/-- No transition is left where the crossfade has ended. -/
structure Player.Faded (player : Player) : Prop where
  state : Ended player.history → player.shared.state.transition = none
  held : Ended player.history → ∀ overlapped transition,
    player.callback.Holds overlapped transition → transition = none
  taken : ∀ transition, player.callback.Holds false transition → player.shared.state.transition = none

/-- A step after which the callback holds nothing. -/
theorem Player.Faded.of_empty {player next : Player} (faded : player.Faded)
    (ends : Ended next.history → Ended player.history)
    (sameTransition : next.shared.state.transition = player.shared.state.transition)
    (empty : ∀ overlapped transition, ¬ next.callback.Holds overlapped transition) : next.Faded :=
  ⟨fun ended => sameTransition ▸ faded.state (ends ended),
    fun _ _ _ holds => absurd holds (empty _ _), fun _ holds => absurd holds (empty _ _)⟩

theorem Player.Faded.moves {settings : Settings} {player next : Player} (faded : player.Faded)
    (moves : player.Moves settings next) : next.Faded := by
  cases moves with
  | pulls | shows => exact faded.of_empty id rfl (by simp [Callback.Holds])
  | reaches =>
    exact faded.of_empty (fun ended => ended.of_append_other (by simp)) rfl (by simp [Callback.Holds])
  | drops decoded =>
    refine faded.of_empty ?_ rfl (by simp [Callback.Holds])
    intro ended
    cases reaching_cases settings decoded with
    | inl isEmpty => simpa [isEmpty] using ended
    | inr isReached =>
      rw [isReached] at ended
      exact ended.of_append_other (by simp)
  | opens decoded requests overlapped frame isCallback =>
    refine ⟨fun _ => rfl, ?_, fun _ _ => rfl⟩
    rintro ended _ _ ⟨_, _, _, ⟨⟨⟩⟩ | ⟨⟨⟩⟩⟩
    exact faded.state ended
  | blends decoded requests overlapped frame transition now isCallback =>
    have holds : player.callback.Holds overlapped transition := ⟨_, _, _, .inl isCallback⟩
    refine ⟨faded.state, ?_, ?_⟩
    · rintro ended _ _ ⟨_, _, _, ⟨⟨⟩⟩ | ⟨⟨⟩⟩⟩
      rw [faded.held ended _ _ holds]
      rfl
    · rintro _ ⟨_, _, _, ⟨⟨⟩⟩ | ⟨⟨⟩⟩⟩
      exact faded.taken _ holds
  | publishes decoded requests overlapped shown transition now isCallback =>
    have holds : player.callback.Holds overlapped transition := ⟨_, _, _, .inr isCallback⟩
    refine ⟨?_, by simp [Callback.Holds], by simp [Callback.Holds]⟩
    intro ended
    obtain ⟨first, isFirst, unheld, apart⟩ | ⟨_, earlier⟩ := ended.of_append
    · cases isFirst
      simp only [Option.map_eq_none_iff] at unheld apart
      subst unheld apart
      simp [faded.taken _ holds]
    · simp [faded.state earlier, faded.held earlier _ _ holds]
  | notifies decoded requests overlapped operation following shared isCallback before after sameState =>
    refine faded.of_empty id (by simp only [sameState]) ?_
    rintro _ _ ⟨_, _, _, ⟨⟨⟩⟩ | ⟨⟨⟩⟩⟩ <;> exact after
  | returns decoded requests =>
    refine faded.of_empty id rfl ?_
    cases requests <;> simp [Callback.Holds]
  | posts =>
    exact faded.of_empty (fun ended => ended.of_append_other (by simp)) rfl (by simp [Callback.Holds])
  | pops | seeks => exact ⟨faded.state, faded.held, faded.taken⟩
  | begins =>
    have unended : ¬ Ended (player.history ++ [.began]) := by
      intro ended
      obtain ⟨first, isFirst, _⟩ | ⟨other, _⟩ := ended.of_append
      · cases isFirst
      · exact other rfl
    refine ⟨fun ended => absurd ended unended, fun ended => absurd ended unended, ?_⟩
    rintro _ ⟨_, _, _, isCallback⟩
    simp only [Callback.overlap] at isCallback
    split at isCallback
    next => simp at isCallback
    next => simp at isCallback
    next notBlending notPublishing =>
      cases isCallback with
      | inl isCallback => exact absurd isCallback (notBlending _ _ _ _ _)
      | inr isCallback => exact absurd isCallback (notPublishing _ _ _ _ _)

/-! ## The history -/

/-- What an event says of the events before it. -/
def Event.Allowed (settings : Settings) (before : List Event) : Event → Prop
  | .requested pass => .requested pass ∉ before
  | .published publication =>
    .requested publication.pass ∉ before ∧ FirstSinceReached publication.pass before ∧
      Between publication.held publication.shown publication.decoded ∧
      (publication.held ≠ none → ¬ Ended before) ∧
      (settings.loops = .onRequest → publication.overlapped = false)
  | _ => True

structure Player.Lawful (settings : Settings) (player : Player) : Prop where
  sound : player.Sound
  timed : ∃ latest, player.Timed settings latest
  approaches : player.Approaches
  alternates : settings.loops = .onRequest → player.Alternates
  carries : player.Carries
  faded : player.Faded
  allowed : EachAfter (Event.Allowed settings) player.history

theorem Player.Lawful.initial (settings : Settings) : Player.Lawful settings {} where
  sound := ⟨rfl, by rintro _ _ _ _ ⟨⟩⟩
  timed := ⟨0, Nat.le_refl _, by simp [Player.Requests, Callback.WillRequest],
    by simp [Player.Requests, Callback.WillRequest], by simp,
    ⟨fun _ => rfl, by simp [Player.Requests, Callback.WillRequest]⟩⟩
  approaches := by rintro _ _ _ _ ⟨⟩
  alternates _ := ⟨by decide, fun some => absurd some (by decide), fun _ willRequest => willRequest.elim,
    by rintro _ ⟨⟩, by rintro _ _ _ _ ⟨⟩⟩
  carries := ⟨by rintro _ _ _ _ ⟨⟩, by rintro _ _ _ _ _ ⟨⟩, by rintro _ _ _ _ _ ⟨⟩⟩
  faded := ⟨fun _ => rfl, by simp [Callback.Holds], by simp [Callback.Holds]⟩
  allowed := eachAfter_nil _

theorem Player.Lawful.allowed_moves {settings : Settings} {player next : Player}
    (lawful : player.Lawful settings) (moves : player.Moves settings next) :
    EachAfter (Event.Allowed settings) next.history := by
  have allowed := lawful.allowed
  obtain ⟨latest, timed⟩ := lawful.timed
  cases moves with
  | pulls | shows | opens | blends | notifies | returns | pops | seeks => exact allowed
  | reaches | begins => exact allowed.append trivial
  | drops decoded =>
    cases reaching_cases settings decoded with
    | inl isEmpty => simpa [isEmpty] using allowed
    | inr isReached =>
      rw [isReached]
      exact allowed.append trivial
  | publishes decoded requests overlapped shown transition now isCallback =>
    refine allowed.append ⟨timed.unrequested isCallback, ?_, ?_, ?_, ?_⟩
    · exact lawful.approaches _ _ _ _ isCallback trivial
    · exact lawful.carries.publishing _ _ _ _ _ isCallback
    · intro blends ended
      exact blends (by simp [lawful.faded.held ended _ _ ⟨_, _, _, .inr isCallback⟩])
    · exact fun onRequest => (lawful.alternates onRequest).apart _ _ _ _ isCallback
  | posts decoded delivered isCallback =>
    have callback := timed.callback
    simp only [Player.CallbackTimed, isCallback] at callback
    exact allowed.append callback.2

theorem Player.Lawful.moves {settings : Settings} {player next : Player} (lawful : player.Lawful settings)
    (moves : player.Moves settings next) : next.Lawful settings := by
  obtain ⟨latest, timed⟩ := lawful.timed
  obtain ⟨latest', timedNext⟩ := timed.moves moves
  exact
    { sound := moves.sound lawful.sound
      timed := ⟨latest', timedNext⟩
      approaches := lawful.approaches.moves timed timedNext moves
      alternates := fun onRequest => (lawful.alternates onRequest).moves onRequest timedNext moves
      carries := lawful.carries.moves moves
      faded := lawful.faded.moves moves
      allowed := lawful.allowed_moves moves }

theorem reachable_lawful {settings : Settings} {player : Player}
    (reachable : (playing settings).Reachable player) : player.Lawful settings := by
  refine reachable.invariant (Player.Lawful settings) ?_ ?_
  · rintro _ rfl
    exact .initial settings
  · intro player label next lawful steps
    exact lawful.moves (lawful.sound.moves steps)

/-- In every interleaving of the callback and the loops, a pass that reaches the loop point is requested to
loop exactly once, by the one frame of it that is still published; every published frame lies between the
held and the decoded one; and a frame is blended again only after the next loop began.  A loop that begins
between the two sections of a publication counts as begun after it; on request, there are none. -/
theorem loop_crossfade (settings : Settings) {player : Player}
    (reachable : (playing settings).Reachable player) :
    (∀ pass,
      player.history.count (.requested pass) ≤ 1 ∧
        (.reached pass ∈ player.history →
          player.history.count (.requested pass) = 1 ∨ player.callback.WillRequest pass) ∧
        (∀ before after : List Event, player.history = before ++ .requested pass :: after →
          ∀ publication, .published publication ∈ after → publication.pass ≠ pass) ∧
        ∀ (before middle : List Event) (publication : Publication) (after : List Event),
          player.history = before ++ .reached pass :: middle ++ .published publication :: after →
            publication.pass = pass → ∀ other, .published other ∉ middle) ∧
      (∀ publication, .published publication ∈ player.history →
        Between publication.held publication.shown publication.decoded) ∧
      ∀ (before : List Event) (first : Publication) (middle : List Event) (second : Publication)
          (after : List Event),
        player.history = before ++ .published first :: middle ++ .published second :: after →
          first.held = none → second.held ≠ none →
            .began ∈ middle ∨ (settings.loops = .anytime ∧ first.overlapped = true) := by
  have lawful := reachable_lawful reachable
  have allowed := lawful.allowed
  obtain ⟨latest, timed⟩ := lawful.timed
  -- Each event is one that the history before it allows; the claims are read off that.
  have once : ∀ pass, player.history.count (.requested pass) ≤ 1 :=
    fun pass => count_le_one fun before after split => allowed before _ after split
  refine ⟨fun pass => ⟨once pass, ?_, ?_, ?_⟩, ?_, ?_⟩
  · intro reached
    refine (timed.reached pass reached).imp ?_ id
    exact fun member => Nat.le_antisymm (once pass) (List.count_pos_iff.mpr member)
  · rintro before after split publication member rfl
    obtain ⟨middle, rest, rfl⟩ := List.append_of_mem member
    have isAllowed := allowed (before ++ .requested publication.pass :: middle) (.published publication) rest
      (by simp [split])
    exact isAllowed.1 (by simp)
  · rintro before middle publication after split rfl
    exact (allowed _ (.published publication) after split).2.1 before middle rfl
  · intro publication member
    obtain ⟨before, after, split⟩ := List.append_of_mem member
    exact (allowed _ (.published publication) after split).2.2.1
  · intro before first middle second after split unheld blends
    have unended := (allowed _ (.published second) after split).2.2.2.1 blends
    by_contra neither
    rw [not_or] at neither
    refine unended ⟨before, first, middle, rfl, unheld, ?_, neither.1⟩
    cases mode : settings.loops with
    | anytime => simpa [mode] using neither.2
    | onRequest =>
      have isFirst := allowed before (.published first) (middle ++ .published second :: after) (by simp [split])
      exact isFirst.2.2.2.2 mode

def sampleSettings : Settings := { duration := loopLead + 1000, crossfade := 800, loops := .onRequest }

def paintedFrame (pts : Nat) (channel : UInt8) : Frame :=
  { width := 1, height := 1, pixels := [channel, channel, channel, 255], pts := some pts }

def publishSteps (pts : Nat) (channel : UInt8) : List PlayerLabel :=
  [.decode (paintedFrame pts channel), .decide] ++ List.replicate 6 (.publish 0)

/-- A pass of two frames, its loop, and the next pass at half of the crossfade. -/
def sampleLoop : List PlayerLabel :=
  publishSteps 0 10 ++ publishSteps 1000 20 ++ [.post true, .pop, .beginLoop 7, .seek] ++ publishSteps 400 80

def sampleLooped : Player := (sampleLoop.foldlM (Player.next sampleSettings) {}).getD {}

theorem loop_crossfade_sample :
    sampleLooped.history.count (.requested 0) = 1 ∧
      Between (some (paintedFrame 1000 20)) (paintedFrame 400 50) (paintedFrame 400 80) := by
  have reachable : (playing sampleSettings).Reachable sampleLooped :=
    TransitionSystem.reachable_of_labels (.initial rfl) sampleLoop (by decide)
  obtain ⟨requests, between, _⟩ := loop_crossfade sampleSettings reachable
  have blended : .published
      { pass := 1
        decoded := paintedFrame 400 80
        shown := paintedFrame 400 50
        held := some (paintedFrame 1000 20)
        overlapped := false } ∈ sampleLooped.history := by decide
  exact ⟨((requests 0).2.1 (by decide)).resolve_right id, between _ blended⟩

end Movie

end Genkan.Wallpaper
