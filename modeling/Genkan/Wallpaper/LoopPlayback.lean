import Genkan.Wallpaper.FailureLatch

/-! # The loop playback of the movie player

The callback of the decoder publishes frames and requests a loop at the end of a pass; the monitor answers
a request with a crossfade from the last frame and a seek.  A section under the lock of the state is one
step, and so is each access to an atomic.  The monitor reports a failure only after it has stopped the
decoder, so `fail_once` never runs beside the callback.
-/

namespace Genkan.Wallpaper

open Foundations

namespace Movie

/-! ## The callback and the monitor -/

/-- The two threads, with loops only on a request, or with a loop or a seek at any moment. -/
inductive Loops where
  | onRequest
  | anytime
  deriving DecidableEq, Repr

structure Settings where
  duration : Nat
  crossfade : Nat
  loops : Loops
  deriving DecidableEq, Repr

/-- 50 ms. -/
def loopLead : Nat := 50 * 10 ^ 6

def Settings.loopAt (settings : Settings) : Nat := settings.duration - loopLead

inductive LoopFrameAction where
  | publish
  | request
  | drop
  deriving DecidableEq, Repr

/-- The action on a frame, and the flag after it; each case is one access to the flag. -/
def loopFrameAction (settings : Settings) (loopRequested : Bool) (frame : Frame) : LoopFrameAction × Bool :=
  match frame.pts with
  | none => (if loopRequested then .drop else .publish, loopRequested)
  | some pts =>
    if pts < settings.loopAt then (.publish, false)
    else (if loopRequested then .drop else .request, true)

/-- A frame as the callback pulls it, and the pass that was decoded at that moment. -/
structure Decoded where
  pass : Nat
  frame : Frame
  deriving DecidableEq, Repr

/-- What was published for a decoded frame; `held` is the frame it was blended with, if it was, and
`overlapped` says that a loop began between the two sections. -/
structure Publication where
  pass : Nat
  decoded : Frame
  shown : Frame
  held : Option Frame
  overlapped : Bool
  deriving DecidableEq, Repr

inductive Event where
  /-- The callback looked at a frame of the pass at or after the loop point. -/
  | reached (pass : Nat)
  | requested (pass : Nat)
  | published (publication : Publication)
  | began
  deriving DecidableEq, Repr

inductive Callback where
  | idle
  /-- A frame is pulled; before `loop_frame_action`. -/
  | deciding (decoded : Decoded)
  /-- In `publish_frame`. -/
  | publishing (decoded : Decoded) (requests overlapped : Bool) (operation : Operation)
  /-- The frame at the loop point is published; before the message is posted. -/
  | requesting (decoded : Decoded)
  deriving DecidableEq, Repr

inductive Monitor where
  | waiting
  /-- A loop message was popped; before `begin_loop`. -/
  | beginning
  | seeking
  deriving DecidableEq, Repr

structure Player where
  shared : Shared := {}
  loopRequested : Bool := false
  callback : Callback := .idle
  monitor : Monitor := .waiting
  /-- The loop messages on the bus. -/
  messages : Nat := 0
  pass : Nat := 0
  /-- The last presentation time of the pass. -/
  lastPts : Option Nat := none
  history : List Event := []
  deriving DecidableEq, Repr

inductive PlayerLabel where
  | decode (frame : Frame)
  | decide
  | publish (now : Nat)
  | post (delivered : Bool)
  | pop
  | beginLoop (now : Nat)
  | seek
  deriving DecidableEq, Repr

/-- Presentation times do not decrease within a pass, and a later pass starts before the loop point. -/
def Player.follows (settings : Settings) (player : Player) (frame : Frame) : Bool :=
  match frame.pts, player.lastPts with
  | none, _ => true
  | some pts, some last => decide (last ≤ pts)
  | some pts, none => player.pass == 0 || decide (pts < settings.loopAt)

/-- What a step of `publish_frame` adds to the history: its second section publishes. -/
def publications (decoded : Decoded) (overlapped : Bool) (before after : Operation) : List Event :=
  match before, after with
  | .publishing shown transition, .counting .published =>
    [.published
      { pass := decoded.pass
        decoded := decoded.frame
        shown := shown
        held := transition.map (·.held)
        overlapped := overlapped }]
  | _, _ => []

/-- A loop begins while the callback may be between its two sections. -/
def Callback.overlap : Callback → Callback
  | .publishing decoded requests _ (.blending frame transition) =>
    .publishing decoded requests true (.blending frame transition)
  | .publishing decoded requests _ (.publishing frame transition) =>
    .publishing decoded requests true (.publishing frame transition)
  | callback => callback

def reaching (settings : Settings) (decoded : Decoded) : List Event :=
  match decoded.frame.pts with
  | none => []
  | some pts => if pts < settings.loopAt then [] else [.reached decoded.pass]

def Player.next (settings : Settings) (player : Player) : PlayerLabel → Option Player
  | .decode frame =>
    match player.callback with
    | .idle =>
      if !player.shared.failed && player.follows settings frame then
        some { player with
          callback := .deciding { pass := player.pass, frame }
          lastPts := frame.pts.or player.lastPts }
      else none
    | _ => none
  | .decide =>
    match player.callback with
    | .deciding decoded =>
      let (action, requested) := loopFrameAction settings player.loopRequested decoded.frame
      some { player with
        loopRequested := requested
        callback := match action with
          | .publish => .publishing decoded false false (.publishFrame decoded.frame)
          | .request => .publishing decoded true false (.publishFrame decoded.frame)
          | .drop => .idle
        history := player.history ++ reaching settings decoded }
    | _ => none
  | .publish now =>
    match player.callback with
    | .publishing decoded requests overlapped operation =>
      match step operation player.shared now with
      | some (following, shared) =>
        some { player with
          shared
          callback := .publishing decoded requests overlapped following
          history := player.history ++ publications decoded overlapped operation following }
      | none =>
        -- `publish_frame` has returned.
        some { player with
          callback :=
            if requests && operation == .finished .published then .requesting decoded else .idle }
    | _ => none
  | .post delivered =>
    match player.callback with
    | .requesting decoded =>
      some { player with
        callback := .idle
        messages := if delivered then player.messages + 1 else player.messages
        history := player.history ++ [.requested decoded.pass] }
    | _ => none
  | .pop =>
    if player.monitor = .waiting ∧ 0 < player.messages then
      some { player with monitor := .beginning, messages := player.messages - 1 }
    else none
  | .beginLoop now =>
    if player.monitor = .beginning ∨ settings.loops = .anytime then
      (step (.beginLoopAt settings.crossfade now) player.shared now).map fun result =>
        { player with
          shared := result.2
          callback := player.callback.overlap
          monitor := if player.monitor = .beginning then .seeking else player.monitor
          history := player.history ++ [.began] }
    else none
  | .seek =>
    if player.monitor = .seeking ∨ settings.loops = .anytime then
      some { player with
        monitor := if player.monitor = .seeking then .waiting else player.monitor
        pass := player.pass + 1
        lastPts := none }
    else none

def playing (settings : Settings) : TransitionSystem Player PlayerLabel :=
  .ofPartial (fun player => player = {}) (Player.next settings)

/-! ## What a step can do -/

/-- The places of the callback in `publish_frame` while the playback has not failed. -/
def InPublish : Operation → Prop
  | .publishFrame _ | .blending _ _ | .publishing _ _ | .counting .published | .sending _ .published
  | .finished .published => True
  | _ => False

def InNotify : Operation → Prop
  | .counting .published | .sending _ .published | .finished .published => True
  | _ => False

theorem InNotify.inPublish {operation : Operation} (notifies : InNotify operation) :
    InPublish operation := by
  cases operation with
  | counting outcome | sending _ outcome | finished outcome => cases outcome <;> exact notifies
  | _ => exact notifies.elim

structure Player.Sound (player : Player) : Prop where
  unfailed : player.shared.failed = false
  publishing : ∀ decoded requests overlapped operation,
    player.callback = .publishing decoded requests overlapped operation → InPublish operation

/-- The steps of the two threads while the playback has not failed. -/
inductive Player.Moves (settings : Settings) (player : Player) : Player → Prop
  | pulls (frame : Frame) (isCallback : player.callback = .idle)
      (follows : player.follows settings frame = true) :
      Moves settings player
        { player with
          callback := .deciding { pass := player.pass, frame }
          lastPts := frame.pts.or player.lastPts }
  | shows (decoded : Decoded) (isCallback : player.callback = .deciding decoded)
      (unrequested : decoded.frame.pts = none → player.loopRequested = false)
      (early : ∀ pts, decoded.frame.pts = some pts → pts < settings.loopAt) :
      Moves settings player
        { player with
          loopRequested := false
          callback := .publishing decoded false false (.publishFrame decoded.frame) }
  | reaches (decoded : Decoded) (pts : Nat) (isCallback : player.callback = .deciding decoded)
      (isPts : decoded.frame.pts = some pts) (late : settings.loopAt ≤ pts)
      (first : player.loopRequested = false) :
      Moves settings player
        { player with
          loopRequested := true
          callback := .publishing decoded true false (.publishFrame decoded.frame)
          history := player.history ++ [.reached decoded.pass] }
  | drops (decoded : Decoded) (isCallback : player.callback = .deciding decoded)
      (again : player.loopRequested = true)
      (late : ∀ pts, decoded.frame.pts = some pts → settings.loopAt ≤ pts) :
      Moves settings player
        { player with callback := .idle, history := player.history ++ reaching settings decoded }
  | opens (decoded : Decoded) (requests overlapped : Bool) (frame : Frame)
      (isCallback : player.callback = .publishing decoded requests overlapped (.publishFrame frame)) :
      Moves settings player
        { player with
          shared := { player.shared with state := { player.shared.state with transition := none } }
          callback := .publishing decoded requests overlapped
            (.blending frame player.shared.state.transition) }
  | blends (decoded : Decoded) (requests overlapped : Bool) (frame : Frame)
      (transition : Option LoopTransition) (now : Nat)
      (isCallback : player.callback = .publishing decoded requests overlapped (.blending frame transition)) :
      Moves settings player
        { player with
          callback := .publishing decoded requests overlapped
            (.publishing (blended frame transition now).1 (blended frame transition now).2) }
  | publishes (decoded : Decoded) (requests overlapped : Bool) (shown : Frame)
      (transition : Option LoopTransition) (now : Nat)
      (isCallback : player.callback = .publishing decoded requests overlapped
        (.publishing shown transition)) :
      Moves settings player
        { player with
          shared := { player.shared with
            state :=
              { pending := some (.frame shown)
                lastFrame := some shown
                transition := player.shared.state.transition.or transition
                lastFrameAt := some now
                awaitingOpeningSince := none } }
          callback := .publishing decoded requests overlapped (.counting .published)
          history := player.history ++ [.published
            { pass := decoded.pass
              decoded := decoded.frame
              shown := shown
              held := transition.map (·.held)
              overlapped := overlapped }] }
  | notifies (decoded : Decoded) (requests overlapped : Bool) (operation following : Operation)
      (shared : Shared)
      (isCallback : player.callback = .publishing decoded requests overlapped operation)
      (before : InNotify operation) (after : InNotify following)
      (sameState : shared.state = player.shared.state) (sameFailed : shared.failed = player.shared.failed) :
      Moves settings player
        { player with shared, callback := .publishing decoded requests overlapped following }
  | returns (decoded : Decoded) (requests overlapped : Bool)
      (isCallback : player.callback = .publishing decoded requests overlapped (.finished .published)) :
      Moves settings player
        { player with callback := if requests then .requesting decoded else .idle }
  | posts (decoded : Decoded) (delivered : Bool) (isCallback : player.callback = .requesting decoded) :
      Moves settings player
        { player with
          callback := .idle
          messages := if delivered then player.messages + 1 else player.messages
          history := player.history ++ [.requested decoded.pass] }
  | pops (waits : player.monitor = .waiting) (some : 0 < player.messages) :
      Moves settings player { player with monitor := .beginning, messages := player.messages - 1 }
  | begins (now : Nat) (allowed : player.monitor = .beginning ∨ settings.loops = .anytime) :
      Moves settings player
        { player with
          shared := { player.shared with
            state := { player.shared.state with
              transition := player.shared.state.lastFrame.map fun held =>
                { held, startedAt := now, duration := settings.crossfade }
              awaitingOpeningSince := some now } }
          callback := player.callback.overlap
          monitor := if player.monitor = .beginning then .seeking else player.monitor
          history := player.history ++ [.began] }
  | seeks (allowed : player.monitor = .seeking ∨ settings.loops = .anytime) :
      Moves settings player
        { player with
          monitor := if player.monitor = .seeking then .waiting else player.monitor
          pass := player.pass + 1
          lastPts := none }

/-- What the source decides: publish before the loop point, request at the first frame past it, drop the
later ones.  A frame without a time goes by the flag alone. -/
theorem loopFrameAction_cases (settings : Settings) (loopRequested : Bool) (frame : Frame) :
    (loopFrameAction settings loopRequested frame = (.publish, false) ∧
      (frame.pts = none → loopRequested = false) ∧
      ∀ pts, frame.pts = some pts → pts < settings.loopAt) ∨
    (loopFrameAction settings loopRequested frame = (.request, true) ∧ loopRequested = false ∧
      ∃ pts, frame.pts = some pts ∧ settings.loopAt ≤ pts) ∨
    (loopFrameAction settings loopRequested frame = (.drop, true) ∧ loopRequested = true ∧
      ∀ pts, frame.pts = some pts → settings.loopAt ≤ pts) := by
  cases isPts : frame.pts with
  | none => cases loopRequested <;> simp [loopFrameAction, isPts]
  | some pts =>
    by_cases early : pts < settings.loopAt
    · simp [loopFrameAction, isPts, early]
    · have late : settings.loopAt ≤ pts := Nat.le_of_not_lt early
      cases loopRequested <;> simp [loopFrameAction, isPts, late]

theorem reaching_cases (settings : Settings) (decoded : Decoded) :
    reaching settings decoded = [] ∨ reaching settings decoded = [.reached decoded.pass] := by
  cases isPts : decoded.frame.pts with
  | none => simp only [reaching, isPts, true_or]
  | some pts =>
    simp only [reaching, isPts]
    split
    next => exact .inl rfl
    next => exact .inr rfl

theorem reaching_early {settings : Settings} {decoded : Decoded}
    (early : ∀ pts, decoded.frame.pts = some pts → pts < settings.loopAt) :
    reaching settings decoded = [] := by
  cases isPts : decoded.frame.pts with
  | none => simp only [reaching, isPts]
  | some pts => simp only [reaching, isPts, if_pos (early pts isPts)]

theorem reaching_late {settings : Settings} {decoded : Decoded} {pts : Nat}
    (isPts : decoded.frame.pts = some pts) (late : settings.loopAt ≤ pts) :
    reaching settings decoded = [.reached decoded.pass] := by
  simp only [reaching, isPts, if_neg (Nat.not_lt.mpr late)]

theorem Player.decide_moves {settings : Settings} {player next : Player} {decoded : Decoded}
    (isCallback : player.callback = .deciding decoded)
    (steps : player.next settings .decide = some next) : player.Moves settings next := by
  simp only [Player.next, isCallback, Option.some.injEq] at steps
  obtain ⟨action, unrequested, early⟩ | ⟨action, first, pts, isPts, late⟩ | ⟨action, again, late⟩ :=
    loopFrameAction_cases settings player.loopRequested decoded.frame
  · simp only [action, reaching_early early, List.append_nil] at steps
    subst steps
    exact .shows decoded isCallback unrequested early
  · simp only [action, reaching_late isPts late] at steps
    subst steps
    exact .reaches decoded pts isCallback isPts late first
  · -- The flag stays as it was, so the new record writes it back.
    simp only [action, ← again] at steps
    subst steps
    exact .drops decoded isCallback again late

theorem Player.Sound.publish_moves {settings : Settings} {player next : Player} {decoded : Decoded}
    {requests overlapped : Bool} {operation : Operation} {now : Nat} (sound : player.Sound)
    (isCallback : player.callback = .publishing decoded requests overlapped operation)
    (steps : player.next settings (.publish now) = some next) : player.Moves settings next := by
  have inPublish := sound.publishing _ _ _ _ isCallback
  have going : ¬ player.shared.failed = true := by simp [sound.unfailed]
  simp only [Player.next, isCallback] at steps
  cases operation with
  | publishFrame frame =>
    simp only [step, if_neg going, publications, List.append_nil, Option.some.injEq] at steps
    subst steps
    exact .opens decoded requests overlapped frame isCallback
  | blending frame transition =>
    simp only [step, publications, List.append_nil, Option.some.injEq] at steps
    subst steps
    exact .blends decoded requests overlapped frame transition now isCallback
  | publishing shown transition =>
    simp only [step, if_neg going, publications, Option.some.injEq] at steps
    subst steps
    exact .publishes decoded requests overlapped shown transition now isCallback
  | counting outcome =>
    cases outcome with
    | published =>
      simp only [step, publications, List.append_nil, Option.some.injEq] at steps
      subst steps
      exact .notifies decoded requests overlapped _ _ _ isCallback trivial trivial rfl rfl
    | _ => exact inPublish.elim
  | sending sequence outcome =>
    cases outcome with
    | published =>
      simp only [step, publications, List.append_nil, Option.some.injEq] at steps
      subst steps
      exact .notifies decoded requests overlapped _ _ _ isCallback trivial trivial rfl rfl
    | _ => exact inPublish.elim
  | finished outcome =>
    cases outcome with
    | published =>
      simp only [step, beq_self_eq_true, Bool.and_true, Option.some.injEq] at steps
      subst steps
      exact .returns decoded requests overlapped isCallback
    | _ => exact inPublish.elim
  | _ => exact inPublish.elim

theorem Player.Sound.moves {settings : Settings} {player next : Player} {label : PlayerLabel}
    (sound : player.Sound) (steps : player.next settings label = some next) :
    player.Moves settings next := by
  cases label with
  | decode frame =>
    simp only [Player.next] at steps
    split at steps
    next isCallback =>
      simp only [sound.unfailed, Bool.not_false, Bool.true_and, Option.ite_none_right_eq_some,
        Option.some.injEq] at steps
      obtain ⟨follows, rfl⟩ := steps
      exact .pulls frame isCallback follows
    next => contradiction
  | decide =>
    cases isCallback : player.callback with
    | deciding decoded => exact player.decide_moves isCallback steps
    | _ => simp [Player.next, isCallback] at steps
  | publish now =>
    cases isCallback : player.callback with
    | publishing decoded requests overlapped operation => exact sound.publish_moves isCallback steps
    | _ => simp [Player.next, isCallback] at steps
  | post delivered =>
    simp only [Player.next] at steps
    split at steps
    next decoded isCallback =>
      cases steps
      exact .posts decoded delivered isCallback
    next => contradiction
  | pop =>
    simp only [Player.next, Option.ite_none_right_eq_some, Option.some.injEq] at steps
    obtain ⟨⟨waits, some⟩, rfl⟩ := steps
    exact .pops waits some
  | beginLoop now =>
    simp only [Player.next, step, Option.map_some, Option.ite_none_right_eq_some, Option.some.injEq] at steps
    obtain ⟨allowed, rfl⟩ := steps
    exact .begins now allowed
  | seek =>
    simp only [Player.next, Option.ite_none_right_eq_some, Option.some.injEq] at steps
    obtain ⟨allowed, rfl⟩ := steps
    exact .seeks allowed

theorem Callback.overlap_eq_publishing {callback : Callback} {decoded : Decoded} {requests overlapped : Bool}
    {operation : Operation} (isNext : callback.overlap = .publishing decoded requests overlapped operation) :
    ∃ before, callback = .publishing decoded requests before operation := by
  simp only [Callback.overlap] at isNext
  split at isNext
  next => cases isNext; exact ⟨_, rfl⟩
  next => cases isNext; exact ⟨_, rfl⟩
  next => exact ⟨_, isNext⟩

theorem Player.Moves.sound {settings : Settings} {player next : Player} (moves : player.Moves settings next)
    (sound : player.Sound) : next.Sound := by
  obtain ⟨unfailed, publishing⟩ := sound
  cases moves with
  | pulls | drops | posts => exact ⟨unfailed, fun _ _ _ _ isCallback => by simp at isCallback⟩
  | shows | reaches | opens | blends | publishes =>
    refine ⟨unfailed, ?_⟩
    rintro _ _ _ _ ⟨⟩
    trivial
  | notifies decoded requests overlapped operation following shared isCallback before after sameState
      sameFailed =>
    refine ⟨sameFailed.trans unfailed, ?_⟩
    rintro _ _ _ _ ⟨⟩
    exact after.inPublish
  | returns decoded requests =>
    refine ⟨unfailed, ?_⟩
    cases requests <;> exact fun _ _ _ _ isCallback => by simp at isCallback
  | pops | seeks => exact ⟨unfailed, publishing⟩
  | begins =>
    refine ⟨unfailed, ?_⟩
    intro decoded requests overlapped operation isCallback
    obtain ⟨_, isBefore⟩ := Callback.overlap_eq_publishing isCallback
    exact publishing _ _ _ _ isBefore

end Movie

end Genkan.Wallpaper
