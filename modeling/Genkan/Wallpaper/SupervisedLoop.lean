import Genkan.Wallpaper.Supervision

/-! # The loop playback under supervision

The loop playback says which frames the callback publishes and takes the monitor for granted; the supervision
says what the monitor does and lets the callback publish anything.  Here the two meet: the loop playback is the
first attempt of a supervised player, as long as that attempt neither fails nor is stopped.
-/

namespace Genkan.Wallpaper

open Foundations

namespace Movie

/-! ## Two views of one player -/

/-- The part of the callback that is in `publish_frame`. -/
def Callback.operation : Callback → Option Operation
  | .publishing _ _ _ operation => some operation
  | _ => none

/-- Where the monitor is in its loop. -/
def Monitor.watch : Monitor → Watch
  | .waiting => .pop
  | .beginning => .beginLoop
  | .seeking => .seek

def Event.isPublication : Event → Bool
  | .published _ => true
  | _ => false

/-- The first attempt of a supervised player, at the same point. -/
def Player.supervised (player : Player) : Supervised where
  shared := player.shared
  callback := player.callback.operation
  place := .watching 0 player.monitor.watch
  attempts := [.automatic]
  shown := .replicate (player.history.countP Event.isPublication) .automatic

theorem Callback.operation_overlap (callback : Callback) : callback.overlap.operation = callback.operation := by
  rw [Callback.overlap.eq_def]
  split <;> rfl

theorem countP_reaching (settings : Settings) (decoded : Decoded) :
    (reaching settings decoded).countP Event.isPublication = 0 := by
  rw [reaching]
  split
  next => rfl
  next => split <;> rfl

/-- The step that publishes is the one that goes on to count. -/
theorem countP_publications (decoded : Decoded) (overlapped : Bool) {operation following : Operation}
    {shared shared' : Shared} {now : Nat} (steps : step operation shared now = some (following, shared')) :
    (publications decoded overlapped operation following).countP Event.isPublication =
      if following = .counting .published then 1 else 0 := by
  cases operation with
  | publishFrame | publishing | failOnce =>
    simp only [step] at steps
    split at steps <;> cases steps <;> rfl
  | finished => cases steps
  | _ =>
    cases steps
    rfl

/-! ## The first attempt -/

variable {settings : Settings} {player next : Player}

/-- The labels of the thread until it first waits for a message. -/
def launching : List SupervisedLabel :=
  [.work .check, .work (.build true true), .work (.launch true 0), .work .check, .work .check, .work .check,
    .work (.stall 0)]

/-- The labels of the thread from a seek until it waits again; no time has passed for it. -/
def resuming : List SupervisedLabel :=
  [.work (.seek true), .work .check, .work .check, .work .check, .work (.stall 0)]

theorem playbackStall_zero (state : SharedState) (mode : DecoderMode) :
    playbackStall state 0 mode.startupTimeout 0 = none := by
  rw [playbackStall]
  cases mode <;> cases state.awaitingOpeningSince <;> cases state.lastFrameAt <;>
    simp [seekStallTimeout, frameStallTimeout, DecoderMode.startupTimeout]

/-- Every step of the loop playback is none, one or a few steps of the supervised player. -/
theorem Player.next_supervised (onRequest : settings.loops = .onRequest) (sound : player.Sound) {label : PlayerLabel}
    (steps : player.next settings label = some next) :
    ∃ labels : List SupervisedLabel,
      labels.foldlM (Supervised.next settings.crossfade) player.supervised = some next.supervised := by
  cases label with
  | decode frame =>
    simp only [Player.next] at steps
    split at steps
    next isCallback =>
      rw [Option.ite_none_right_eq_some] at steps
      obtain ⟨_, isNext⟩ := steps
      cases isNext
      exact ⟨[], by simp [Player.supervised, Callback.operation, isCallback]⟩
    next => cases steps
  | decide =>
    simp only [Player.next] at steps
    split at steps
    next decoded isCallback =>
      cases steps
      have unfailed := sound.unfailed
      cases (loopFrameAction settings player.loopRequested decoded.frame).1 with
      | drop =>
        exact ⟨[], by simp [Player.supervised, Callback.operation, isCallback, countP_reaching]⟩
      | publish | request =>
        refine ⟨[.decode decoded.frame], ?_⟩
        simp [Player.supervised, Callback.operation, isCallback, countP_reaching, Supervised.next, Supervised.live,
          unfailed]
    next => cases steps
  | publish now =>
    simp only [Player.next] at steps
    split at steps
    next decoded requests overlapped operation isCallback =>
      split at steps
      next following shared step =>
        cases steps
        refine ⟨[.publish now], ?_⟩
        have publishes := countP_publications decoded overlapped step
        by_cases counts : following = .counting .published
        · subst counts
          rw [if_pos rfl] at publishes
          simp [Player.supervised, Callback.operation, isCallback, Supervised.next, step, publishes,
            List.replicate_succ']
        · rw [if_neg counts] at publishes
          simp [Player.supervised, Callback.operation, isCallback, Supervised.next, step, publishes, counts]
      next step =>
        cases steps
        refine ⟨[.publish now], ?_⟩
        split <;> simp [Player.supervised, Callback.operation, isCallback, Supervised.next, step]
    next => cases steps
  | post delivered =>
    simp only [Player.next] at steps
    split at steps
    next decoded isCallback =>
      cases steps
      exact ⟨[], by simp [Player.supervised, Callback.operation, isCallback, Event.isPublication]⟩
    next => cases steps
  | pop =>
    simp only [Player.next, Option.ite_none_right_eq_some, Option.some.injEq] at steps
    obtain ⟨⟨waits, _⟩, rfl⟩ := steps
    refine ⟨[.work (.pop (some .loop))], ?_⟩
    simp [Player.supervised, Supervised.next, Supervised.work, Monitor.watch, waits]
  | beginLoop now =>
    simp only [Player.next, onRequest, reduceCtorEq, or_false, Option.ite_none_right_eq_some] at steps
    obtain ⟨begins, isNext⟩ := steps
    cases isNext
    refine ⟨[.work (.beginLoop now)], ?_⟩
    simp [Player.supervised, Supervised.next, Supervised.work, Monitor.watch, begins, step,
      Callback.operation_overlap, Event.isPublication]
  | seek =>
    simp only [Player.next, onRequest, reduceCtorEq, or_false, Option.ite_none_right_eq_some,
      Option.some.injEq] at steps
    obtain ⟨seeks, rfl⟩ := steps
    have unfailed := sound.unfailed
    refine ⟨resuming, ?_⟩
    simp [resuming, Player.supervised, Supervised.next, Supervised.work, Monitor.watch, seeks, unfailed,
      playbackStall_zero]

/-- Every state of the loop playback is a state of a supervised player in its first attempt: with the same shared
state, the same place of the monitor and as many frames shown by the automatic decoder as were published. -/
theorem loop_playback_supervised (settings : Settings) (onRequest : settings.loops = .onRequest) {player : Player}
    (reachable : (playing settings).Reachable player) :
    (supervision settings.crossfade).Reachable player.supervised := by
  have both : player.Sound ∧ (supervision settings.crossfade).Reachable player.supervised := by
    refine reachable.invariant
      (fun player => player.Sound ∧ (supervision settings.crossfade).Reachable player.supervised) ?_ ?_
    · rintro _ rfl
      refine ⟨(Player.Lawful.initial settings).sound, ?_⟩
      exact TransitionSystem.reachable_of_labels (.initial rfl) launching rfl
    · intro player label next both steps
      obtain ⟨sound, supervised⟩ := both
      obtain ⟨labels, attempts⟩ := player.next_supervised onRequest sound steps
      exact ⟨(sound.moves steps).sound sound, TransitionSystem.reachable_of_labels supervised labels attempts⟩
  exact both.2

theorem loop_playback_supervised_sample :
    (supervision 800).Reachable sampleLooped.supervised ∧
      sampleLooped.supervised.shown = [.automatic, .automatic, .automatic] :=
  ⟨loop_playback_supervised sampleSettings rfl
    (TransitionSystem.reachable_of_labels (.initial rfl) sampleLoop (by decide)), by decide⟩

end Movie

end Genkan.Wallpaper
