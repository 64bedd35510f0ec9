import Genkan.Wallpaper.Supervisor

/-! # The supervised playback

What holds of the supervised player in every interleaving of its thread, the thread of its pipeline, its consumer
and the request to stop.
-/

namespace Genkan.Wallpaper

open Foundations

namespace Movie

/-! ## The invariant -/

/-- The decoders that are tried first. -/
def DecoderMode.before : DecoderMode → List DecoderMode
  | .automatic => []
  | .software => [.automatic]

/-- How far the report of a failure has come. -/
inductive Reporting (shared : Shared) : Place → Prop
  | unreported {place : Place} (unfailed : shared.failed = false) (isOpen : Open shared)
      (waits : ∀ message operation, place = .failing message operation → operation = .failOnce) :
      Reporting shared place
  | claimed {message : String} (failed : shared.failed = true) (isOpen : Open shared) :
      Reporting shared (.failing message .failing)
  | latched {message : String} {operation : Operation} (failed : shared.failed = true) (latched : Latched shared)
      (past : claims operation = true ∧ isFailing operation = false) : Reporting shared (.failing message operation)
  | ended (failed : shared.failed = true) (latched : Latched shared) : Reporting shared .ended

theorem Reporting.take {shared shared' : Shared} {place : Place} {operation : Operation}
    (reporting : Reporting shared place) (steps : step .takeLatest shared 0 = some (operation, shared')) :
    Reporting shared' place := by
  have same : shared'.failed = shared.failed := by
    cases steps
    rfl
  cases reporting with
  | unreported unfailed isOpen waits => exact .unreported (same.trans unfailed) (isOpen.step rfl steps) waits
  | claimed failed isOpen => exact .claimed (same.trans failed) (isOpen.step rfl steps)
  | latched failed latched past => exact .latched (same.trans failed) (latched.step failed rfl steps) past
  | ended failed latched => exact .ended (same.trans failed) (latched.step failed rfl steps)

theorem Reporting.report {shared shared' : Shared} {message : String} {operation following : Operation} {now : Nat}
    (reporting : Reporting shared (.failing message operation))
    (steps : step operation shared now = some (following, shared')) :
    Reporting shared' (.failing message following) ∧ shared'.failed = true := by
  cases reporting with
  | unreported unfailed isOpen waits =>
    cases waits message operation rfl
    simp only [step, unfailed, Bool.false_eq_true, if_false] at steps
    cases steps
    exact ⟨.claimed rfl ⟨isOpen.1, isOpen.2⟩, rfl⟩
  | claimed failed isOpen =>
    cases steps
    exact ⟨.latched failed ⟨rfl, rfl, .inl ⟨rfl, isOpen.2⟩⟩ ⟨rfl, rfl⟩, failed⟩
  | latched failed latched past =>
    have still := latched.step failed past.2 steps
    cases operation with
    | counting outcome | sending sequence outcome =>
      cases outcome <;> cases past.1
      cases steps
      exact ⟨.latched failed still ⟨rfl, rfl⟩, failed⟩
    | finished outcome => cases steps
    | failing => cases past.2
    | _ => cases past.1

theorem Reporting.finished {shared : Shared} {message : String} {operation : Operation} {now : Nat}
    (reporting : Reporting shared (.failing message operation)) (steps : step operation shared now = none) :
    shared.failed = true ∧ Latched shared := by
  cases reporting with
  | unreported unfailed isOpen waits =>
    cases waits message operation rfl
    simp [step, unfailed] at steps
  | claimed failed isOpen => cases steps
  | latched failed latched past => exact ⟨failed, latched⟩

structure Supervised.Sound (player : Supervised) : Prop where
  publishing : ∀ operation, player.callback = some operation → player.live = true ∧ InPublish operation
  reporting : Reporting player.shared player.place
  frames : player.shared.failed = false → (player.shown ≠ [] ↔ player.shared.state.lastFrame ≠ none)
  decoders : ∀ mode ∈ player.shown, mode = player.mode
  tried : player.attempts = player.mode.before ∧ (player.place = .attempting ∨ player.place = .ended) ∨
    player.attempts = player.mode.before ++ [player.mode] ∧ player.place ≠ .attempting
  exhausted : (∃ message operation, player.place = .failing message operation) ∨ player.shared.failed = true →
    player.attempts = player.mode.before ++ [player.mode] ∧ (player.mode = .software ∨ player.shown ≠ [])
  stopped : player.place = .retiring .stopped ∨ player.place = .returned .stopped → player.stopping = true
  ended : player.place = .ended → player.stopping = true ∨ player.shared.failed = true

namespace Supervised

variable {player : Supervised}

/-- Before the report, and while there is more to do. -/
def Working (place : Place) : Prop :=
  place ≠ .ended ∧ ∀ message operation, place ≠ .failing message operation

theorem working_of_live (live : player.live = true) : Working player.place := by
  constructor
  · intro isPlace
    rw [Supervised.live, isPlace] at live
    cases live
  · intro message operation isPlace
    rw [Supervised.live, isPlace] at live
    cases live

theorem Sound.unfailed (sound : player.Sound) (working : Working player.place) :
    player.shared.failed = false ∧ Open player.shared := by
  have reporting := sound.reporting
  generalize player.place = place at reporting working
  cases reporting with
  | unreported unfailed isOpen waits => exact ⟨unfailed, isOpen⟩
  | claimed failed isOpen => exact absurd rfl (working.2 _ _)
  | latched failed latched past => exact absurd rfl (working.2 _ _)
  | ended failed latched => exact absurd rfl working.1

theorem Sound.alone (sound : player.Sound) (dead : player.live = false) : player.callback = none := by
  cases isCallback : player.callback with
  | none => rfl
  | some operation =>
    have live := (sound.publishing operation isCallback).1
    rw [dead] at live
    cases live

theorem unexhausted {shared : Shared} {place : Place} {result : Prop} (unfailed : shared.failed = false)
    (unreported : ∀ message operation, place ≠ .failing message operation) :
    (∃ message operation, place = .failing message operation) ∨ shared.failed = true → result := by
  rintro (⟨message, operation, isPlace⟩ | failed)
  · exact absurd isPlace (unreported message operation)
  · cases unfailed.symm.trans failed

/-- A step within an attempt. -/
theorem Sound.moved (sound : player.Sound) {place : Place} (faulted : Bool) (working : Working player.place)
    (inside : player.place ≠ .attempting)
    (pipeline : player.callback = none ∨ ({ player with place } : Supervised).live = true)
    (later : place ≠ .attempting) (unreported : ∀ message operation, place ≠ .failing message operation)
    (stopping : place = .retiring .stopped ∨ place = .returned .stopped ∨ place = .ended → player.stopping = true) :
    ({ player with place, faulted } : Supervised).Sound := by
  obtain ⟨unfailed, isOpen⟩ := sound.unfailed working
  refine
    { sound with
      publishing := ?_
      reporting := .unreported unfailed isOpen fun message operation isPlace =>
        absurd isPlace (unreported message operation)
      tried := .inr ⟨(sound.tried.resolve_left fun first => first.2.elim inside working.1).1, later⟩
      exhausted := unexhausted unfailed unreported
      stopped := fun isPlace => stopping (isPlace.imp_right .inl)
      ended := fun isPlace => .inl (stopping (.inr (.inr isPlace))) }
  intro operation isCallback
  refine ⟨pipeline.resolve_left ?_, (sound.publishing operation isCallback).2⟩
  intro alone
  cases alone.symm.trans isCallback

theorem Sound.works {next : Supervised} (sound : player.Sound) (works : player.Works next) : next.Sound := by
  have working {place : Place} (isPlace : player.place = place) (unended : place ≠ .ended)
      (unreported : ∀ message operation, place ≠ .failing message operation) : Working player.place :=
    isPlace ▸ ⟨unended, unreported⟩
  have alone {place : Place} (isPlace : player.place = place)
      (dead : ({ player with place } : Supervised).live = false) : player.callback = none := by
    rw [← isPlace] at dead
    exact sound.alone dead
  have idle {place : Place} {property : Operation → Prop} (isPlace : player.place = place)
      (dead : ({ player with place } : Supervised).live = false) :
      ∀ operation, player.callback = some operation → property operation := by
    intro operation isCallback
    cases (alone isPlace dead).symm.trans isCallback
  have inside (live : player.live = true) : player.place ≠ .attempting := by
    intro isPlace
    rw [Supervised.live, isPlace] at live
    cases live
  have tried {place : Place} (isPlace : player.place = place) (later : place ≠ .attempting) (unended : place ≠ .ended) :
      player.attempts = player.mode.before ++ [player.mode] :=
    (sound.tried.resolve_left fun first => first.2.elim (isPlace ▸ later) (isPlace ▸ unended)).1
  cases works with
  | ends stopping place =>
    cases place with
    | inl isPlace =>
      obtain ⟨unfailed, isOpen⟩ := sound.unfailed (working isPlace (by simp) (by simp))
      have first := sound.tried.resolve_right fun later => later.2 isPlace
      exact
        { sound with
          publishing := idle isPlace rfl
          reporting := .unreported unfailed isOpen (by simp)
          tried := .inl ⟨first.1, .inr rfl⟩
          exhausted := unexhausted unfailed (by simp)
          stopped := by simp
          ended := fun _ => .inl stopping }
    | inr returned =>
      obtain ⟨outcome, isPlace⟩ := returned
      exact sound.moved player.faulted (working isPlace (by simp) (by simp)) (by simp [isPlace])
        (.inl (alone isPlace rfl)) (by simp) (by simp) fun _ => stopping
  | attempts isPlace =>
    obtain ⟨unfailed, isOpen⟩ := sound.unfailed (working isPlace (by simp) (by simp))
    have first := sound.tried.resolve_right fun later => later.2 isPlace
    exact
      { sound with
        publishing := idle isPlace rfl
        reporting := .unreported unfailed isOpen (by simp)
        tried := .inr ⟨congrArg (· ++ [player.mode]) first.1, by simp⟩
        exhausted := unexhausted unfailed (by simp)
        stopped := by simp
        ended := by simp }
  | refuses message isPlace =>
    exact sound.moved player.faulted (working isPlace (by simp) (by simp)) (by simp [isPlace])
      (.inl (alone isPlace rfl)) (by simp) (by simp) (by simp)
  | builds isPlace =>
    exact sound.moved false (working isPlace (by simp) (by simp)) (by simp [isPlace])
      (.inl (alone isPlace rfl)) (by simp) (by simp) (by simp)
  | watches startedAt watch live =>
    exact sound.moved player.faulted (working_of_live live) (inside live) (.inr rfl) (by simp) (by simp) (by simp)
  | fails message live =>
    exact sound.moved player.faulted (working_of_live live) (inside live) (.inr rfl) (by simp) (by simp) (by simp)
  | stops live because =>
    have unfailed := (sound.unfailed (working_of_live live)).1
    have stopping : player.stopping = true := because.resolve_right (by simp [unfailed])
    exact sound.moved player.faulted (working_of_live live) (inside live) (.inr rfl) (by simp) (by simp)
      fun _ => stopping
  | loops crossfade startedAt now operation shared isPlace steps =>
    obtain ⟨unfailed, isOpen⟩ := sound.unfailed (working isPlace (by simp) (by simp))
    have stillOpen := isOpen.step rfl steps
    cases steps
    exact
      { sound with
        publishing := fun operation isCallback => ⟨rfl, (sound.publishing operation isCallback).2⟩
        reporting := .unreported unfailed stillOpen (by simp)
        tried := .inr ⟨tried isPlace (by simp) (by simp), by simp⟩
        exhausted := unexhausted unfailed (by simp)
        stopped := by simp
        ended := by simp }
  | retires outcome isPlace isAlone =>
    refine sound.moved player.faulted (working isPlace (by simp) (by simp)) (by simp [isPlace]) (.inl isAlone)
      (by simp) (by simp) ?_
    rintro (retiring | returned | ended)
    · cases retiring
    · cases returned
      exact sound.stopped (.inl isPlace)
    · cases ended
  | quits isPlace =>
    exact sound.moved player.faulted (working isPlace (by simp) (by simp)) (by simp [isPlace])
      (.inl (alone isPlace rfl)) (by simp) (by simp) fun _ => sound.stopped (.inr isPlace)
  | considers message isPlace =>
    exact sound.moved player.faulted (working isPlace (by simp) (by simp)) (by simp [isPlace])
      (.inl (alone isPlace rfl)) (by simp) (by simp) (by simp)
  | retries message isPlace automatic nothing =>
    -- No frame is retained, so none was shown, and the software decoder starts afresh.
    obtain ⟨unfailed, isOpen⟩ := sound.unfailed (working isPlace (by simp) (by simp))
    have unshown : player.shown = [] := by
      by_contra shown
      exact (sound.frames unfailed).mp shown nothing
    have isTried := tried isPlace (by simp) (by simp)
    rw [automatic] at isTried
    refine
      { sound with
        publishing := idle isPlace rfl
        reporting := .unreported unfailed isOpen (by simp)
        decoders := ?_
        tried := .inl ⟨isTried, .inl rfl⟩
        exhausted := unexhausted unfailed (by simp)
        stopped := by simp
        ended := by simp }
    intro mode member
    rw [unshown] at member
    cases member
  | reports message isPlace more =>
    obtain ⟨unfailed, isOpen⟩ := sound.unfailed (working isPlace (by simp) (by simp))
    have isTried := tried isPlace (by simp) (by simp)
    exact
      { sound with
        publishing := idle isPlace rfl
        reporting := .unreported unfailed isOpen (by simp)
        tried := .inr ⟨isTried, by simp⟩
        exhausted := fun _ => ⟨isTried, more.imp_right (sound.frames unfailed).mpr⟩
        stopped := by simp
        ended := by simp }
  | reporting message operation following shared now isPlace steps =>
    have before := sound.reporting
    rw [isPlace] at before
    obtain ⟨after, failed⟩ := before.report steps
    exact
      { sound with
        publishing := idle isPlace rfl
        reporting := after
        frames := fun unfailed => by cases failed.symm.trans unfailed
        tried := .inr ⟨tried isPlace (by simp) (by simp), by simp⟩
        exhausted := fun _ => sound.exhausted (.inl ⟨_, _, isPlace⟩)
        stopped := by simp
        ended := by simp }
  | reported message operation now isPlace steps =>
    have before := sound.reporting
    rw [isPlace] at before
    obtain ⟨failed, latched⟩ := before.finished steps
    exact
      { sound with
        publishing := idle isPlace rfl
        reporting := .ended failed latched
        tried := .inr ⟨tried isPlace (by simp) (by simp), by simp⟩
        exhausted := fun _ => sound.exhausted (.inl ⟨_, _, isPlace⟩)
        stopped := by simp
        ended := fun _ => .inr failed }

theorem Sound.next {crossfade : Nat} {next : Supervised} {label : SupervisedLabel} (sound : player.Sound)
    (steps : player.next crossfade label = some next) : next.Sound := by
  cases label with
  | stop =>
    cases steps
    exact { sound with stopped := fun _ => rfl, ended := fun _ => .inl rfl }
  | take =>
    simp only [Supervised.next, Option.map_eq_some_iff] at steps
    obtain ⟨⟨operation, shared⟩, takes, rfl⟩ := steps
    have reporting := sound.reporting.take takes
    cases takes
    exact { sound with reporting }
  | decode frame =>
    simp only [Supervised.next, Bool.and_eq_true, Option.ite_none_right_eq_some, Option.some.injEq] at steps
    obtain ⟨⟨⟨live, _⟩, _⟩, rfl⟩ := steps
    refine { sound with publishing := ?_ }
    rintro _ ⟨⟩
    exact ⟨live, trivial⟩
  | publish now =>
    simp only [Supervised.next] at steps
    split at steps
    next => cases steps
    next operation isCallback =>
      obtain ⟨live, publishing⟩ := sound.publishing operation isCallback
      obtain ⟨unfailed, isOpen⟩ := sound.unfailed (working_of_live live)
      split at steps
      next following shared step =>
        cases steps
        obtain ⟨still, unfailed', published⟩ := step_publish publishing unfailed step
        have other : isFailing operation = false := by cases operation <;> first | rfl | exact publishing.elim
        have isReporting : Reporting shared player.place :=
          .unreported unfailed' (isOpen.step other step) fun message operation isPlace =>
            absurd isPlace ((working_of_live live).2 message operation)
        refine ⟨?_, isReporting, fun _ => ?_, ?_, sound.tried, ?_, sound.stopped, ?_⟩
        · rintro _ ⟨⟩
          exact ⟨live, still⟩
        · obtain ⟨publishes, holds⟩ | ⟨waits, same⟩ := published
          · simp [publishes, holds]
          · rw [if_neg waits, same]
            exact sound.frames unfailed
        · intro mode member
          dsimp only at member
          split at member
          next =>
            cases List.mem_append.mp member with
            | inl earlier => exact sound.decoders mode earlier
            | inr latest => exact List.mem_singleton.mp latest
          next => exact sound.decoders mode member
        · exact unexhausted unfailed' (working_of_live live).2
        · exact fun isPlace => absurd isPlace (working_of_live live).1
      next =>
        cases steps
        exact { sound with publishing := by simp }
  | fault =>
    simp only [Supervised.next, Option.ite_none_right_eq_some, Option.some.injEq] at steps
    obtain ⟨_, rfl⟩ := steps
    exact { sound with }
  | work act => exact sound.works (work_works steps)

theorem sound_of_reachable {crossfade : Nat} (reachable : (supervision crossfade).Reachable player) : player.Sound := by
  refine reachable.invariant Supervised.Sound ?_ ?_
  · rintro _ rfl
    exact ⟨by simp, .unreported rfl ⟨by simp, by simp⟩ (by simp), by simp, by simp, .inl ⟨rfl, .inl rfl⟩, by simp,
      by simp, by simp⟩
  · exact fun player label next sound steps => sound.next steps

end Supervised

/-! ## Both decoders -/

/-- In every interleaving of the player's thread, the thread of its pipeline, the consumer and the request to
stop: each decoder is tried at most once, the software decoder second and only if nothing was shown; a failure is
reported only after both were tried or a frame was shown; a thread that has ended was told to stop or has left the
failure as the last update, and no frame follows; and once it is told to stop it takes at most nine more steps, for
which it waits only until the pipeline's thread has ended. -/
theorem playback_supervised (crossfade : Nat) {player : Supervised}
    (reachable : (supervision crossfade).Reachable player) :
    player.attempts <+: [.automatic, .software] ∧
      (.software ∈ player.attempts → .automatic ∉ player.shown) ∧
      (player.shared.failed = true → player.attempts = [.automatic, .software] ∨ .automatic ∈ player.shown) ∧
      (player.place = .ended → player.callback = none ∧ (player.stopping = true ∨ Latched player.shared)) ∧
      (player.stopping = true → ∀ (labels : List SupervisedLabel) (after : Supervised),
        labels.foldlM (Supervised.next crossfade) player = some after → labels.countP SupervisedLabel.isWork ≤ 9) ∧
      (player.place = .ended ∨ (∃ outcome, player.place = .retiring outcome ∧ player.callback ≠ none) ∨
        ∃ act next, player.work crossfade act = some next) := by
  have sound := Supervised.sound_of_reachable reachable
  have tried : player.attempts = player.mode.before ∨ player.attempts = player.mode.before ++ [player.mode] :=
    sound.tried.imp And.left And.left
  refine ⟨?_, ?_, ?_, ?_, ?_, player.work_enabled crossfade⟩
  · cases isMode : player.mode <;> rw [isMode] at tried <;> obtain isTried | isTried := tried <;> rw [isTried] <;>
      decide
  · intro software automatic
    rw [← sound.decoders _ automatic] at tried
    obtain isTried | isTried := tried <;> rw [isTried] at software <;> simp [DecoderMode.before] at software
  · intro failed
    obtain ⟨isTried, more⟩ := sound.exhausted (.inr failed)
    cases isMode : player.mode with
    | software =>
      rw [isMode] at isTried
      exact .inl isTried
    | automatic =>
      obtain ⟨mode, member⟩ := List.exists_mem_of_ne_nil _ (more.resolve_left (by simp [isMode]))
      rw [sound.decoders mode member, isMode] at member
      exact .inr member
  · intro isPlace
    have dead : player.live = false := by rw [Supervised.live, isPlace]
    refine ⟨sound.alone dead, (sound.ended isPlace).imp_right fun failed => ?_⟩
    have reporting := sound.reporting
    rw [isPlace] at reporting
    cases reporting with
    | unreported unfailed isOpen waits => cases unfailed.symm.trans failed
    | ended failed latched => exact latched
  · intro stopping labels after runs
    have bounded := Supervised.works_after_stop labels stopping runs
    have left := player.left_le
    omega

/-- The automatic decoder shows nothing in time, and the software decoder fails after a frame. -/
def sampleSupervision : List SupervisedLabel :=
  [.work .check, .work (.build true true), .work (.launch true 0), .work .check, .work .check, .work .check,
    .work (.stall (10 * 10 ^ 9)), .work .retire, .work .check, .work .check, .work .check, .work (.build true true),
    .work (.launch true 0), .decode (paintedFrame 0 10), .publish 1, .publish 2, .publish 3, .publish 4, .publish 5,
    .publish 6, .work .check, .work .check, .work .check, .work (.stall 7), .work (.pop (some .error)), .work .retire,
    .work .check, .work .check, .work (.fail 8), .work (.fail 8), .work (.fail 8), .work (.fail 8), .work (.fail 8)]

def sampleSupervised : Supervised := (sampleSupervision.foldlM (Supervised.next 800) {}).getD {}

theorem playback_supervised_sample :
    .automatic ∉ sampleSupervised.shown ∧ Latched sampleSupervised.shared := by
  have reachable : (supervision 800).Reachable sampleSupervised :=
    TransitionSystem.reachable_of_labels (.initial rfl) sampleSupervision (by decide +kernel)
  obtain ⟨_, unshown, _, ends, _⟩ := playback_supervised 800 reachable
  exact ⟨unshown (by decide +kernel), (ends (by decide +kernel)).2.resolve_left (by decide +kernel)⟩

end Movie

end Genkan.Wallpaper
