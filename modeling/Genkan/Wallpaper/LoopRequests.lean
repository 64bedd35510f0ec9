import Genkan.Wallpaper.LoopPlayback

/-! # The loop requests of the movie player

A pass is requested to loop once, at its first frame past the loop point, and nothing of it is published
after that.  Where loops start only on a request, nothing is published while one is outstanding.
-/

namespace Genkan.Wallpaper

open Foundations Foundations.Lists

namespace Movie

/-! ## One request in a pass -/

/-- The callback is on its way to request a loop in the pass. -/
def Callback.WillRequest (callback : Callback) (pass : Nat) : Prop :=
  match callback with
  | .publishing decoded requests _ _ => requests = true ∧ decoded.pass = pass
  | .requesting decoded => decoded.pass = pass
  | _ => False

@[simp] theorem Callback.overlap_willRequest (callback : Callback) (pass : Nat) :
    callback.overlap.WillRequest pass ↔ callback.WillRequest pass := by
  cases callback with
  | publishing decoded requests overlapped operation => cases operation <;> rfl
  | _ => rfl

def Player.Requests (player : Player) (pass : Nat) : Prop :=
  .requested pass ∈ player.history ∨ player.callback.WillRequest pass

/-- The frames pulled so far: nothing of a later pass than the latest, and past the loop point where that
pass has its request. -/
structure Player.Pulled (settings : Settings) (player : Player) (latest : Nat) : Prop where
  fresh : latest < player.pass → player.lastPts = none
  late : latest = player.pass → player.Requests latest →
    ∃ last, player.lastPts = some last ∧ settings.loopAt ≤ last

/-- A frame before `loop_frame_action`. -/
structure Player.Deciding (settings : Settings) (player : Player) (latest pts : Nat) (pass : Nat) : Prop where
  early : latest < pass → pts < settings.loopAt
  late : latest = pass → player.Requests latest → settings.loopAt ≤ pts
  current : pass = player.pass → player.lastPts = some pts
  sought : pass < player.pass → player.lastPts = none

def Player.CallbackTimed (settings : Settings) (player : Player) (latest : Nat) : Prop :=
  match player.callback with
  | .idle => player.Pulled settings latest
  | .deciding decoded =>
    decoded.pass ≤ player.pass ∧ latest ≤ decoded.pass ∧
      match decoded.frame.pts with
      | none => player.Pulled settings latest
      | some pts => player.Deciding settings latest pts decoded.pass
  | .publishing decoded _ _ _ | .requesting decoded =>
    player.Pulled settings latest ∧ .requested decoded.pass ∉ player.history

/-- The latest pass with a frame that the callback has looked at; the flag says whether it has its
request. -/
structure Player.Timed (settings : Settings) (player : Player) (latest : Nat) : Prop where
  latest_le : latest ≤ player.pass
  requests_le : ∀ pass, player.Requests pass → pass ≤ latest
  flag : player.loopRequested = true ↔ player.Requests latest
  reached : ∀ pass, .reached pass ∈ player.history → player.Requests pass
  callback : player.CallbackTimed settings latest

/-- A step that touches neither the requests nor the place in the stream. -/
theorem Player.Timed.kept {settings : Settings} {player next : Player} {latest : Nat}
    (timed : player.Timed settings latest) (samePass : next.pass = player.pass)
    (sameFlag : next.loopRequested = player.loopRequested)
    (sameRequests : ∀ pass, next.Requests pass ↔ player.Requests pass)
    (sameReached : ∀ pass, .reached pass ∈ next.history → .reached pass ∈ player.history)
    (callback : next.CallbackTimed settings latest) : next.Timed settings latest where
  latest_le := samePass ▸ timed.latest_le
  requests_le pass requests := timed.requests_le pass ((sameRequests pass).mp requests)
  flag := by rw [sameFlag, timed.flag, sameRequests]
  reached pass member := (sameRequests pass).mpr (timed.reached pass (sameReached pass member))
  callback := callback

theorem Player.Pulled.kept {settings : Settings} {player next : Player} {latest : Nat}
    (pulled : player.Pulled settings latest) (samePass : next.pass = player.pass)
    (sameLast : next.lastPts = player.lastPts)
    (sameRequests : ∀ pass, next.Requests pass ↔ player.Requests pass) : next.Pulled settings latest where
  fresh := by
    rw [samePass, sameLast]
    exact pulled.fresh
  late := by
    rw [samePass, sameLast, sameRequests]
    exact pulled.late

theorem Player.CallbackTimed.kept {settings : Settings} {player next : Player} {latest : Nat}
    (timed : player.CallbackTimed settings latest) (samePass : next.pass = player.pass)
    (sameLast : next.lastPts = player.lastPts)
    (sameRequests : ∀ pass, next.Requests pass ↔ player.Requests pass)
    (sameRequested : ∀ pass, .requested pass ∈ next.history ↔ .requested pass ∈ player.history)
    (isNext : next.callback = player.callback ∨ next.callback = player.callback.overlap) :
    next.CallbackTimed settings latest := by
  cases isCallback : player.callback with
  | idle =>
    rw [isCallback] at isNext
    replace isNext : next.callback = .idle := isNext.elim id id
    simp only [Player.CallbackTimed, isCallback, isNext] at timed ⊢
    exact timed.kept samePass sameLast sameRequests
  | deciding decoded =>
    rw [isCallback] at isNext
    replace isNext : next.callback = .deciding decoded := isNext.elim id id
    simp only [Player.CallbackTimed, isCallback, isNext, samePass] at timed ⊢
    obtain ⟨decodedLe, latestLe, pulled⟩ := timed
    refine ⟨decodedLe, latestLe, ?_⟩
    cases isPts : decoded.frame.pts with
    | none =>
      simp only [isPts] at pulled
      exact pulled.kept samePass sameLast sameRequests
    | some pts =>
      simp only [isPts] at pulled
      refine ⟨pulled.early, ?_, ?_, ?_⟩
      · exact fun isLatest requests => pulled.late isLatest ((sameRequests latest).mp requests)
      · rw [samePass, sameLast]
        exact pulled.current
      · rw [samePass, sameLast]
        exact pulled.sought
  | publishing decoded requests overlapped operation =>
    have publishes : ∃ overlapped', next.callback = .publishing decoded requests overlapped' operation := by
      rw [isCallback] at isNext
      cases operation <;> rcases isNext with same | same <;> exact ⟨_, same⟩
    obtain ⟨overlapped', isNext⟩ := publishes
    simp only [Player.CallbackTimed, isCallback, isNext, sameRequested] at timed ⊢
    exact ⟨timed.1.kept samePass sameLast sameRequests, timed.2⟩
  | requesting decoded =>
    rw [isCallback] at isNext
    replace isNext : next.callback = .requesting decoded := isNext.elim id id
    simp only [Player.CallbackTimed, isCallback, isNext, sameRequested] at timed ⊢
    exact ⟨timed.1.kept samePass sameLast sameRequests, timed.2⟩

/-- A seek starts a later pass, whatever the callback is at. -/
theorem Player.CallbackTimed.sought {settings : Settings} {player next : Player} {latest : Nat}
    (timed : player.CallbackTimed settings latest) (latestLe : latest ≤ player.pass)
    (isPass : next.pass = player.pass + 1) (isLast : next.lastPts = none)
    (isNext : next.callback = player.callback) (sameHistory : next.history = player.history) :
    next.CallbackTimed settings latest := by
  have same : ∀ pass, next.Requests pass ↔ player.Requests pass := by
    simp [Player.Requests, isNext, sameHistory]
  have restarted : next.Pulled settings latest :=
    ⟨fun _ => isLast, fun isLatest => absurd isLatest (by omega)⟩
  simp only [Player.CallbackTimed, isNext, sameHistory] at timed ⊢
  split at timed
  next => exact restarted
  next decoded _ =>
    obtain ⟨decodedLe, order, pulled⟩ := timed
    refine ⟨by omega, order, ?_⟩
    split at pulled
    next => exact restarted
    next pts _ =>
      refine ⟨pulled.early, ?_, fun isCurrent => absurd isCurrent (by omega), fun _ => isLast⟩
      exact fun isLatest requests => pulled.late isLatest ((same latest).mp requests)
  next => exact ⟨restarted, timed.2⟩
  next => exact ⟨restarted, timed.2⟩

/-- A step within `publish_frame`. -/
theorem Player.Timed.publishing {settings : Settings} {player next : Player} {latest : Nat}
    {decoded : Decoded} {requests overlapped overlapped' : Bool} {operation following : Operation}
    (timed : player.Timed settings latest)
    (isCallback : player.callback = .publishing decoded requests overlapped operation)
    (isNext : next.callback = .publishing decoded requests overlapped' following)
    (samePass : next.pass = player.pass) (sameLast : next.lastPts = player.lastPts)
    (sameFlag : next.loopRequested = player.loopRequested)
    (sameRequested : ∀ pass, .requested pass ∈ next.history ↔ .requested pass ∈ player.history)
    (sameReached : ∀ pass, .reached pass ∈ next.history → .reached pass ∈ player.history) :
    next.Timed settings latest := by
  have callback := timed.callback
  have same : ∀ pass, next.Requests pass ↔ player.Requests pass := by
    simp [Player.Requests, isCallback, isNext, Callback.WillRequest, sameRequested]
  simp only [Player.CallbackTimed, isCallback] at callback
  refine timed.kept samePass sameFlag same sameReached ?_
  simp only [Player.CallbackTimed, isNext, sameRequested]
  exact ⟨callback.1.kept samePass sameLast same, callback.2⟩

/-- Once its frames are past the loop point, a pass that was looked at is the latest one. -/
theorem Player.Deciding.pass_eq {settings : Settings} {player : Player} {latest pts pass : Nat}
    (deciding : player.Deciding settings latest pts pass) (order : latest ≤ pass)
    (late : settings.loopAt ≤ pts) : latest = pass := by
  cases Nat.lt_or_eq_of_le order with
  | inl earlier => exact absurd (deciding.early earlier) (Nat.not_lt.mpr late)
  | inr same => exact same

theorem Player.Timed.pulled {settings : Settings} {player : Player} {latest : Nat} {frame : Frame}
    (timed : player.Timed settings latest) (isCallback : player.callback = .idle)
    (follows : player.follows settings frame = true) :
    Player.Timed settings { player with
      callback := .deciding { pass := player.pass, frame }
      lastPts := frame.pts.or player.lastPts } latest := by
  have callback := timed.callback
  simp only [Player.CallbackTimed, isCallback] at callback
  have same : ∀ pass, Player.Requests { player with
      callback := .deciding { pass := player.pass, frame }, lastPts := frame.pts.or player.lastPts } pass ↔
        player.Requests pass := by
    simp [Player.Requests, isCallback, Callback.WillRequest]
  refine timed.kept rfl rfl same (fun _ member => member) ?_
  simp only [Player.CallbackTimed]
  refine ⟨Nat.le_refl _, timed.latest_le, ?_⟩
  cases isPts : frame.pts with
  | none => exact callback.kept rfl (by simp) same
  | some pts =>
    -- In the latest pass the times do not go back; a later pass starts before the loop point.
    simp only [Player.follows, isPts] at follows
    refine ⟨?_, ?_, fun _ => by simp, fun later => absurd later (Nat.lt_irrefl _)⟩
    · intro earlier
      have positive : player.pass ≠ 0 := by omega
      simpa [callback.fresh earlier, positive] using follows
    · intro isLatest requests
      obtain ⟨last, isLast, late⟩ := callback.late isLatest ((same latest).mp requests)
      simp only [isLast, decide_eq_true_eq] at follows
      exact Nat.le_trans late follows

theorem Player.requests_deciding {player : Player} {decoded : Decoded}
    (isCallback : player.callback = .deciding decoded) (pass : Nat) :
    player.Requests pass ↔ .requested pass ∈ player.history := by
  simp [Player.Requests, isCallback, Callback.WillRequest]

/-- A frame with a time makes its pass the latest one; one without leaves the latest pass. -/
theorem Player.Timed.shown {settings : Settings} {player : Player} {latest : Nat} {decoded : Decoded}
    (timed : player.Timed settings latest) (isCallback : player.callback = .deciding decoded)
    (unrequested : decoded.frame.pts = none → player.loopRequested = false)
    (early : ∀ pts, decoded.frame.pts = some pts → pts < settings.loopAt) :
    ∃ latest', Player.Timed settings { player with
      loopRequested := false
      callback := .publishing decoded false false (.publishFrame decoded.frame) } latest' := by
  have callback := timed.callback
  simp only [Player.CallbackTimed, isCallback] at callback
  obtain ⟨decodedLe, latestLe, pulled⟩ := callback
  have after : ∀ pass, Player.Requests { player with
      loopRequested := false
      callback := .publishing decoded false false (.publishFrame decoded.frame) } pass ↔
        player.Requests pass := by
    simp [Player.Requests, isCallback, Callback.WillRequest]
  cases isPts : decoded.frame.pts with
  | none =>
    simp only [isPts] at pulled
    have unset := unrequested isPts
    have notLatest : ¬ player.Requests latest := by
      rw [← timed.flag, unset]
      exact Bool.false_ne_true
    refine ⟨latest, timed.kept rfl unset.symm after (fun _ member => member) ?_⟩
    refine ⟨pulled.kept rfl rfl after, ?_⟩
    intro requested
    have isRequested := (player.requests_deciding isCallback _).mpr requested
    have order := timed.requests_le _ isRequested
    exact notLatest (Nat.le_antisymm order latestLe ▸ isRequested)
  | some pts =>
    simp only [isPts] at pulled
    have notPass : ¬ player.Requests decoded.pass := by
      intro requests
      have same := Nat.le_antisymm latestLe (timed.requests_le _ requests)
      exact absurd (pulled.late same (same ▸ requests)) (Nat.not_le.mpr (early pts isPts))
    refine ⟨decoded.pass, decodedLe, ?_, ?_, ?_, ⟨?_, ?_⟩, ?_⟩
    · intro pass requests
      exact Nat.le_trans (timed.requests_le pass ((after pass).mp requests)) latestLe
    · simp [after, notPass]
    · intro pass member
      exact (after pass).mpr (timed.reached pass member)
    · exact pulled.sought
    · exact fun _ requests => absurd ((after _).mp requests) notPass
    · exact fun requested => notPass ((player.requests_deciding isCallback _).mpr requested)

/-- The first frame past the loop point is of the latest pass, which has no request yet. -/
theorem Player.Timed.requesting {settings : Settings} {player : Player} {latest : Nat} {decoded : Decoded}
    {pts : Nat} (timed : player.Timed settings latest) (isCallback : player.callback = .deciding decoded)
    (isPts : decoded.frame.pts = some pts) (late : settings.loopAt ≤ pts)
    (first : player.loopRequested = false) :
    Player.Timed settings { player with
      loopRequested := true
      callback := .publishing decoded true false (.publishFrame decoded.frame)
      history := player.history ++ [.reached decoded.pass] } decoded.pass := by
  have callback := timed.callback
  simp only [Player.CallbackTimed, isCallback, isPts] at callback
  obtain ⟨decodedLe, latestLe, deciding⟩ := callback
  have isLatest := deciding.pass_eq latestLe late
  have notPass : ¬ player.Requests decoded.pass := by
    rw [← isLatest, ← timed.flag, first]
    exact Bool.false_ne_true
  have after : ∀ pass, Player.Requests { player with
      loopRequested := true
      callback := .publishing decoded true false (.publishFrame decoded.frame)
      history := player.history ++ [.reached decoded.pass] } pass ↔
        player.Requests pass ∨ decoded.pass = pass := by
    simp [Player.Requests, isCallback, Callback.WillRequest]
  refine ⟨decodedLe, ?_, ?_, ?_, ⟨deciding.sought, ?_⟩, ?_⟩
  · intro pass requests
    rcases (after pass).mp requests with old | rfl
    · exact Nat.le_trans (timed.requests_le pass old) latestLe
    · exact Nat.le_refl _
  · simp [after]
  · intro pass member
    rw [after]
    simp only [List.mem_append, List.mem_singleton, Event.reached.injEq] at member
    exact member.imp (timed.reached pass) Eq.symm
  · exact fun isPass _ => ⟨pts, deciding.current isPass, late⟩
  · intro requested
    simp only [List.mem_append, List.mem_singleton, reduceCtorEq, or_false] at requested
    exact notPass ((player.requests_deciding isCallback _).mpr requested)

/-- A dropped frame with a time is of the latest pass, and that pass has its request. -/
theorem Player.Timed.dropped {settings : Settings} {player : Player} {latest : Nat} {decoded : Decoded}
    (timed : player.Timed settings latest) (isCallback : player.callback = .deciding decoded)
    (again : player.loopRequested = true)
    (late : ∀ pts, decoded.frame.pts = some pts → settings.loopAt ≤ pts) :
    Player.Timed settings { player with
      callback := .idle
      history := player.history ++ reaching settings decoded } latest := by
  have callback := timed.callback
  simp only [Player.CallbackTimed, isCallback] at callback
  obtain ⟨decodedLe, latestLe, pulled⟩ := callback
  have isRequested := timed.flag.mp again
  have notRequest : ∀ pass, .requested pass ∉ reaching settings decoded := by
    intro pass
    cases reaching_cases settings decoded with
    | inl isEmpty => simp [isEmpty]
    | inr isReached => simp [isReached]
  have same : ∀ pass, Player.Requests { player with
      callback := .idle, history := player.history ++ reaching settings decoded } pass ↔
        player.Requests pass := by
    simp [Player.Requests, isCallback, Callback.WillRequest, notRequest]
  refine ⟨timed.latest_le, fun pass requests => timed.requests_le pass ((same pass).mp requests),
    by rw [same]; exact timed.flag, ?_, ?_⟩
  · intro pass member
    rw [same]
    cases List.mem_append.mp member with
    | inl old => exact timed.reached pass old
    | inr new =>
      cases isPts : decoded.frame.pts with
      | none => simp [reaching, isPts] at new
      | some pts =>
        simp only [isPts] at pulled
        have isLatest := pulled.pass_eq latestLe (late pts isPts)
        rw [reaching_late isPts (late pts isPts), List.mem_singleton, Event.reached.injEq] at new
        rw [new, ← isLatest]
        exact isRequested
  · cases isPts : decoded.frame.pts with
    | none =>
      simp only [isPts] at pulled
      exact pulled.kept rfl rfl same
    | some pts =>
      simp only [isPts] at pulled
      have isLatest := pulled.pass_eq latestLe (late pts isPts)
      exact ⟨fun earlier => pulled.sought (isLatest ▸ earlier),
        fun isPass _ => ⟨pts, pulled.current (isLatest ▸ isPass), late pts isPts⟩⟩

theorem Player.Timed.returned {settings : Settings} {player : Player} {latest : Nat} {decoded : Decoded}
    {requests overlapped : Bool} {operation : Operation} (timed : player.Timed settings latest)
    (isCallback : player.callback = .publishing decoded requests overlapped operation) :
    Player.Timed settings { player with callback := if requests then .requesting decoded else .idle }
      latest := by
  have callback := timed.callback
  simp only [Player.CallbackTimed, isCallback] at callback
  have same : ∀ pass, Player.Requests { player with
      callback := if requests then .requesting decoded else .idle } pass ↔ player.Requests pass := by
    cases requests <;> simp [Player.Requests, isCallback, Callback.WillRequest]
  refine timed.kept rfl rfl same (fun _ member => member) ?_
  cases requests with
  | true => exact ⟨callback.1.kept rfl rfl same, callback.2⟩
  | false => exact callback.1.kept rfl rfl same

theorem Player.Timed.posted {settings : Settings} {player : Player} {latest : Nat} {decoded : Decoded}
    {messages : Nat} (timed : player.Timed settings latest)
    (isCallback : player.callback = .requesting decoded) :
    Player.Timed settings { player with
      callback := .idle
      messages := messages
      history := player.history ++ [.requested decoded.pass] } latest := by
  have callback := timed.callback
  simp only [Player.CallbackTimed, isCallback] at callback
  have same : ∀ pass, Player.Requests { player with
      callback := .idle
      messages := messages
      history := player.history ++ [.requested decoded.pass] } pass ↔ player.Requests pass := by
    simp [Player.Requests, isCallback, Callback.WillRequest, eq_comm]
  exact timed.kept rfl rfl same (by simp) (callback.1.kept rfl rfl same)

theorem Player.Timed.moves {settings : Settings} {player next : Player} {latest : Nat}
    (timed : player.Timed settings latest) (moves : player.Moves settings next) :
    ∃ latest', next.Timed settings latest' := by
  have callback := timed.callback
  cases moves with
  | pulls frame isCallback follows => exact ⟨latest, timed.pulled isCallback follows⟩
  | shows decoded isCallback unrequested early => exact timed.shown isCallback unrequested early
  | reaches decoded pts isCallback isPts late first =>
    exact ⟨decoded.pass, timed.requesting isCallback isPts late first⟩
  | drops decoded isCallback again late => exact ⟨latest, timed.dropped isCallback again late⟩
  | opens decoded requests _ _ isCallback
  | blends decoded requests _ _ _ _ isCallback
  | notifies decoded requests _ _ _ _ isCallback =>
    exact ⟨latest, timed.publishing isCallback rfl rfl rfl rfl (fun _ => Iff.rfl) fun _ member => member⟩
  | publishes decoded requests _ _ _ _ isCallback =>
    exact ⟨latest, timed.publishing isCallback rfl rfl rfl rfl (by simp) (by simp)⟩
  | returns decoded requests _ isCallback => exact ⟨latest, timed.returned isCallback⟩
  | posts decoded delivered isCallback => exact ⟨latest, timed.posted isCallback⟩
  | pops =>
    refine ⟨latest, timed.kept rfl rfl (fun _ => Iff.rfl) (fun _ member => member) ?_⟩
    exact callback.kept rfl rfl (fun _ => Iff.rfl) (fun _ => Iff.rfl) (.inl rfl)
  | begins now =>
    have same : ∀ pass, Player.Requests { player with
        callback := player.callback.overlap, history := player.history ++ [.began] } pass ↔
          player.Requests pass := by
      simp [Player.Requests]
    refine ⟨latest, timed.kept rfl rfl same (by simp) ?_⟩
    exact callback.kept rfl rfl same (by simp) (.inr rfl)
  | seeks =>
    have latestLe := timed.latest_le
    exact ⟨latest, Nat.le_succ_of_le latestLe, timed.requests_le, timed.flag, timed.reached,
      callback.sought latestLe rfl rfl rfl rfl⟩

theorem Player.Timed.unrequested {settings : Settings} {player : Player} {latest : Nat}
    {decoded : Decoded} {requests overlapped : Bool} {operation : Operation}
    (timed : player.Timed settings latest)
    (isCallback : player.callback = .publishing decoded requests overlapped operation) :
    .requested decoded.pass ∉ player.history := by
  have callback := timed.callback
  simp only [Player.CallbackTimed, isCallback] at callback
  exact callback.2

/-! ## The last frame of a pass -/

/-- Nothing was published since a frame of the pass reached the loop point. -/
def FirstSinceReached (pass : Nat) (history : List Event) : Prop :=
  ∀ before middle, history = before ++ .reached pass :: middle → ∀ other, .published other ∉ middle

theorem FirstSinceReached.of_unreached {pass : Nat} {history : List Event}
    (unreached : .reached pass ∉ history) : FirstSinceReached pass history := by
  rintro before middle rfl
  simp at unreached

theorem FirstSinceReached.append {pass : Nat} {history : List Event}
    (first : FirstSinceReached pass history) {event : Event}
    (other : ∀ publication, event ≠ .published publication) : FirstSinceReached pass (history ++ [event]) := by
  intro before middle split publication member
  obtain ⟨_, _, rfl⟩ | ⟨rest, rfl, same⟩ := append_singleton_split split
  · exact absurd member List.not_mem_nil
  · cases List.mem_append.mp member with
    | inl earlier => exact first before rest same publication earlier
    | inr last => exact other publication (List.mem_singleton.mp last).symm

/-- `publish_frame` before its second section. -/
def InSections : Operation → Prop
  | .publishFrame _ | .blending _ _ | .publishing _ _ => True
  | _ => False

def Player.Approaches (player : Player) : Prop :=
  ∀ decoded requests overlapped operation,
    player.callback = .publishing decoded requests overlapped operation → InSections operation →
      FirstSinceReached decoded.pass player.history

theorem Player.Approaches.moves {settings : Settings} {player next : Player} {latest latest' : Nat}
    (approaches : player.Approaches) (timed : player.Timed settings latest)
    (timedNext : next.Timed settings latest') (moves : player.Moves settings next) : next.Approaches := by
  have unreached : ∀ decoded, player.callback = .deciding decoded →
      .requested decoded.pass ∉ player.history → .reached decoded.pass ∉ player.history := by
    intro decoded isCallback unrequested reached
    exact unrequested ((timed.reached _ reached).resolve_right (by simp [isCallback, Callback.WillRequest]))
  cases moves with
  | pulls | drops | posts => rintro _ _ _ _ ⟨⟩
  | returns decoded requests => cases requests <;> rintro _ _ _ _ ⟨⟩
  | shows decoded isCallback =>
    rintro _ _ _ _ ⟨⟩ _
    exact .of_unreached (unreached decoded isCallback (timedNext.unrequested rfl))
  | reaches decoded pts isCallback =>
    rintro _ _ _ _ ⟨⟩ _
    have unrequested : .requested decoded.pass ∉ player.history :=
      fun requested => timedNext.unrequested rfl (List.mem_append_left _ requested)
    exact (FirstSinceReached.of_unreached (unreached decoded isCallback unrequested)).append (by simp)
  | opens _ _ _ _ isCallback | blends _ _ _ _ _ _ isCallback =>
    rintro _ _ _ _ ⟨⟩ _
    exact approaches _ _ _ _ isCallback trivial
  | publishes =>
    rintro _ _ _ _ ⟨⟩ inSections
    exact inSections.elim
  | notifies _ _ _ _ following _ _ _ after =>
    rintro _ _ _ _ ⟨⟩ inSections
    cases following <;> first | exact after.elim | exact inSections.elim
  | pops | seeks => exact approaches
  | begins =>
    intro decoded requests overlapped operation isCallback inSections
    obtain ⟨_, isBefore⟩ := Callback.overlap_eq_publishing isCallback
    exact (approaches _ _ _ _ isBefore inSections).append (by simp)

/-! ## One loop at a time -/

/-- The loop messages and the loop that the monitor is at. -/
def Player.outstanding (player : Player) : Nat :=
  player.messages + if player.monitor = .waiting then 0 else 1

def Callback.Rests (callback : Callback) : Prop :=
  callback = .idle ∨ ∃ decoded, callback = .deciding decoded

theorem Callback.Rests.overlap {callback : Callback} (rests : callback.Rests) :
    callback.overlap = callback := by
  rcases rests with rfl | ⟨decoded, rfl⟩ <;> rfl

/-- While a loop is requested or at the monitor, nothing is published. -/
structure Player.Alternates (player : Player) : Prop where
  one : player.outstanding ≤ 1
  rests : 0 < player.outstanding → .requested player.pass ∈ player.history ∧ player.callback.Rests
  current : ∀ pass, player.callback.WillRequest pass → pass = player.pass
  decided : ∀ decoded, player.callback = .deciding decoded →
    decoded.pass = player.pass ∨ .requested decoded.pass ∈ player.history
  apart : ∀ decoded requests overlapped operation,
    player.callback = .publishing decoded requests overlapped operation → overlapped = false

theorem Player.Alternates.nothing_outstanding {player : Player} (alternates : player.Alternates)
    (busy : ¬ player.callback.Rests) : player.outstanding = 0 := by
  by_contra some
  exact busy (alternates.rests (Nat.pos_of_ne_zero some)).2

/-- A frame that is published, of a pass without a request, is of the pass that is decoded now. -/
theorem Player.Alternates.deciding {player : Player} {decoded : Decoded} (alternates : player.Alternates)
    (isCallback : player.callback = .deciding decoded)
    (unrequested : .requested decoded.pass ∉ player.history) :
    decoded.pass = player.pass ∧ player.outstanding = 0 := by
  have current := (alternates.decided decoded isCallback).resolve_right unrequested
  refine ⟨current, ?_⟩
  by_contra some
  exact unrequested (current ▸ (alternates.rests (Nat.pos_of_ne_zero some)).1)

/-- The loop that the monitor is at is the only one. -/
theorem Player.Alternates.looping {player : Player} (alternates : player.Alternates)
    (busy : player.monitor ≠ .waiting) :
    player.messages = 0 ∧ .requested player.pass ∈ player.history ∧ player.callback.Rests := by
  have same : player.outstanding = player.messages + 1 := by rw [Player.outstanding, if_neg busy]
  have one := alternates.one
  exact ⟨by omega, alternates.rests (by omega)⟩

/-- A step within `publish_frame`, or into it. -/
theorem Player.Alternates.publishing {player next : Player} {decoded : Decoded} {requests : Bool}
    {operation : Operation} (none : player.outstanding = 0)
    (isNext : next.callback = .publishing decoded requests false operation)
    (current : requests = true → decoded.pass = player.pass) (samePass : next.pass = player.pass)
    (sameMessages : next.messages = player.messages) (sameMonitor : next.monitor = player.monitor) :
    next.Alternates := by
  have sameOutstanding : next.outstanding = 0 := by
    simp only [Player.outstanding, sameMessages, sameMonitor]
    exact none
  refine ⟨by omega, fun some => absurd some (by omega), ?_, ?_, ?_⟩
  · intro pass willRequest
    simp only [isNext, Callback.WillRequest] at willRequest
    rw [samePass, ← willRequest.2]
    exact current willRequest.1
  · intro other isOther
    simp [isNext] at isOther
  · intro _ _ _ _ isOther
    rw [isNext] at isOther
    cases isOther
    rfl

theorem Player.Alternates.moves {settings : Settings} {player next : Player} {latest : Nat}
    (onRequest : settings.loops = .onRequest) (alternates : player.Alternates)
    (timed : next.Timed settings latest) (moves : player.Moves settings next) : next.Alternates := by
  cases moves with
  | pulls frame isCallback =>
    refine ⟨alternates.one, ?_, ?_, ?_, ?_⟩
    · exact fun some => ⟨(alternates.rests some).1, .inr ⟨_, rfl⟩⟩
    · exact fun _ willRequest => willRequest.elim
    · rintro decoded ⟨⟩
      exact .inl rfl
    · rintro _ _ _ _ ⟨⟩
  | shows decoded isCallback =>
    obtain ⟨current, none⟩ := alternates.deciding isCallback (timed.unrequested rfl)
    exact .publishing none rfl (fun _ => current) rfl rfl rfl
  | reaches decoded pts isCallback =>
    have unrequested : .requested decoded.pass ∉ player.history :=
      fun requested => timed.unrequested rfl (List.mem_append_left _ requested)
    obtain ⟨current, none⟩ := alternates.deciding isCallback unrequested
    exact .publishing none rfl (fun _ => current) rfl rfl rfl
  | drops decoded =>
    refine ⟨alternates.one, ?_, fun _ willRequest => willRequest.elim, ?_, ?_⟩
    · exact fun some => ⟨List.mem_append_left _ (alternates.rests some).1, .inl rfl⟩
    · rintro _ ⟨⟩
    · rintro _ _ _ _ ⟨⟩
  | opens decoded requests overlapped _ isCallback
  | blends decoded requests overlapped _ _ _ isCallback
  | publishes decoded requests overlapped _ _ _ isCallback
  | notifies decoded requests overlapped _ _ _ isCallback =>
    cases alternates.apart _ _ _ _ isCallback
    refine .publishing (alternates.nothing_outstanding ?_) rfl ?_ rfl rfl rfl
    · simp [Callback.Rests, isCallback]
    · intro asks
      exact alternates.current _ (by simp [isCallback, asks, Callback.WillRequest])
  | returns decoded requests overlapped isCallback =>
    have none := alternates.nothing_outstanding (by simp [Callback.Rests, isCallback])
    have stillNone : Player.outstanding { player with
        callback := if requests then .requesting decoded else .idle } = 0 := none
    refine ⟨by omega, fun some => absurd some (by omega), ?_, ?_, ?_⟩
    · intro pass willRequest
      cases requests with
      | true => exact alternates.current _ (by simpa [isCallback, Callback.WillRequest] using willRequest)
      | false => exact willRequest.elim
    · intro other isOther
      cases requests <;> simp at isOther
    · intro _ _ _ _ isOther
      cases requests <;> simp at isOther
  | posts decoded delivered isCallback =>
    have none := alternates.nothing_outstanding (by simp [Callback.Rests, isCallback])
    have current : decoded.pass = player.pass :=
      alternates.current _ (by simp [isCallback, Callback.WillRequest])
    refine ⟨?_, fun _ => ⟨by simp [current], .inl rfl⟩, fun _ willRequest => willRequest.elim, ?_, ?_⟩
    · simp only [Player.outstanding] at none ⊢
      split <;> omega
    · rintro _ ⟨⟩
    · rintro _ _ _ _ ⟨⟩
  | pops waits some =>
    have same : Player.outstanding
        { player with monitor := .beginning, messages := player.messages - 1 } = player.outstanding := by
      simp only [Player.outstanding, waits, if_true, reduceCtorEq, if_false]
      omega
    exact ⟨same ▸ alternates.one, fun some => alternates.rests (same ▸ some), alternates.current,
      alternates.decided, alternates.apart⟩
  | begins now allowed =>
    -- On request, a loop begins only for the message of the pass, and the callback rests until it has.
    have isMonitor := allowed.resolve_right (by simp [onRequest])
    obtain ⟨empty, requested, rests⟩ := alternates.looping (by simp [isMonitor])
    simp only [isMonitor, if_true, rests.overlap]
    refine ⟨by simp [Player.outstanding, empty], fun _ => ⟨List.mem_append_left _ requested, rests⟩,
      alternates.current, ?_, alternates.apart⟩
    intro decoded isCallback
    exact (alternates.decided decoded isCallback).imp id (List.mem_append_left _)
  | seeks allowed =>
    have isMonitor := allowed.resolve_right (by simp [onRequest])
    obtain ⟨empty, requested, rests⟩ := alternates.looping (by simp [isMonitor])
    simp only [isMonitor, if_true]
    refine ⟨by simp [Player.outstanding, empty], fun some => ?_, ?_, ?_, alternates.apart⟩
    · simp [Player.outstanding, empty] at some
    · -- The callback may hold a frame of the old pass, but no request of it.
      intro pass willRequest
      rcases rests with isIdle | ⟨decoded, isDeciding⟩
      · simp [isIdle, Callback.WillRequest] at willRequest
      · simp [isDeciding, Callback.WillRequest] at willRequest
    · intro decoded isCallback
      refine .inr ((alternates.decided decoded isCallback).elim ?_ id)
      intro current
      exact current ▸ requested

end Movie

end Genkan.Wallpaper
