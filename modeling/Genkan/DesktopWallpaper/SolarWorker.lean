import Genkan.DesktopWallpaper.Solar

/-! # The worker that asks for a location

It has at most one thing to do or to say: a command, a request or a result.
-/

namespace Genkan.DesktopWallpaper

variable {Location : Type}

namespace SolarThread

def busy : SolarThread Location → Bool
  | .requesting | .reporting _ => true
  | _ => false

def isStopped : SolarThread Location → Bool
  | .stopped => true
  | _ => false

def isStarting : SolarThread Location → Bool
  | .starting => true
  | _ => false

end SolarThread

namespace SolarResolver

/-- What the worker still has to do or to say. -/
def load (resolver : SolarResolver Location) : Nat :=
  resolver.results.length + resolver.command.toNat + resolver.thread.busy.toNat

/-- A request waits for the worker or is being made. -/
def requesting (resolver : SolarResolver Location) : Bool := resolver.command || resolver.thread.busy

structure Sound (resolver : SolarResolver Location) : Prop where
  single : resolver.load ≤ 1
  /-- Only a worker that could not start says something unasked. -/
  idle : resolver.inFlight = false → resolver.requesting = false ∧
    (resolver.results = [] ∨ resolver.results = [.failed .unavailable] ∧ resolver.thread.isStopped = true)
  starting : resolver.thread.isStarting = true → resolver.inFlight = true ∧ resolver.command = true
  stopped : resolver.thread.isStopped = true → resolver.command = false

theorem Sound.of_inFlight {resolver : SolarResolver Location} (single : resolver.load ≤ 1)
    (flying : resolver.inFlight = true) (started : resolver.thread.isStarting = false)
    (stopped : resolver.thread.isStopped = true → resolver.command = false) : resolver.Sound where
  single := single
  stopped := stopped
  idle grounded := by rw [flying] at grounded; contradiction
  starting isStarting := by rw [started] at isStarting; contradiction

/-- While a request is under way, nothing has been said yet. -/
theorem Sound.silent {resolver : SolarResolver Location} (sound : resolver.Sound)
    (requesting : resolver.requesting = true) : resolver.inFlight = true ∧ resolver.results = [] := by
  constructor
  · by_contra grounded
    have idle := (sound.idle (by simpa using grounded)).1
    rw [requesting] at idle
    contradiction
  · have single := sound.single
    rw [← List.length_eq_zero_iff]
    simp only [SolarResolver.requesting, Bool.or_eq_true] at requesting
    cases requesting with
    | inl commanded =>
      simp only [load, commanded, Bool.toNat_true] at single
      omega
    | inr busy =>
      simp only [load, busy, Bool.toNat_true] at single
      omega

/-- A thread that ends takes what it had to do with it. -/
theorem Sound.stop {resolver : SolarResolver Location} (sound : resolver.Sound) : resolver.stop.Sound where
  single := by
    have single := sound.single
    simp only [load, SolarResolver.stop, SolarThread.busy, Bool.toNat_false] at single ⊢
    omega
  idle grounded := ⟨rfl, (sound.idle grounded).2.imp_right fun unstarted => ⟨unstarted.1, rfl⟩⟩
  starting isStarting := by contradiction
  stopped _ := rfl

/-- A step of the worker makes no work of its own. -/
theorem Sound.advance {resolver next : SolarResolver Location} (sound : resolver.Sound)
    {step : SolarThreadStep Location} (advances : resolver.advance step = some next) :
    next.Sound ∧ next.inFlight = resolver.inFlight ∧ next.load ≤ resolver.load := by
  cases step with
  | build built =>
    simp only [SolarResolver.advance] at advances
    split at advances
    next isStarting =>
      obtain ⟨flying, commanded⟩ := sound.starting (by rw [isStarting]; rfl)
      have empty := (sound.silent (by simp [requesting, commanded])).2
      split at advances <;> cases advances
      next =>
        have load : ({ resolver with thread := .awaiting } : SolarResolver Location).load = resolver.load := by
          simp [load, isStarting, SolarThread.busy]
        refine ⟨.of_inFlight (load ▸ sound.single) flying rfl ?_, rfl, Nat.le_of_eq load⟩
        intro running
        contradiction
      next =>
        have load : ({ resolver.stop with results := resolver.results ++ [.failed .unavailable] } :
            SolarResolver Location).load = resolver.load := by
          simp [load, SolarResolver.stop, isStarting, commanded, empty, SolarThread.busy]
        exact ⟨.of_inFlight (load ▸ sound.single) flying rfl (fun _ => rfl), rfl, Nat.le_of_eq load⟩
    next => contradiction
  | take =>
    simp only [SolarResolver.advance] at advances
    split at advances
    next isAwaiting =>
      rw [Option.ite_none_right_eq_some] at advances
      obtain ⟨commanded, isNext⟩ := advances
      cases isNext
      have flying := (sound.silent (by simp [requesting, commanded])).1
      have load : ({ resolver with command := false, thread := .requesting } :
          SolarResolver Location).load = resolver.load := by
        simp [load, isAwaiting, commanded, SolarThread.busy]
      exact ⟨.of_inFlight (load ▸ sound.single) flying rfl (fun _ => rfl), rfl, Nat.le_of_eq load⟩
    next => contradiction
  | answer result =>
    simp only [SolarResolver.advance] at advances
    split at advances
    next isRequesting =>
      cases advances
      have flying := (sound.silent (by simp [requesting, isRequesting, SolarThread.busy])).1
      have load : ({ resolver with thread := .reporting result } : SolarResolver Location).load =
          resolver.load := by
        simp [load, isRequesting, SolarThread.busy]
      refine ⟨.of_inFlight (load ▸ sound.single) flying rfl ?_, rfl, Nat.le_of_eq load⟩
      intro running
      contradiction
    next => contradiction
  | report =>
    simp only [SolarResolver.advance] at advances
    split at advances
    next result isReporting isEmpty =>
      cases advances
      have flying := (sound.silent (by simp [requesting, isReporting, SolarThread.busy])).1
      have load : ({ resolver with results := [result], thread := .awaiting } : SolarResolver Location).load =
          resolver.load := by
        simp only [load, isReporting, isEmpty, SolarThread.busy, List.length_singleton, List.length_nil,
          Bool.toNat_true, Bool.toNat_false]
        omega
      refine ⟨.of_inFlight (load ▸ sound.single) flying rfl ?_, rfl, Nat.le_of_eq load⟩
      intro running
      contradiction
    next => contradiction
  | die =>
    simp only [SolarResolver.advance] at advances
    split at advances
    next => contradiction
    next =>
      cases advances
      refine ⟨sound.stop, rfl, ?_⟩
      simp only [load, SolarResolver.stop, SolarThread.busy, Bool.toNat_false]
      omega

/-- No step of the worker puts a command into its queue. -/
theorem advance_command {resolver next : SolarResolver Location} {step : SolarThreadStep Location}
    (advances : resolver.advance step = some next) (commanded : next.command = true) : resolver.command = true := by
  cases step with
  | build built =>
    simp only [SolarResolver.advance] at advances
    split at advances
    next =>
      split at advances <;> cases advances
      next => exact commanded
      next => contradiction
    next => contradiction
  | take =>
    simp only [SolarResolver.advance] at advances
    split at advances
    next => exact (Option.ite_none_right_eq_some.mp advances).1
    next => contradiction
  | answer result | report =>
    simp only [SolarResolver.advance] at advances
    split at advances
    next =>
      cases advances
      exact commanded
    next => contradiction
  | die =>
    simp only [SolarResolver.advance] at advances
    split at advances
    next => contradiction
    next =>
      cases advances
      contradiction

/-- What a call of `receive` leaves of a worker that has nothing more to say. -/
theorem receive_of_nil {resolver : SolarResolver Location} (empty : resolver.results = []) :
    resolver.receive.1 = { resolver with inFlight := resolver.inFlight && !resolver.thread.isStopped } := by
  obtain ⟨inFlight, command, results, thread⟩ := resolver
  cases empty
  cases thread <;> simp [SolarResolver.receive, SolarThread.isStopped]

theorem receive_of_cons {resolver : SolarResolver Location} {result : SolarResult Location}
    {results : List (SolarResult Location)} (holds : resolver.results = result :: results) :
    resolver.receive.1 = { resolver with inFlight := false, results := results } := by
  simp [SolarResolver.receive, holds]

/-- A worker that has stopped neither waits for its thread nor starts. -/
theorem Sound.rests {resolver : SolarResolver Location} (sound : resolver.Sound)
    (stopped : resolver.thread.isStopped = true) :
    resolver.requesting = false ∧ resolver.thread.isStarting = false := by
  have dropped := sound.stopped stopped
  cases isThread : resolver.thread with
  | stopped => exact ⟨by simp [requesting, dropped, isThread, SolarThread.busy], rfl⟩
  | starting | awaiting | requesting | reporting =>
    rw [isThread] at stopped
    contradiction

theorem Sound.receive_nil {resolver : SolarResolver Location} (sound : resolver.Sound)
    (empty : resolver.results = []) :
    ({ resolver with inFlight := resolver.inFlight && !resolver.thread.isStopped } :
      SolarResolver Location).Sound where
  single := sound.single
  stopped := sound.stopped
  idle grounded := by
    refine ⟨?_, .inl empty⟩
    cases running : resolver.thread.isStopped with
    | false => exact (sound.idle (by simpa [running] using grounded)).1
    | true => exact (sound.rests running).1
  starting isStarting := by
    have started := sound.starting isStarting
    have running : resolver.thread.isStopped = false := by
      by_contra stopped
      have rests := (sound.rests (by simpa using stopped)).2
      rw [isStarting] at rests
      contradiction
    exact ⟨by simp [started.1, running], started.2⟩

/-- A worker whose one result is taken has nothing left. -/
theorem Sound.receive_one {resolver : SolarResolver Location} (sound : resolver.Sound)
    {result : SolarResult Location} (holds : resolver.results = [result]) :
    ({ resolver with inFlight := false, results := [] } : SolarResolver Location).Sound ∧
      ({ resolver with inFlight := false, results := [] } : SolarResolver Location).load = 0 := by
  have silent : resolver.requesting = false := by
    by_contra requesting
    have empty := (sound.silent (by simpa using requesting)).2
    rw [holds] at empty
    contradiction
  obtain ⟨uncommanded, rests⟩ : resolver.command = false ∧ resolver.thread.busy = false := by
    simpa [requesting] using silent
  refine ⟨⟨by simp [load, uncommanded, rests], fun _ => ⟨silent, .inl rfl⟩, ?_, fun _ => uncommanded⟩,
    by simp [load, uncommanded, rests]⟩
  intro isStarting
  have started := (sound.starting isStarting).2
  rw [uncommanded] at started
  contradiction

theorem spawn_idle {spawned : Spawned} {resolver : SolarResolver Location}
    (spawns : spawn spawned = some resolver) :
    resolver.inFlight = false ∧ resolver.requesting = false ∧
      (resolver.thread.isStopped = false → resolver.results = []) ∧
      (resolver.thread.isStopped = true → resolver.Sound) := by
  cases spawned with
  | failed => contradiction
  | started =>
    cases spawns
    exact ⟨rfl, rfl, fun _ => rfl, fun stopped => by contradiction⟩
  | stopped =>
    cases spawns
    exact ⟨rfl, rfl, fun running => by contradiction, fun _ => ⟨Nat.le_refl 1, fun _ => ⟨rfl, .inr ⟨rfl, rfl⟩⟩,
      fun starting => by contradiction, fun _ => rfl⟩⟩

theorem dispatch_cases (resolver : SolarResolver Location) (silent : resolver.requesting = false) :
    resolver.thread.isStopped = true ∧ resolver.dispatch = none ∨
    resolver.thread.isStopped = false ∧
      resolver.dispatch = some { resolver with inFlight := true, command := true } := by
  have uncommanded : resolver.command = false := by
    simp only [requesting, Bool.or_eq_false_iff] at silent
    exact silent.1
  simp only [dispatch]
  cases isThread : resolver.thread with
  | stopped => exact .inl ⟨rfl, rfl⟩
  | starting | awaiting | requesting | reporting => exact .inr ⟨rfl, by simp [uncommanded]⟩

/-- A worker that is not at work may be asked. -/
theorem Sound.of_dispatch {resolver : SolarResolver Location} (silent : resolver.requesting = false)
    (empty : resolver.results = []) (running : resolver.thread.isStopped = false) :
    ({ resolver with inFlight := true, command := true } : SolarResolver Location).Sound where
  single := by
    simp only [requesting, Bool.or_eq_false_iff] at silent
    simp [load, empty, silent.2]
  idle grounded := by contradiction
  starting _ := ⟨rfl, rfl⟩
  stopped stopped := by
    rw [running] at stopped
    contradiction

end SolarResolver

end Genkan.DesktopWallpaper
