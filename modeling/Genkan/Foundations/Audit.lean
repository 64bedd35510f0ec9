import Mathlib.Algebra.Order.Group.Nat
import Mathlib.Algebra.Ring.Nat

/-! # Audited computations

A computation that may panic, may fail with an error, and logs what it does until then.  An audited
program is compared with a plain one, which has neither panics nor a log: it returns the same, each
event of its log is allowed, and the costs of the events are counted up to a limit.
-/

namespace Foundations

/-- `none` is a panic. -/
def Audit (Event Error Value : Type) : Type := Option (List Event × Except Error Value)

namespace Audit

variable {Event Error Value Result : Type}

def of (result : Except Error Value) : Audit Event Error Value := some ([], result)

/-- Panics without a value. -/
def expect (value : Option Value) : Audit Event Error Value := value.map fun value => ([], .ok value)

def panics : Audit Event Error Value := none

def log (event : Event) : Audit Event Error Unit := some ([event], .ok ())

def andThen (first : Audit Event Error Value) (next : Value → Audit Event Error Result) :
    Audit Event Error Result :=
  match first with
  | none => none
  | some (events, .error error) => some (events, .error error)
  | some (events, .ok value) => (next value).map fun later => (events ++ later.1, later.2)

instance : Monad (Audit Event Error) where
  pure value := of (.ok value)
  bind := andThen

/-! ## Computations without a log -/

theorem of_ok_bind (value : Value) (next : Value → Audit Event Error Result) :
    (of (.ok value) >>= next) = next value := by
  exact Option.map_id'

/-- Where the rest does not panic or log either, neither does the whole. -/
theorem of_bind {plain : Except Error Value} {next : Value → Audit Event Error Result}
    {plainNext : Value → Except Error Result}
    (same : ∀ value, plain = .ok value → next value = of (plainNext value)) :
    (of plain >>= next) = of (plain >>= plainNext) := by
  cases plain with
  | error error => rfl
  | ok value => exact (of_ok_bind value next).trans (same value rfl)

/-! ## Accounts of the log -/

structure Account (Event : Type) where
  allowed : Event → Prop
  cost : Event → Nat
  limit : Nat

variable {account : Account Event} {count : Nat} {audited : Audit Event Error Value}
  {plain : Except Error Value} {after : Nat → Value → Prop}

def Account.total (account : Account Event) (events : List Event) : Nat := (events.map account.cost).sum

/-- The audited computation does what the plain one does, with allowed events only.  The costs are added
to `count`: `after` holds of the sum and of what is returned, and a failure is within the limit. -/
def Meets (account : Account Event) (count : Nat) (audited : Audit Event Error Value)
    (plain : Except Error Value) (after : Nat → Value → Prop) : Prop :=
  ∃ events, audited = some (events, plain) ∧ (∀ event ∈ events, account.allowed event) ∧
    match plain with
    | .ok value => after (count + account.total events) value
    | .error _ => count + account.total events ≤ account.limit

theorem Meets.pure {value : Value} (holds : after count value) :
    Meets account count (Pure.pure value : Audit Event Error Value) (.ok value) after :=
  ⟨[], rfl, by simp, holds⟩

theorem Meets.of (within : count ≤ account.limit) (holds : ∀ value, plain = .ok value → after count value) :
    Meets account count (of plain) plain after := by
  refine ⟨[], rfl, by simp, ?_⟩
  split
  next value => exact holds value rfl
  next => exact within

theorem Meets.mono {weaker : Nat → Value → Prop} (meets : Meets account count audited plain after)
    (implies : ∀ count value, plain = .ok value → after count value → weaker count value) :
    Meets account count audited plain weaker := by
  obtain ⟨events, same, allowed, accounted⟩ := meets
  refine ⟨events, same, allowed, ?_⟩
  split at accounted
  next value => exact implies _ value rfl accounted
  next => exact accounted

section

variable {next : Value → Audit Event Error Result} {plainNext : Value → Except Error Result}
  {afterAll : Nat → Result → Prop}

theorem Meets.bind (meets : Meets account count audited plain after)
    (continues : ∀ count value, plain = .ok value → after count value →
      Meets account count (next value) (plainNext value) afterAll) :
    Meets account count (audited >>= next) (plain >>= plainNext) afterAll := by
  obtain ⟨events, same, allowed, accounted⟩ := meets
  cases plain with
  | error error =>
    subst same
    exact ⟨events, rfl, allowed, accounted⟩
  | ok value =>
    obtain ⟨later, sameLater, allowedLater, accountedLater⟩ := continues _ value rfl accounted
    refine ⟨events ++ later, ?_, ?_, ?_⟩
    · subst same
      change Option.map (fun rest => (events ++ rest.1, rest.2)) (next value) = _
      rw [sameLater]
      rfl
    · intro event member
      exact (List.mem_append.mp member).elim (allowed event) (allowedLater event)
    · change match plainNext value with | .ok _ => _ | .error _ => _
      simpa only [Account.total, List.map_append, List.sum_append, Nat.add_assoc] using accountedLater

/-- A part whose plain value is known. -/
theorem Meets.ok_bind {value : Value} {plainRest : Except Error Result}
    (meets : Meets account count audited (.ok value) after)
    (continues : ∀ count, after count value → Meets account count (next value) plainRest afterAll) :
    Meets account count (audited >>= next) plainRest afterAll := by
  have whole : Meets account count (audited >>= next) (Except.ok value >>= fun _ => plainRest) afterAll := by
    refine meets.bind ?_
    rintro count _ ⟨⟩ holds
    exact continues count holds
  exact whole

/-- A part that neither panics nor logs. -/
theorem Meets.of_bind (within : count ≤ account.limit)
    (continues : ∀ value, plain = .ok value → Meets account count (next value) (plainNext value) afterAll) :
    Meets account count (Audit.of plain >>= next) (plain >>= plainNext) afterAll := by
  have quiet : Meets account count (Audit.of plain) plain (fun reached _ => reached = count) :=
    .of within fun _ _ => rfl
  refine quiet.bind ?_
  rintro _ value isValue rfl
  exact continues value isValue

theorem Meets.log {event : Event} {next : Unit → Audit Event Error Result} {plain : Except Error Result}
    (allowed : account.allowed event)
    (continues : Meets account (count + account.cost event) (next ()) plain afterAll) :
    Meets account count (Audit.log event >>= next) plain afterAll := by
  obtain ⟨events, same, allowedLater, accounted⟩ := continues
  refine ⟨event :: events, ?_, ?_, ?_⟩
  · change Option.map (fun rest => ([event] ++ rest.1, rest.2)) (next ()) = _
    rw [same]
    rfl
  · exact List.forall_mem_cons.mpr ⟨allowed, allowedLater⟩
  · simpa only [Account.total, List.map_cons, List.sum_cons, Nat.add_assoc] using accounted

end

end Audit

end Foundations
