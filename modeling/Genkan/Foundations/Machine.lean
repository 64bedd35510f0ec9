import Genkan.Foundations.Audit
import Genkan.Foundations.Checked
import Genkan.Foundations.Results

/-! # Machine operations and loops of audited computations

The operations on machine words and the accesses to memory that panic, each with the condition under
which it does not, and the loops over a list, which log each turn.
-/

namespace Foundations.Audit

open Foundations.Results

variable {Event Error State α β : Type}

/-! ## Operations -/

def add (left right : Nat) : Audit Event Error Nat := .expect (Checked.add 64 left right)

def sub (left right : Nat) : Audit Event Error Nat := .expect (Checked.sub left right)

def mul (left right : Nat) : Audit Event Error Nat := .expect (Checked.mul 64 left right)

/-- A shift by the width of the word panics, and bits are lost without a panic. -/
def shiftLeft (value amount : Nat) : Audit Event Error Nat :=
  .expect (if amount < 64 then some (value * 2 ^ amount % 2 ^ 64) else none)

def index (list : List α) (position : Nat) : Audit Event Error α := .expect list[position]?

variable {left right : Nat}

theorem add_eq (fits : left + right < 2 ^ 64) :
    (add left right : Audit Event Error Nat) = .of (.ok (left + right)) := by
  rw [add, Checked.add_eq fits]
  rfl

theorem sub_eq (covers : right ≤ left) :
    (sub left right : Audit Event Error Nat) = .of (.ok (left - right)) := by
  rw [sub, Checked.sub_eq covers]
  rfl

theorem mul_eq (fits : left * right < 2 ^ 64) :
    (mul left right : Audit Event Error Nat) = .of (.ok (left * right)) := by
  rw [mul, Checked.mul_eq fits]
  rfl

theorem shiftLeft_eq {value amount : Nat} (narrow : amount < 64) (fits : value * 2 ^ amount < 2 ^ 64) :
    (shiftLeft value amount : Audit Event Error Nat) = .of (.ok (value * 2 ^ amount)) := by
  rw [shiftLeft, if_pos narrow, Nat.mod_eq_of_lt fits]
  rfl

theorem index_eq {list : List α} {position : Nat} {value : α} (found : list[position]? = some value) :
    (index list position : Audit Event Error α) = .of (.ok value) := by
  rw [index, found]
  rfl

theorem index_getD {list : List α} {position : Nat} (within : position < list.length) (default : α) :
    (index list position : Audit Event Error α) = .of (.ok (list.getD position default)) := by
  apply index_eq
  rw [List.getD_eq_getElem?_getD, List.getElem?_eq_getElem within, Option.getD_some]

/-! ## Loops -/

/-- Computes on every item, one turn for each. -/
def each (event : Event) (body : α → Audit Event Error β) : List α → Audit Event Error (List β)
  | [] => pure []
  | item :: items => do
    log event
    let result ← body item
    let results ← each event body items
    pure (result :: results)

/-- Updates a state with every item, one turn for each. -/
def loop (event : Event) (body : State → α → Audit Event Error State) :
    List α → State → Audit Event Error State
  | [], state => pure state
  | item :: items, state => do
    log event
    let state ← body state item
    loop event body items state

variable {account : Account Event} {count : Nat} {event : Event}

/-- Turns of a bounded cost. -/
theorem Meets.each {body : α → Audit Event Error β} {plain : α → Except Error β} {items : List α} (cost : Nat)
    (allowed : account.allowed event) (within : count + items.length * cost ≤ account.limit)
    (turn : ∀ item ∈ items, ∀ count, count + cost ≤ account.limit →
      Meets account (count + account.cost event) (body item) (plain item)
        fun reached _ => reached ≤ count + cost) :
    Meets account count (Audit.each event body items) (items.mapM plain)
      fun reached _ => reached ≤ count + items.length * cost := by
  induction items generalizing count with
  | nil => exact .pure (Nat.le_add_right count _)
  | cons item items inductionHypothesis =>
    rw [List.length_cons, Nat.succ_mul] at within
    rw [List.mapM_cons, Audit.each]
    refine .log allowed ?_
    refine (turn item List.mem_cons_self count (by omega)).bind ?_
    intro reached result _ paid
    have rest := inductionHypothesis (show reached + items.length * cost ≤ account.limit by omega)
      fun later member => turn later (List.mem_cons_of_mem item member)
    refine rest.bind ?_
    intro finish results _ paidRest
    refine .pure ?_
    rw [List.length_cons, Nat.succ_mul]
    omega

/-- Turns that keep an invariant of what is left, what was spent and the state. -/
theorem Meets.loop {body : State → α → Audit Event Error State} {plain : State → α → Except Error State}
    (invariant : List α → Nat → State → Prop) (allowed : account.allowed event)
    (turn : ∀ item rest count state, invariant (item :: rest) count state →
      Meets account (count + account.cost event) (body state item) (plain state item) (invariant rest))
    {items : List α} {state : State} (holds : invariant items count state) :
    Meets account count (Audit.loop event body items state) (items.foldlM plain state) (invariant []) := by
  induction items generalizing count state with
  | nil => exact .pure holds
  | cons item items inductionHypothesis =>
    rw [List.foldlM_cons, Audit.loop]
    refine .log allowed ((turn item items count state holds).bind ?_)
    intro reached next _ kept
    exact inductionHypothesis kept

end Foundations.Audit
