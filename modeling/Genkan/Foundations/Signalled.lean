import Mathlib.Logic.Basic

/-! # A slot and its signal

Something fills a slot and then sends a signal; a listener hears of all the signals so far at once, and takes
what the slot holds.  What lies in the slot is covered as long as the listener is still to hear of it, or
owes a look for another reason.
-/

namespace Foundations

universe u v w

/-- `unsent` says that the slot has been filled without a signal since. -/
structure Slot (Filler : Type u) (Label : Type v) (Value : Type w) where
  next : Filler → Label → Option Filler
  pending : Filler → Option Value
  take : Filler → Filler
  sends : Filler → Label → Bool
  unsent : Filler → Prop

/-- The filler with the number of its signals, and with how many of them the listener has heard of. -/
structure Source (Filler : Type u) where
  filler : Filler
  version : Nat
  seen : Nat
  deriving DecidableEq

namespace Source

variable {Filler : Type u}

def fresh (filler : Filler) : Source Filler := { filler, version := 0, seen := 0 }

def hear (source : Source Filler) : Option (Source Filler) :=
  if source.seen = source.version then none else some { source with seen := source.version }

end Source

namespace Slot

variable {Filler : Type u} {Label : Type v} {Value : Type w} (slot : Slot Filler Label Value)

def advance (source : Source Filler) (label : Label) : Option (Source Filler) :=
  (slot.next source.filler label).map fun filler =>
    { filler
      version := source.version + if slot.sends source.filler label then 1 else 0
      seen := source.seen }

def takeLatest : Option (Source Filler) → Option Value × Option (Source Filler)
  | none => (none, none)
  | some source => (slot.pending source.filler, some { source with filler := slot.take source.filler })

/-- Taking empties the slot, and whoever fills it signals that. -/
structure Lawful : Prop where
  takes : ∀ filler, slot.pending (slot.take filler) = none
  fills : ∀ {filler after : Filler} {label : Label}, slot.next filler label = some after →
    slot.pending after ≠ none → slot.pending filler ≠ none ∨ slot.unsent after
  remembers : ∀ {filler after : Filler} {label : Label}, slot.next filler label = some after →
    slot.unsent filler → slot.sends filler label = true ∨ slot.unsent after

/-- A change is still to be heard of, or to be signalled. -/
def Changing (source : Source Filler) : Prop := slot.unsent source.filler ∨ source.seen ≠ source.version

structure Covered (owed : Prop) (source : Source Filler) : Prop where
  heard : source.seen ≤ source.version
  covered : slot.pending source.filler ≠ none → slot.Changing source ∨ owed

variable {slot} {owed : Prop} {source after : Source Filler}

theorem Covered.of_empty (heard : source.seen ≤ source.version) (empty : slot.pending source.filler = none) :
    slot.Covered owed source :=
  ⟨heard, fun pending => absurd empty pending⟩

theorem Covered.of_owed (heard : source.seen ≤ source.version) (owes : owed) : slot.Covered owed source :=
  ⟨heard, fun _ => .inr owes⟩

theorem Covered.mono {later : Prop} (covered : slot.Covered owed source) (keeps : owed → later) :
    slot.Covered later source :=
  ⟨covered.heard, fun pending => (covered.covered pending).imp_right keeps⟩

theorem Covered.advance (lawful : slot.Lawful) (covered : slot.Covered owed source) {label : Label}
    (steps : slot.advance source label = some after) : slot.Covered owed after := by
  obtain ⟨filler, fills, isAfter⟩ := Option.map_eq_some_iff.mp steps
  have heard := covered.heard
  subst isAfter
  constructor
  · exact Nat.le_trans heard (Nat.le_add_right _ _)
  · intro pending
    by_cases sends : slot.sends source.filler label = true
    · -- A signal that has just been sent is not heard of yet.
      left
      right
      simp only [sends, if_true]
      omega
    · simp only [Changing, sends, Bool.false_eq_true, if_false, Nat.add_zero]
      cases lawful.fills fills pending with
      | inl before =>
        cases covered.covered before with
        | inl changing =>
          left
          cases changing with
          | inl unsent => exact .inl ((lawful.remembers fills unsent).resolve_left sends)
          | inr unheard => exact .inr unheard
        | inr owes => exact .inr owes
      | inr unsent => exact .inl (.inl unsent)

theorem hear_heard (hears : source.hear = some after) : after.seen ≤ after.version := by
  simp only [Source.hear, Option.ite_none_left_eq_some, Option.some.injEq] at hears
  obtain ⟨_, isAfter⟩ := hears
  subst isAfter
  exact Nat.le_refl _

end Slot

end Foundations
