import Mathlib.Algebra.Order.Group.Defs
import Mathlib.Algebra.Order.Monoid.Unbundled.Basic
import Mathlib.Data.List.Basic

/-!
# Keepalive

One side sends beats, and the other gives it up when it has heard nothing for too
long. A beat is under way for less than `delay`. If no beat comes more than `gap`
after the one before, the silence stays below `gap + delay`.

`Covered` is the invariant. It is about the time of the last beat, the time at which
the other side last heard one, and the times at which those under way were sent.
-/

namespace UntitledGame.Lib.Keepalive

variable {T : Type*} [AddCommGroup T] [LinearOrder T]

/-- The last beat has been heard, or one is under way that follows closely on the one that was
heard last. -/
def Covered (gap spoken heard : T) (flight : List T) : Prop :=
  spoken ≤ heard ∨ ∃ sent ∈ flight, sent ≤ heard + gap

variable {gap spoken heard : T} {flight : List T}

/-- Whoever has just been heard is covered. -/
theorem covered_of_heard (h : spoken ≤ heard) : Covered gap spoken heard flight := Or.inl h

/-- More beats under way. -/
theorem Covered.mono (h : Covered gap spoken heard flight) {flight' : List T}
    (hflight : flight ⊆ flight') : Covered gap spoken heard flight' := by
  cases h with
  | inl hheard => exact Or.inl hheard
  | inr hsent =>
      obtain ⟨sent, hmem, hle⟩ := hsent
      exact Or.inr ⟨sent, hflight hmem, hle⟩

variable [IsOrderedAddMonoid T]

/-- The next beat comes in time. -/
theorem Covered.beat (h : Covered gap spoken heard flight) {now : T} (hnow : now ≤ spoken + gap)
    {flight' : List T} (hflight : flight ⊆ flight') (hmem : now ∈ flight') :
    Covered gap now heard flight' := by
  cases h with
  | inl hheard =>
      have hclose : spoken + gap ≤ heard + gap := add_le_add_left hheard gap
      exact Or.inr ⟨now, hmem, hnow.trans hclose⟩
  | inr hsent =>
      obtain ⟨sent, hsent, hle⟩ := hsent
      exact Or.inr ⟨sent, hflight hsent, hle⟩

/-- As long as the next beat is not overdue and no beat under way is, the silence is bounded. -/
theorem Covered.heard_recently (h : Covered gap spoken heard flight) {now delay : T}
    (hspoken : now < spoken + gap + delay) (hflight : ∀ sent ∈ flight, now < sent + delay) :
    now < heard + gap + delay := by
  cases h with
  | inl hheard =>
      calc
        now < spoken + gap + delay := hspoken
        _ ≤ heard + gap + delay := add_le_add_left (add_le_add_left hheard gap) delay
  | inr hsent =>
      obtain ⟨sent, hmem, hle⟩ := hsent
      calc
        now < sent + delay := hflight sent hmem
        _ ≤ heard + gap + delay := add_le_add_left hle delay

end UntitledGame.Lib.Keepalive
