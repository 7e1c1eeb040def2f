import UntitledGame.Lib.Runs
import Mathlib.Algebra.BigOperators.Group.List.Basic
import Mathlib.Algebra.Order.Field.Basic
import Mathlib.Tactic.Linarith
import Mathlib.Tactic.Ring

/-!
# Steps of fixed length

A loop saves up the time that passes, at most a cap of it, and spends what it has
saved in steps of a fixed length. `Spends` says what one turn of such a loop does
to the savings and to the number of steps; what a step does beside that is left
open. A turn loses time only if it takes longer than the cap less one step
(`overrun`), so a run of turns takes as many steps as the time that has passed
makes room for, but for what the overruns cost (`run_steps`).
-/

namespace UntitledGame.Lib.Pacing

variable {K : Type*} [Field K] [LinearOrder K] [IsStrictOrderedRing K]

/-- The time saved up, and the number of steps taken. -/
structure Savings (K : Type*) where
  saved : K
  steps : Nat

variable (length cap : K)

/-- Between two turns less than a step is saved. -/
structure Settled (a : Savings K) : Prop where
  nonneg : 0 ≤ a.saved
  short : a.saved < length

/-- One turn, in which so much time has passed. -/
structure Spends (elapsed : K) (before after : Savings K) : Prop where
  balance : after.saved + after.steps * length =
    min (before.saved + elapsed) cap + before.steps * length
  settled : Settled length after

/-- The most that the cap can cost in one turn. -/
def overrun (elapsed : K) : K := max 0 (elapsed - (cap - length))

omit [IsStrictOrderedRing K] in
theorem overrun_nonneg (elapsed : K) : 0 ≤ overrun length cap elapsed := le_max_left _ _

variable {length cap}

/-- A turn loses nothing, or no more than its overrun. -/
theorem Spends.lost {elapsed : K} {before after : Savings K} (hbefore : Settled length before)
    (h : Spends length cap elapsed before after) :
    after.saved + after.steps * length ≤ before.saved + before.steps * length + elapsed ∧
      before.saved + before.steps * length + elapsed ≤
        after.saved + after.steps * length + overrun length cap elapsed := by
  have hbalance := h.balance
  have hshort := hbefore.short
  rcases le_total (before.saved + elapsed) cap with hfits | hover
  · rw [min_eq_left hfits] at hbalance
    have hnonneg := overrun_nonneg length cap elapsed
    constructor
    · linarith only [hbalance]
    · linarith only [hbalance, hnonneg]
  · rw [min_eq_right hover] at hbalance
    have hcost : elapsed - (cap - length) ≤ overrun length cap elapsed := le_max_right _ _
    constructor
    · linarith only [hbalance, hover]
    · linarith only [hbalance, hshort, hcost]

/-- A turn takes no more steps than the cap makes room for. -/
theorem Spends.steps_le {elapsed : K} {before after : Savings K} {most : Nat}
    (h : Spends length cap elapsed before after) (hlength : 0 < length)
    (hcap : cap < (most + 1) * length) : after.steps ≤ before.steps + most := by
  have hspent : (after.steps : K) * length < (before.steps + most + 1 : K) * length := by
    have hbalance := h.balance
    have hnonneg := h.settled.nonneg
    have hleast : min (before.saved + elapsed) cap ≤ cap := min_le_right _ _
    calc
      (after.steps : K) * length ≤ cap + before.steps * length := by
        linarith only [hbalance, hnonneg, hleast]
      _ < (most + 1) * length + before.steps * length := by linarith only [hcap]
      _ = (before.steps + most + 1 : K) * length := by ring
  have hlt := lt_of_mul_lt_mul_right hspent hlength.le
  exact_mod_cast Nat.lt_succ_iff.mp (by exact_mod_cast hlt)

section Runs

variable {σ ε : Type*} {step : σ → ε → σ} {account : σ → Savings K} {elapsed : ε → K}

/-- The turns of a run spend what passes. -/
def Paces (step : σ → ε → σ) (account : σ → Savings K) (elapsed : ε → K) (length cap : K) : Prop :=
  ∀ s e, Settled length (account s) → 0 ≤ elapsed e →
    Spends length cap (elapsed e) (account s) (account (step s e))

/-- The books of a run: what has passed is saved, spent or lost to an overrun. -/
theorem run_balance (hpaces : Paces step account elapsed length cap) {s : σ}
    (hs : Settled length (account s)) {events : List ε} (hevents : ∀ e ∈ events, 0 ≤ elapsed e) :
    let a := account s
    let b := account (Lib.Runs.run step s events)
    Settled length b ∧
      b.saved + b.steps * length ≤ a.saved + a.steps * length + (events.map elapsed).sum ∧
      a.saved + a.steps * length + (events.map elapsed).sum ≤
        b.saved + b.steps * length + (events.map fun e => overrun length cap (elapsed e)).sum := by
  induction events generalizing s with
  | nil => simpa using hs
  | cons e events ih =>
      have hspends := hpaces s e hs (hevents e List.mem_cons_self)
      obtain ⟨hmost, hleast⟩ := hspends.lost hs
      obtain ⟨hsettled, hmost', hleast'⟩ :=
        ih hspends.settled fun d hd => hevents d (List.mem_cons_of_mem e hd)
      refine ⟨hsettled, ?_, ?_⟩
      · rw [List.map_cons, List.sum_cons]
        exact hmost'.trans (by linarith only [hmost])
      · rw [List.map_cons, List.map_cons, List.sum_cons, List.sum_cons, Lib.Runs.run_cons]
        linarith only [hleast, hleast']

/-- The steps of a run: as many as the time makes room for, but for the overruns and less than one
step at either end. -/
theorem run_steps (hpaces : Paces step account elapsed length cap) {s : σ}
    (hs : Settled length (account s)) {events : List ε} (hevents : ∀ e ∈ events, 0 ≤ elapsed e) :
    let before := ((account s).steps : K)
    let after := ((account (Lib.Runs.run step s events)).steps : K)
    (after - before) * length < (events.map elapsed).sum + length ∧
      (events.map elapsed).sum < (after - before + 1) * length +
        (events.map fun e => overrun length cap (elapsed e)).sum := by
  obtain ⟨⟨hnonneg, hshort⟩, hmost, hleast⟩ := run_balance hpaces hs hevents
  have hbefore := hs.nonneg
  have hbefore' := hs.short
  constructor
  · linarith only [hmost, hnonneg, hbefore']
  · linarith only [hleast, hshort, hbefore]

end Runs

section Pairs

variable {σ ε σ' ε' : Type*} {step : σ → ε → σ} {account : σ → Savings K} {elapsed : ε → K}
  {step' : σ' → ε' → σ'} {account' : σ' → Savings K} {elapsed' : ε' → K} {cap' : K}

/-- Of two loops that run for the same time, one gets ahead by less than two steps, and by what the
overruns of the other cost that one. -/
theorem run_ahead (hpaces : Paces step account elapsed length cap)
    (hpaces' : Paces step' account' elapsed' length cap') {s : σ} {s' : σ'}
    (hs : Settled length (account s)) (hs' : Settled length (account' s')) {events : List ε}
    {events' : List ε'} (hevents : ∀ e ∈ events, 0 ≤ elapsed e)
    (hevents' : ∀ e ∈ events', 0 ≤ elapsed' e)
    (htime : (events.map elapsed).sum = (events'.map elapsed').sum) :
    let steps : K := (account (Lib.Runs.run step s events)).steps - (account s).steps
    let steps' : K := (account' (Lib.Runs.run step' s' events')).steps - (account' s').steps
    (steps - steps') * length <
      2 * length + (events'.map fun e => overrun length cap' (elapsed' e)).sum := by
  obtain ⟨hmost, -⟩ := run_steps hpaces hs hevents
  obtain ⟨-, hleast⟩ := run_steps hpaces' hs' hevents'
  rw [htime] at hmost
  linarith only [hmost, hleast]

end Pairs

end UntitledGame.Lib.Pacing
